import GhostbustersServer.Rmc.Dispatcher
import GhostbustersServer.Rmc.Types

/-!
# Notification events (`protocols/notification.py`)

    [u32 source][u32 type][u32 param1][u32 param2][qString text]

pushed as proto 14, method 1.  Of category 900 a lobby needs two: 900002 inserts
`param1` into a client's roster of gathering `param2`, 900000 erases it.
-/

namespace Ghostbusters

open Py

namespace Notification

def proto : Nat := 14

def methodProcessEvent : Nat := 1

def eventParticipation : Nat := 900002

def eventEndParticipation : Nat := 900000

def eventStatsProcessed : Nat := 901001

def buildNotificationEvent (source type param1 param2 : Nat) (text : Str) : Bytes :=
  wU32 source ++ wU32 type ++ wU32 param1 ++ wU32 param2 ++ wQstring text

/-- `getattr(getattr(p, "conn", None), "station_urls", ()) or ()`. -/
def stationUrls (w : World) (p : Participant) : List Str :=
  match p.conn with
  | some c => (w.heap c).stationUrls
  | none => []

/-- The URL of `subject` that a client at `recipientRemote` can reach: the LAN one
behind the same public address, else the WAN one. -/
def reachableUrlFor (w : World) (subject : Participant) (recipientRemote : Remote) : Str :=
  match stationUrls w subject with
  | [] => []
  | url :: urls =>
    if subject.remote.ip = recipientRemote.ip then url else (url :: urls).getLast (by simp)

variable (env : Env)

/-- One event pushed to the connection at a remote, if there is one. -/
def pushTo (port : Port) (remote : Remote) (payload : World → Bytes) : Srv Unit := do
  let w ← Act.get
  match (w.connections port).get? remote with
  | none => pure ()
  | some c => RMCDispatcher.sendRequest env port c proto methodProcessEvent (payload w)

/-- The text of an event: a URL of the subject in an INSERT, if it is listed. -/
def eventText (w : World) (type : Nat) (subject : Option Participant) (recipient : Participant) :
    Str :=
  match subject with
  | some s => if type = eventParticipation then reachableUrlFor w s recipient.remote else []
  | none => []

/-- The event pushed to every recipient but its subject. -/
def broadcast (port : Port) (recipients : List Participant) (subjectPid type gatheringId : Nat) :
    Srv Unit :=
  let subject := recipients.find? fun p => p.pid == subjectPid
  Act.forEach recipients fun p =>
    if p.pid = subjectPid then pure ()
    else pushTo env port p.remote fun w =>
      buildNotificationEvent subjectPid type subjectPid gatheringId (eventText w type subject p)

def pushJoin (port : Port) (g : Gathering) (joinerPid : Nat) : Srv Unit :=
  broadcast env port g.participants joinerPid eventParticipation g.id

def pushLeave (port : Port) (g : Gathering) (leaverPid : Nat) : Srv Unit :=
  broadcast env port g.participants leaverPid eventEndParticipation g.id

/-- One INSERT to the joiner for each participant, the joiner included. -/
def pushParticipantsToJoiner (port : Port) (g : Gathering) (joinerPid : Nat) : Srv Unit := do
  match g.participants.find? fun p => p.pid == joinerPid with
  | none => pure ()
  | some joiner => do
    let w ← Act.get
    match (w.connections port).get? joiner.remote with
    | none => pure ()
    | some joinerConn =>
      Act.forEach g.participants fun p => do
        let w ← Act.get
        RMCDispatcher.sendRequest env port joinerConn proto methodProcessEvent
          (buildNotificationEvent p.pid eventParticipation p.pid g.id
            (reachableUrlFor w p joiner.remote))

/-! ## Stats processed -/

def vec0Len : Nat := 122

def vec1Len : Nat := 31

/-- `[u32 n][f32 * n]` of a slot function. -/
def wVec (n : Nat) (slot : Nat → F32) : Bytes :=
  wU32 n ++ (List.range n).flatMap fun i => Career.packF32 (slot i)

/-- A SparkStats list of one entry, with the career cash in slot 10 of its vec1. -/
def statsBlob (pid txn : Nat) (cash : F32) : Bytes :=
  wU32 1 ++ wU32 pid ++ wQstring ("PID".toList ++ decimal pid) ++ wU32 txn ++
    wVec vec0Len (fun _ => 0) ++ wVec vec1Len (fun i => if i = 10 then cash else 0) ++ wU32 0

/-- The text of this event is the blob itself, without a NUL. -/
def buildStatsProcessed (gatheringId sourcePid pid txn : Nat) (cash : F32) : Bytes :=
  let blob := statsBlob pid txn cash
  wU32 sourcePid ++ wU32 eventStatsProcessed ++ wU32 gatheringId ++ wU32 txn ++
    wU16 blob.length ++ blob

/-- To each participant, its own transaction id and cash. -/
def pushStatsProcessed (port : Port) (g : Gathering) (sourcePid : Nat) (txnIds : Dict Nat Nat)
    (careerCash : Dict Nat F32) : Srv Unit :=
  Act.forEach g.participants fun p =>
    pushTo env port p.remote fun _ =>
      buildStatsProcessed g.id sourcePid p.pid ((txnIds.get? p.pid).getD 0)
        ((careerCash.get? p.pid).getD 0)

end Notification
end Ghostbusters
