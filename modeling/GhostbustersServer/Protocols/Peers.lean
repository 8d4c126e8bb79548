import GhostbustersServer.Protocols.Notification
import GhostbustersServer.Protocols.Session

/-!
# NAT probes and lobby destruction (`protocols/nat.py`, `protocols/matchmaking.py`)
-/

namespace Ghostbusters

open Py

variable (env : Env)

namespace NatTraversal

def proto : Nat := 3

def methodRequestProbeInitiation : Nat := 1

def methodInitiateProbe : Nat := 2

/-- The connection of the first participant, over every gathering, one of whose
URLs is a target. -/
def findConnByUrls (w : World) (targetUrls : List Str) : Option ConnId :=
  let participants := w.lobby.registry.allGatherings.flatMap (·.participants)
  (participants.filterMap (·.conn)).find? fun c =>
    targetUrls.any fun u => (w.heap c).stationUrls.contains u

/-- Behind one public address only the LAN candidate is probed. -/
def probeCandidates (urls : List Str) (sameNat : Bool) : List Str :=
  if sameNat then urls.take 1 else urls

/-- One InitiateProbe per URL. -/
def pushProbes (port : Port) (c : ConnId) (urls : List Str) : Srv Unit :=
  Act.forEach urls fun url =>
    RMCDispatcher.sendRequest env port c proto methodInitiateProbe (wQstring url)

def emptyOk (request : Request) : Message :=
  .ok { proto, method := methodRequestProbeInitiation, callId := request.callId, ret := [] }

def urlList : Act Reader Exc (List Str) := do
  let urlCount ← Reader.u32
  Reader.qstrings urlCount

def requestProbeInitiation (port : Port) (c : ConnId) (request : Request) : Srv Message :=
  match Reader.parse urlList request.params with
  | .error _ => pure (emptyOk request)
  | .ok targetUrls => do
    let w ← Act.get
    match findConnByUrls w targetUrls with
    | none => pure (emptyOk request)
    | some target => do
      let sameNat := decide ((w.heap c).remote.ip = (w.heap target).remote.ip)
      pushProbes env port target (probeCandidates (w.heap c).stationUrls sameNat)
      pushProbes env port c (probeCandidates (w.heap target).stationUrls sameNat)
      pure (emptyOk request)

end NatTraversal

/-- The u32 at the start of the params, 0 if they are shorter. -/
def leadingGid (request : Request) : Nat :=
  if 4 ≤ request.params.length then ofLE (request.params.take 4) else 0

namespace Matchmaking

def proto : Nat := 21

def methodDestroyGathering : Nat := 36

def methodUpdateParticipantInfo : Nat := 39

def updateParticipantInfo (request : Request) : Srv Message :=
  pure (.ok { proto, method := methodUpdateParticipantInfo, callId := request.callId, ret := [] })

/-- Only the owner's call destroys; the others are told first. -/
def destroyGathering (port : Port) (c : ConnId) (request : Request) : Srv Message := do
  let gid := leadingGid request
  let conn ← Srv.conn c
  let w ← Act.get
  match w.lobby.get gid with
  | none => pure ()
  | some g =>
    if conn.userPid = g.ownerPid then do
      Notification.pushLeave env port g conn.userPid
      Srv.modifyRegistry fun reg => (reg.destroy gid).2
    else pure ()
  return .ok { proto, method := methodDestroyGathering, callId := request.callId, ret := [] }

end Matchmaking
end Ghostbusters
