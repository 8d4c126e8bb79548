import GhostbustersServer.Protocols.GameLobby

/-!
# The match lifecycle (`protocols/game.py`, proto 60: m 12, 15, 19, 23, 26)

A lobby collects the stats reports of a match: the PIDs it expects, the PIDs that
have reported, and a timer from the first report on.  The batch is fired when all
have reported, or by the timer.
-/

namespace Ghostbusters

open Py

namespace Lobby

/-- The timer of a lobby is cancelled, if one is armed. -/
def disarm (l : Lobby) (gid : Nat) : Lobby :=
  match l.get gid with
  | none => l
  | some g =>
    { l.update gid (fun g => { g with m12TimeoutHandle := none }) with
      timers := l.timers.filter fun t => g.m12TimeoutHandle != some t.id }

/-- `loop.call_later`, if no timer is armed. -/
def arm (l : Lobby) (port : Port) (gid : Nat) : Lobby :=
  match l.get gid with
  | none => l
  | some g =>
    if g.m12TimeoutHandle.isSome then l
    else
      { l.update gid (fun g => { g with m12TimeoutHandle := some l.nextTimer }) with
        timers := l.timers ++ [{ id := l.nextTimer, port, gatheringId := gid }]
        nextTimer := l.nextTimer + 1 }

end Lobby

namespace Game

def methodEndGame : Nat := 15

def methodCloseParticipation : Nat := 19

def methodOpenParticipation : Nat := 23

def methodLifecycle26 : Nat := 26

/-! ## The batch -/

/-- The expected reporters are the participants, if none are expected yet. -/
def snapshot (g : Gathering) : Gathering :=
  if g.expectedM12Pids = ∅ then { g with expectedM12Pids := g.pids.toFinset, receivedM12Pids := ∅ }
  else g

def clearBatch (g : Gathering) : Gathering :=
  { g with expectedM12Pids := ∅, receivedM12Pids := ∅ }

def addReport (pid : Nat) (g : Gathering) : Gathering :=
  { g with receivedM12Pids := insert pid g.receivedM12Pids }

variable (env : Env)

/-- The cash of every participant. -/
def careerCashOf (g : Gathering) : Srv (Dict Nat F32) := do
  let cash ← Act.mapEach g.participants fun p => Srv.useDb do
    Db.dbCon env
    let x ← Career.careerCash env p.pid
    return (p.pid, x)
  return Dict.ofEntries cash

/-- The event of every participant, with its own transaction id and cash. -/
def announceBatch (port : Port) (g : Gathering) : Srv Unit := do
  let cash ← careerCashOf env g
  let w ← Act.get
  Notification.pushStatsProcessed env port g (env.firstOf g.receivedM12Pids) w.statsTxnId cash

def fireStatsProcessedBatch (port : Port) (gid : Nat) (reason : Reason) : Srv Unit := do
  let w ← Act.get
  match w.lobby.get gid with
  | none => pure ()
  | some g => do
    Srv.log (.statsBatch gid reason g.pids)
    Srv.modifyLobby fun l => l.disarm gid
    if g.receivedM12Pids = ∅ then pure ()
    else do
      announceBatch env port g
      Srv.setGathering gid clearBatch

/-- The first gathering the player is in. -/
def senderGathering (l : Lobby) (pid : Nat) : Option Gathering :=
  l.registry.allGatherings.find? fun g => g.participants.any fun p => p.pid == pid

/-- A report is counted; the last one fires the batch, the first one arms the timer. -/
def trackReport (port : Port) (pid : Nat) : Srv Unit := do
  let w ← Act.get
  match senderGathering w.lobby pid with
  | none => pure ()
  | some g => do
    Srv.setGathering g.id snapshot
    Srv.setGathering g.id (addReport pid)
    let w ← Act.get
    match w.lobby.get g.id with
    | none => pure ()
    | some g =>
      if g.expectedM12Pids ⊆ g.receivedM12Pids then
        fireStatsProcessedBatch env port g.id .allReported
      else if env.loopRunning then Srv.modifyLobby fun l => l.arm port g.id
      else pure ()

/-- `_on_m12_timeout`, called by the event loop once the timer has expired. -/
def onM12Timeout (port : Port) (gid : Nat) : Srv Unit := do
  let w ← Act.get
  match w.lobby.get gid with
  | none => pure ()
  | some g =>
    if g.receivedM12Pids = ∅ ∨ g.expectedM12Pids ⊆ g.receivedM12Pids then
      Srv.setGathering gid fun g => { g with m12TimeoutHandle := none }
    else fireStatsProcessedBatch env port gid .timeout

/-- `_cancel_m12_batch`. -/
def cancelM12Batch (gid : Nat) : Srv Unit :=
  Srv.modifyLobby fun l => (l.disarm gid).update gid clearBatch

/-! ## ReportStats -/

/-- The upload is stored; the cash before it and after it. -/
def storeReport (pid : Nat) (params : Bytes) : Srv (F32 × F32) := do
  let prior ← Act.ofExcept (index (← getCareerVec0 env pid) 5)
  match parseM12SenderVec0 params pid with
  | none => return (prior, prior)
  | some [] => return (prior, prior)
  | some vec0 => do
    let rows ← Act.ofExcept (computeLeaderboardRows vec0 (parseM12SenderVec1 params pid))
    let _ ← persistMatch env pid vec0 rows
    return (prior, vec0.getD 5 prior)

/-- `_STATS_TXN_ID[pid] += 1`: the new transaction id. -/
def bumpTxn (pid : Nat) : Srv Nat := do
  let w ← Act.get
  let txn := (w.statsTxnId.get? pid).getD 0 + 1
  Act.modify fun w => { w with statsTxnId := w.statsTxnId.set pid txn }
  return txn

/-- The four bit masks that the log line shows as integers. -/
def logMasks (vec0 : List F32) : Except Exc Unit := do
  let _ ← toInt (vec0.getD 59 0)
  let _ ← toInt (vec0.getD 14 0)
  let _ ← toInt (vec0.getD 84 0)
  let _ ← toInt (vec0.getD 58 0)
  return ()

def reportStats (port : Port) (c : ConnId) (request : Request) : Srv Message := do
  let conn ← Srv.conn c
  let pid := conn.userPid
  let (prior, newTotal) ← storeReport env pid request.params
  let newTxn ← bumpTxn pid
  Act.ofExcept (logMasks ((parseM12SenderVec0 request.params pid).getD []))
  trackReport env port pid
  return ok request (buildSparkstatsReply pid prior newTotal newTxn)

/-! ## The other calls -/

/-- The lobby an EndGame is about: the named one, or else one the caller is in. -/
def endGameTarget (l : Lobby) (pid : Nat) (request : Request) : Option Gathering :=
  let gid := leadingGid request
  match (if gid = 0 then none else l.get gid) with
  | some g => some g
  | none => (l.registry.findGatheringsContainingPid pid).head?

def endGame (c : ConnId) (request : Request) : Srv Message := do
  let conn ← Srv.conn c
  let w ← Act.get
  match endGameTarget w.lobby conn.userPid request with
  | none => pure ()
  | some g =>
    if g.m12TimeoutHandle.isSome ∨ g.expectedM12Pids ≠ ∅ then cancelM12Batch g.id else pure ()
  return ok request []

/-- m 12, 15 and 26; an upload without params is only acknowledged. -/
def lifecycleStub (port : Port) (c : ConnId) (request : Request) : Srv Message :=
  if request.method = methodReportStats ∧ request.params ≠ [] then reportStats env port c request
  else if request.method = methodEndGame then endGame c request
  else pure (ok request [])

def closeParticipation (request : Request) : Srv Message := do
  let gid := leadingGid request
  if gid ≠ 0 then do
    Srv.modifyRegistry fun reg => (reg.setClosed gid true).2
    Srv.setGathering gid snapshot
  return ok request []

def openParticipation (request : Request) : Srv Message := do
  let gid := leadingGid request
  if gid ≠ 0 then Srv.modifyRegistry fun reg => (reg.setClosed gid false).2
  return ok request []

end Game
end Ghostbusters
