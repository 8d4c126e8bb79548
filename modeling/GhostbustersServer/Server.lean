import GhostbustersServer.Protocols.GameLifecycle

/-!
# The server (`server.py`, `rmc/dispatcher.py`, `prudp/server.py`)

One step of the server is one event: a packet received by a port, the idle reaper
visiting a port, a timer expiring, or time passing.  An exception that leaves
the handling of an event changes nothing further.
-/

namespace Ghostbusters

open Py

variable (env : Env)

abbrev Handler : Type := Port → ConnId → Request → Srv Message

namespace RMCDispatcher

/-- What `protocols.register_all` registers, by (proto, method). -/
def handlers : List ((Nat × Nat) × Handler) :=
  [((Authentication.proto, Authentication.methodLogin), fun _ _ r => Authentication.login env r),
   ((Authentication.proto, Authentication.methodRequestTicket),
    fun _ _ r => Authentication.requestTicket env r),
   ((SecureConnection.proto, SecureConnection.methodRegisterEx),
    fun _ c r => SecureConnection.registerEx c r),
   ((AccountManagement.proto, AccountManagement.methodGetAccountInfo),
    fun _ _ r => AccountManagement.getAccountInfoPublicData r),
   ((Matchmaking.proto, Matchmaking.methodDestroyGathering),
    fun port c r => Matchmaking.destroyGathering env port c r),
   ((Matchmaking.proto, Matchmaking.methodUpdateParticipantInfo),
    fun _ _ r => Matchmaking.updateParticipantInfo r),
   ((NatTraversal.proto, NatTraversal.methodRequestProbeInitiation),
    fun port c r => NatTraversal.requestProbeInitiation env port c r),
   ((Game.proto, Game.methodCreateGathering), fun _ c r => Game.createGathering c r),
   ((Game.proto, Game.methodJoinGathering), fun port c r => Game.joinGathering env port c r),
   ((Game.proto, Game.methodLeaderboardSelf), fun _ c r => Game.leaderboardQuery env c r),
   ((Game.proto, Game.methodUserStats), fun _ _ r => Game.userStats env r),
   ((Game.proto, Game.methodFriendsList), fun _ _ r => Game.socialList r),
   ((Game.proto, Game.methodReportStats), fun port c r => Game.lifecycleStub env port c r),
   ((Game.proto, Game.methodEndGame), fun port c r => Game.lifecycleStub env port c r),
   ((Game.proto, Game.methodLeaveGathering), fun port c r => Game.leaveGathering env port c r),
   ((Game.proto, Game.methodLeaderboardGlobal), fun _ c r => Game.leaderboardQuery env c r),
   ((Game.proto, Game.methodCloseParticipation), fun _ _ r => Game.closeParticipation r),
   ((Game.proto, Game.methodSearchGatherings), fun _ _ r => Game.searchGatherings r),
   ((Game.proto, Game.methodQuickMatch), fun _ c r => Game.quickMatch c r),
   ((Game.proto, Game.methodInvitationsList), fun _ _ r => Game.socialList r),
   ((Game.proto, Game.methodOpenParticipation), fun _ _ r => Game.openParticipation r),
   ((Game.proto, Game.methodLifecycle26), fun port c r => Game.lifecycleStub env port c r)]

def handlerFor (request : Request) : Option Handler :=
  (handlers env).lookup (request.proto, request.method)

theorem handlerFor_eq {request : Request} {proto method : Nat} {handler : Handler}
    (hproto : request.proto = proto) (hmethod : request.method = method)
    (h : (handlers env).lookup (proto, method) = some handler) :
    handlerFor env request = some handler := by
  unfold handlerFor
  rw [hproto, hmethod]
  exact h

/-- The answer to a request that has no handler, or whose handler raised. -/
def failed (request : Request) (errorCode : Nat) : Message :=
  .error { proto := request.proto, callId := request.callId, errorCode }

/-- What a request is answered with. -/
def respond (port : Port) (c : ConnId) (request : Request) : Srv Message :=
  match handlerFor env request with
  | none => pure (failed request 0x80010001)
  | some handler => do
    match ← (handler port c request).attempt with
    | .ok response => pure response
    | .error _ => pure (failed request 0x80020001)

/-- `on_payload`: anything that is not a request is only logged. -/
def onPayload (port : Port) (c : ConnId) (body : Bytes) : Srv Unit :=
  match Rmc.decode body with
  | .ok (.request request) => do
    let response ← respond env port c request
    send env port c response
  | _ => pure ()

end RMCDispatcher

namespace PRUDPServer

/-! ## Per-packet dispatch -/

def handleSyn (port : Port) (remote : Remote) : Srv Unit := do
  let rand ← Srv.random env 5
  let w ← Act.get
  let c := w.nextConn
  let conn := { Connection.new remote port rand w.now with state := .synRecv }
  Act.modify fun w => { w with
    heap := Function.update w.heap c conn
    nextConn := c + 1
    connections := Function.update w.connections port ((w.connections port).set remote c) }
  sendSynAck env c

def touch (c : ConnId) : Srv Unit := do
  let w ← Act.get
  Srv.setConn c fun conn => { conn with lastActivity := w.now }

/-- The connect-ack handler on the payload of a CONNECT, and the payload of the
answer; empty when anything raises. -/
def connectAckPayload (c : ConnId) (payload : Bytes) : Srv Bytes := do
  let conn ← Srv.conn c
  match Payload.open? env payload with
  | none => pure []
  | some incoming =>
    match Kerberos.handleConnectAck env.crypto conn incoming with
    | .error _ => pure []
    | .ok (token, conn') => do
      Srv.setConn c fun _ => conn'
      Srv.log (.connectAck c)
      pure token

/-- Only the secure port has a connect-ack handler. -/
def handleConnect (port : Port) (pkt : PRUDPPacket) (c : ConnId) : Srv Unit := do
  let conn ← Srv.conn c
  if conn.state ≠ .synRecv ∨ pkt.signature ≠ conn.serverConnSig then pure ()
  else do
    Srv.setConn c fun conn => { conn with
      clientSessionId := pkt.sessionId
      clientConnSig := pkt.connectionSignature
      state := .established }
    touch c
    let ack ← if port = .secure ∧ pkt.payload ≠ [] then connectAckPayload env c pkt.payload
      else pure []
    sendConnectAck env c pkt.packetId ack

/-- The payload handler is called. -/
def deliver (port : Port) (c : ConnId) (body : Bytes) : Srv Unit := do
  Srv.log (.onPayload port c body)
  RMCDispatcher.onPayload env port c body

/-- A decrypted fragment: `fragment_id` above 0 says that more follow. -/
def handleFragment (port : Port) (c : ConnId) (fragmentId : Nat) (body : Bytes) : Srv Unit := do
  let conn ← Srv.conn c
  if 0 < fragmentId then
    Srv.setConn c fun conn => { conn with fragmentBuffer := conn.fragmentBuffer ++ body }
  else do
    Srv.setConn c fun conn => { conn with fragmentBuffer := [] }
    deliver env port c (conn.fragmentBuffer ++ body)

/-- A reliable packet is acknowledged and its id recorded. -/
def acknowledge (c : ConnId) (pkt : PRUDPPacket) : Srv Unit :=
  if pkt.flags.reliable then do
    sendDataAck env c pkt.packetId
    Srv.setConn c fun conn => { conn with lastClientPid := max conn.lastClientPid pkt.packetId }
  else pure ()

def handleData (port : Port) (pkt : PRUDPPacket) (c : ConnId) : Srv Unit := do
  let conn ← Srv.conn c
  if conn.state ≠ .established then pure ()
  else do
    touch c
    if pkt.flags.ack ∧ pkt.payload = [] then pure ()
    else do
      acknowledge env c pkt
      if pkt.payload = [] then pure ()
      else
        match Payload.open? env pkt.payload with
        | none => pure ()
        | some body => handleFragment env port c pkt.fragmentId body

def handlePing (pkt : PRUDPPacket) (c : ConnId) : Srv Unit := do
  touch c
  if pkt.flags.needAck then sendPingAck env c pkt.packetId else pure ()

/-- `_fire_close`: the hooks are the same on both ports. -/
def fireClose (port : Port) (remote : Remote) : Srv Unit := do
  Srv.log (.closeHooks port remote)
  Srv.modifyRegistry fun reg => (reg.destroyByOwnerRemote remote).2
  Srv.modifyRegistry fun reg => (reg.removeParticipantByRemote remote).2

/-- `connections.pop(remote, None)`. -/
def dropConnection (port : Port) (remote : Remote) : Srv Unit :=
  Act.modify fun w => { w with
    connections := Function.update w.connections port ((w.connections port).erase remote) }

/-- The hooks run and the table entry goes. -/
def evict (port : Port) (remote : Remote) : Srv Unit := do
  fireClose port remote
  dropConnection port remote

def handleDisconnect (port : Port) (pkt : PRUDPPacket) (remote : Remote) (conn : Option ConnId) :
    Srv Unit := do
  match conn with
  | none => pure ()
  | some c => do
    sendDisconnectAck env c pkt.packetId
    Srv.setConn c fun conn => { conn with state := .closed }
  evict port remote

/-- `_handle`. -/
def handle (port : Port) (pkt : PRUDPPacket) (remote : Remote) : Srv Unit := do
  let w ← Act.get
  let conn := (w.connections port).get? remote
  match pkt.type, conn with
  | .syn, _ => handleSyn env port remote
  | .connect, some c => handleConnect env port pkt c
  | .data, some c => handleData env port pkt c
  | .ping, some c => handlePing env pkt c
  | .disconnect, _ => handleDisconnect env port pkt remote conn
  | _, _ => pure ()

/-- The remotes of the connections idle for longer than the timeout. -/
def staleRemotes (w : World) (port : Port) (timeout : Nat) : List Remote :=
  ((w.connections port).values.filter fun c => timeout < w.now - (w.heap c).lastActivity).map
    fun c => (w.heap c).remote

def reapIdle (port : Port) (timeout : Nat) : Srv Unit := do
  let w ← Act.get
  Act.forEach (staleRemotes w port timeout) (evict port)

end PRUDPServer

/-! ## Events -/

inductive Event where
  /-- a packet from `remote` reaches a port -/
  | packet (port : Port) (remote : Remote) (pkt : PRUDPPacket)
  /-- `reap_idle(timeout)` of a port -/
  | reap (port : Port) (timeout : Nat)
  /-- a timer expires -/
  | timer (id : TimerId)
  | elapse (dt : Nat)
  deriving DecidableEq, Repr

/-- The event loop calls the handle of an expired timer, once. -/
def expire (id : TimerId) : Srv Unit := do
  let w ← Act.get
  match w.lobby.timers.find? fun t => t.id == id with
  | none => pure ()
  | some t => do
    Srv.modifyLobby fun l => { l with timers := l.timers.filter fun t => t.id != id }
    Game.onM12Timeout env t.port t.gatheringId

def handleEvent : Event → Srv Unit
  | .packet port remote pkt => PRUDPServer.handle env port pkt remote
  | .reap port timeout => PRUDPServer.reapIdle port timeout
  | .timer id => expire env id
  | .elapse dt => Act.modify fun w => { w with now := w.now + dt }

def step (e : Event) (w : World) : World := (handleEvent env e).after w

/-! ## The start -/

/-- The migrated database. -/
def Db.migrated : Db where
  tables :=
    { accounts := Dict.ofEntries [(1, "_server".toList), (2, "_authentication".toList)]
      nextPid := 10000, careerStats := Dict.empty, leaderboardStats := Dict.empty }

def World.initial : World where
  heap := default
  nextConn := 0
  connections := fun _ => Dict.empty
  serverCallId := fun _ => 0x10000
  lobby := Lobby.empty
  nextConnectionId := 1
  db := Db.migrated
  statsTxnId := Dict.empty
  now := 0
  randomPos := 0
  trace := []

end Ghostbusters
