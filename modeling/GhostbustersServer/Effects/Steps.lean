import GhostbustersServer.Effects.Handlers

/-!
# What one event can do

    step_cases          Stepped env w e (step env e w)
    Stepped.lobby       a step makes one move of the lobby machine
    Stepped.wired       the connection tables keep pointing at their connections

`Stepped` has one constructor for each way an event can go; every invariant of the
server is proved by going through it.
-/

namespace Ghostbusters

open Py Act

/-! ## States on the way -/

namespace World

def logged (w : World) (e : TraceEntry) : World := { w with trace := w.trace ++ [e] }

def withConn (w : World) (c : ConnId) (conn : Connection) : World :=
  { w with heap := Function.update w.heap c conn }

@[simp] theorem heap_withConn (w : World) (c k : ConnId) (conn : Connection) :
    (w.withConn c conn).heap k = if k = c then conn else w.heap k :=
  Function.update_apply _ _ _ _

theorem withConn_withConn (w : World) (c : ConnId) (conn conn' : Connection) :
    (w.withConn c conn).withConn c conn' = w.withConn c conn' := by
  unfold withConn
  simp only [Function.update_idem]

/-- A SYN: a new connection is in the table. -/
def synReceived (env : Env) (w : World) (port : Port) (remote : Remote) : World :=
  { w with
    randomPos := w.randomPos + 5
    heap := Function.update w.heap w.nextConn
      { Connection.new remote port (fun i => env.random (w.randomPos + i)) w.now with
        state := .synRecv }
    nextConn := w.nextConn + 1
    connections := Function.update w.connections port ((w.connections port).set remote w.nextConn) }

/-- A connection whose CONNECT has been taken. -/
def established (w : World) (c : ConnId) (pkt : PRUDPPacket) : Connection :=
  { w.heap c with
    clientSessionId := pkt.sessionId
    clientConnSig := pkt.connectionSignature
    state := .established
    lastActivity := w.now }

/-- The hooks have run for a remote and its table entry is gone. -/
def evicted (w : World) (port : Port) (remote : Remote) : World :=
  { w with
    trace := w.trace ++ [.closeHooks port remote]
    lobby := w.lobby.closeRemote remote
    connections := Function.update w.connections port ((w.connections port).erase remote) }

/-- An entry that is left was there before. -/
theorem of_get?_evicted {w : World} {port port' : Port} {remote remote' : Remote} {c : ConnId}
    (h : ((w.evicted port remote).connections port').get? remote' = some c) :
    (w.connections port').get? remote' = some c := by
  simp only [evicted, Function.update_apply] at h
  split at h
  · next hp =>
    rw [Dict.get?_erase] at h
    split at h
    · cases h
    · rw [hp]
      exact h
  · exact h

/-- So was every entry behind a SYN but the new one. -/
theorem of_get?_synReceived {env : Env} {w : World} {port port' : Port} {remote remote' : Remote}
    {c : ConnId} (h : ((w.synReceived env port remote).connections port').get? remote' = some c) :
    (port' = port ∧ remote' = remote ∧ c = w.nextConn) ∨
      (w.connections port').get? remote' = some c := by
  simp only [synReceived, Function.update_apply] at h
  split at h
  · next hp =>
    rw [Dict.get?_set] at h
    split at h
    · next hr => exact .inl ⟨hp, hr, (Option.some.inj h).symm⟩
    · right
      rw [hp]
      exact h
  · exact .inr h

end World

/-- A connection without what packets that deliver nothing change of it. -/
def Connection.session (conn : Connection) : Connection :=
  { conn with lastClientPid := 0, fragmentBuffer := [], lastActivity := 0 }

/-- A packet was received, and perhaps acknowledged, but nothing was delivered; or
time has passed. -/
structure Received (w w' : World) : Prop where
  session : ∀ k, (w'.heap k).session = (w.heap k).session
  rest : w' = { w with heap := w'.heap, trace := w'.trace, now := w'.now }
  packets : LogGrows TraceEntry.IsPacket w w'

namespace Received

theorem refl (w : World) : Received w w := ⟨fun _ => rfl, rfl, LogGrows.refl _ w⟩

theorem trans {a b c : World} (h1 : Received a b) (h2 : Received b c) : Received a c := by
  refine ⟨fun k => (h2.session k).trans (h1.session k), ?_, h1.packets.trans h2.packets⟩
  have h := h2.rest
  rw [h1.rest] at h
  exact h

theorem withConn (w : World) (c : ConnId) (conn : Connection)
    (h : conn.session = (w.heap c).session) : Received w (w.withConn c conn) := by
  refine ⟨?_, rfl, .of_same rfl⟩
  intro k
  rw [World.heap_withConn]
  split
  · next hk => rw [hk, h]
  · rfl

theorem logged (w : World) (e : TraceEntry) (h : e.IsPacket) : Received w (w.logged e) :=
  ⟨fun _ => rfl, rfl, [e], rfl, by simpa using h⟩

section
variable {w w' : World} (h : Received w w')
include h

theorem sends : LogGrows TraceEntry.IsSend w w' := h.packets.mono fun _ he => he.isSend

theorem lobby : w'.lobby = w.lobby := by rw [h.rest]

theorem connections : w'.connections = w.connections := by rw [h.rest]

theorem nextConn : w'.nextConn = w.nextConn := by rw [h.rest]

theorem db : w'.db = w.db := by rw [h.rest]

theorem state (k : ConnId) : (w'.heap k).state = (w.heap k).state :=
  (congrArg Connection.state (h.session k) :)

theorem remote (k : ConnId) : (w'.heap k).remote = (w.heap k).remote :=
  (congrArg Connection.remote (h.session k) :)

theorem localPort (k : ConnId) : (w'.heap k).localPort = (w.heap k).localPort :=
  (congrArg Connection.localPort (h.session k) :)

theorem userPid (k : ConnId) : (w'.heap k).userPid = (w.heap k).userPid :=
  (congrArg Connection.userPid (h.session k) :)

theorem stationUrls (k : ConnId) : (w'.heap k).stationUrls = (w.heap k).stationUrls :=
  (congrArg Connection.stationUrls (h.session k) :)

end
end Received

variable (env : Env)

/-! ## Packets -/

namespace PRUDPServer

theorem sendAck_run (type : PacketType) (c : ConnId) (clientPid : Nat) (w : World) :
    (sendAck env type c clientPid).run w =
      if env.packetEncodes (ackPacket (w.heap c) type clientPid) then
        (.ok (), w.logged (.sendto (w.heap c).remote (ackPacket (w.heap c) type clientPid)))
      else (.error .encodeError, w) := by
  unfold sendAck sendPacket Srv.conn
  simp only [run_bind, run_get, run_pure]
  split <;> rfl

/-- An acknowledgment changes nothing but the log. -/
theorem sendAck_received (type : PacketType) (c : ConnId) (clientPid : Nat) (w : World) :
    Received w ((sendAck env type c clientPid).after w) := by
  unfold after
  rw [sendAck_run]
  split
  · exact Received.logged w _ trivial
  · exact Received.refl w

theorem touch_run (c : ConnId) (w : World) :
    (touch c).run w = (.ok (), w.withConn c { w.heap c with lastActivity := w.now }) := rfl

/-- What `_handle_data` makes of a packet on an established connection: the body it
delivers, and the fragments it leaves in the buffer. -/
def reassemble (conn : Connection) (pkt : PRUDPPacket) : Option Bytes × Bytes :=
  if pkt.payload = [] ∨
      (pkt.flags.reliable ∧ ¬ env.packetEncodes (ackPacket conn .data pkt.packetId)) then
    (none, conn.fragmentBuffer)
  else
    match Payload.open? env pkt.payload with
    | none => (none, conn.fragmentBuffer)
    | some body =>
      if 0 < pkt.fragmentId then (none, conn.fragmentBuffer ++ body)
      else (some (conn.fragmentBuffer ++ body), [])

/-- Nothing to read, or an acknowledgment that raises before the payload is. -/
theorem reassemble_dropped (conn : Connection) (pkt : PRUDPPacket)
    (h : pkt.payload = [] ∨
      (pkt.flags.reliable ∧ ¬ env.packetEncodes (ackPacket conn .data pkt.packetId))) :
    reassemble env conn pkt = (none, conn.fragmentBuffer) := by
  unfold reassemble
  rw [if_pos h]

/-- The states an acknowledged packet goes through. -/
theorem acknowledge_run (c : ConnId) (pkt : PRUDPPacket) (w : World) :
    (pkt.flags.reliable ∧ ¬ env.packetEncodes (ackPacket (w.heap c) .data pkt.packetId) ∧
      (acknowledge env c pkt).run w = (.error .encodeError, w)) ∨
    (¬ (pkt.flags.reliable ∧ ¬ env.packetEncodes (ackPacket (w.heap c) .data pkt.packetId)) ∧
      ∃ w1, (acknowledge env c pkt).run w = (.ok (), w1) ∧ Received w w1 ∧
        (w1.heap c).fragmentBuffer = (w.heap c).fragmentBuffer) := by
  unfold acknowledge
  by_cases hr : pkt.flags.reliable = true
  · by_cases he : env.packetEncodes (ackPacket (w.heap c) .data pkt.packetId) = true
    · right
      refine ⟨by simp [he], ?_⟩
      let w1 := w.logged (.sendto (w.heap c).remote (ackPacket (w.heap c) .data pkt.packetId))
      let conn := { w.heap c with lastClientPid := max (w.heap c).lastClientPid pkt.packetId }
      have h1 : Received w w1 := Received.logged w _ trivial
      refine ⟨w1.withConn c conn, ?_, ?_, ?_⟩
      · have hs := sendAck_run env .data c pkt.packetId w
        rw [if_pos he] at hs
        rw [if_pos hr, sendDataAck, run_bind_ok hs]
        rfl
      · exact h1.trans (Received.withConn w1 c conn rfl)
      · rw [World.heap_withConn, if_pos rfl]
    · left
      have hs := sendAck_run env .data c pkt.packetId w
      rw [if_neg he] at hs
      refine ⟨hr, he, ?_⟩
      rw [if_pos hr, sendDataAck, run_bind_error hs]
  · right
    refine ⟨fun h => hr h.1, w, ?_, Received.refl w, rfl⟩
    rw [if_neg hr]
    rfl

theorem handleFragment_spec (port : Port) (c : ConnId) (fragmentId : Nat) (body : Bytes)
    (w : World) :
    ∃ w1, Received w w1 ∧
      (w1.heap c).fragmentBuffer =
        (if 0 < fragmentId then (w.heap c).fragmentBuffer ++ body else []) ∧
      (handleFragment env port c fragmentId body).after w =
        if 0 < fragmentId then w1
        else (deliver env port c ((w.heap c).fragmentBuffer ++ body)).after w1 := by
  unfold handleFragment Srv.conn after
  simp only [run_bind, run_get, run_pure]
  by_cases hf : 0 < fragmentId
  · simp only [if_pos hf]
    let conn := { w.heap c with fragmentBuffer := (w.heap c).fragmentBuffer ++ body }
    refine ⟨w.withConn c conn, Received.withConn w c conn rfl, ?_, rfl⟩
    rw [World.heap_withConn, if_pos rfl]
  · simp only [if_neg hf]
    let conn := { w.heap c with fragmentBuffer := [] }
    refine ⟨w.withConn c conn, Received.withConn w c conn rfl, ?_, rfl⟩
    rw [World.heap_withConn, if_pos rfl]

/-- **DATA on an established connection.** -/
theorem handleData_spec (port : Port) (pkt : PRUDPPacket) (c : ConnId) (w : World)
    (hs : (w.heap c).state = .established) :
    ∃ w1, Received w w1 ∧ (w1.heap c).fragmentBuffer = (reassemble env (w.heap c) pkt).2 ∧
      (handleData env port pkt c).after w =
        match (reassemble env (w.heap c) pkt).1 with
        | none => w1
        | some body => (deliver env port c body).after w1 := by
  let w0 := w.withConn c { w.heap c with lastActivity := w.now }
  have h0 : Received w w0 := Received.withConn w c _ rfl
  have hb0 : (w0.heap c).fragmentBuffer = (w.heap c).fragmentBuffer := by
    simp only [w0, World.heap_withConn, if_pos]
  have hack : ackPacket (w0.heap c) .data pkt.packetId = ackPacket (w.heap c) .data pkt.packetId := by
    simp only [w0, World.heap_withConn, if_pos]
    rfl
  have hrun : (handleData env port pkt c).after w =
      (if pkt.flags.ack ∧ pkt.payload = [] then pure ()
        else do
          acknowledge env c pkt
          if pkt.payload = [] then pure ()
          else
            match Payload.open? env pkt.payload with
            | none => pure ()
            | some body => handleFragment env port c pkt.fragmentId body : Srv Unit).after w0 := by
    unfold handleData Srv.conn after
    simp only [run_bind, run_get, run_pure]
    rw [if_neg (fun h => h hs)]
    rfl
  rw [hrun]
  by_cases h1 : pkt.flags.ack ∧ pkt.payload = []
  · have hre := reassemble_dropped env (w.heap c) pkt (.inl h1.2)
    refine ⟨w0, h0, by rw [hre, hb0], ?_⟩
    rw [if_pos h1, hre]
    rfl
  · rw [if_neg h1]
    rcases acknowledge_run env c pkt w0 with ⟨hr, he, ha⟩ | ⟨hn, w1, ha, hrec, hb1⟩
    · rw [hack] at he
      have hre := reassemble_dropped env (w.heap c) pkt (.inr ⟨hr, he⟩)
      refine ⟨w0, h0, by rw [hre, hb0], ?_⟩
      unfold after
      rw [run_bind_error ha, hre]
    · rw [hack] at hn
      rw [hb0] at hb1
      unfold after
      rw [run_bind_ok ha]
      by_cases hp : pkt.payload = []
      · have hre := reassemble_dropped env (w.heap c) pkt (.inl hp)
        refine ⟨w1, h0.trans hrec, by rw [hre, hb1], ?_⟩
        rw [if_pos hp, hre]
        rfl
      · have hre : ¬ (pkt.payload = [] ∨ (pkt.flags.reliable = true ∧
            ¬ env.packetEncodes (ackPacket (w.heap c) .data pkt.packetId) = true)) := by
          rintro (h | h)
          · exact hp h
          · exact hn h
        rw [if_neg hp]
        unfold reassemble
        rw [if_neg hre]
        cases hopen : Payload.open? env pkt.payload with
        | none => exact ⟨w1, h0.trans hrec, hb1, rfl⟩
        | some body =>
          obtain ⟨w2, hrec2, hb2, hw2⟩ := handleFragment_spec env port c pkt.fragmentId body w1
          rw [hb1] at hb2 hw2
          refine ⟨w2, (h0.trans hrec).trans hrec2, ?_, ?_⟩
          · rw [hb2]
            by_cases hf : 0 < pkt.fragmentId
            · simp only [if_pos hf]
            · simp only [if_neg hf]
          · refine hw2.trans ?_
            by_cases hf : 0 < pkt.fragmentId
            · simp only [if_pos hf]
            · simp only [if_neg hf]
              rfl

/-! ## The other packets -/

theorem handleSyn_spec (port : Port) (remote : Remote) (w : World) :
    Acked (w.synReceived env port remote) ((handleSyn env port remote).after w) := by
  have hsend : Within Acked (sendSynAck env w.nextConn) :=
    Within.bind (conn_acked _) fun conn => sendPacket_acked env _ _
  exact hsend (w.synReceived env port remote)

/-- What a CONNECT proves of its sender: session key, PID and check value. -/
def proven (port : Port) (pkt : PRUDPPacket) : Option (Bytes × Nat × Nat) :=
  if port = .secure ∧ pkt.payload ≠ [] then
    match Payload.open? env pkt.payload with
    | none => none
    | some incoming => (Kerberos.verifyConnect env.crypto incoming).toOption
  else none

/-- The token that a CONNECT is answered with; empty if it proves nothing. -/
def connectToken (port : Port) (pkt : PRUDPPacket) : Bytes :=
  match proven env port pkt with
  | none => []
  | some (_, _, check) => Kerberos.buildConnectAckToken check

/-- A CONNECT is taken, whether or not it proves anything. -/
def connected (w : World) (port : Port) (pkt : PRUDPPacket) (c : ConnId) : World :=
  match proven env port pkt with
  | none => w.withConn c (w.established c pkt)
  | some (sessionKey, pid, _) =>
    (w.withConn c { w.established c pkt with sessionKey := sessionKey, userPid := pid }).logged
      (.connectAck c)

/-- What the connect-ack handler leaves, and that it returns. -/
theorem connectAckPayload_run (port : Port) (pkt : PRUDPPacket) (c : ConnId) (w : World)
    (h : port = .secure ∧ pkt.payload ≠ []) :
    (connectAckPayload env c pkt.payload).run w = (.ok (connectToken env port pkt),
      match proven env port pkt with
      | none => w
      | some (sessionKey, pid, _) =>
        (w.withConn c { w.heap c with sessionKey := sessionKey, userPid := pid }).logged
          (.connectAck c)) := by
  unfold connectAckPayload connectToken proven Srv.conn Kerberos.handleConnectAck
  simp only [run_bind, run_get, run_pure]
  rw [if_pos h]
  cases Payload.open? env pkt.payload with
  | none => rfl
  | some incoming =>
    simp only
    cases hv : Kerberos.verifyConnect env.crypto incoming with
    | error e => rfl
    | ok r => rfl

theorem handleConnect_refused (port : Port) (pkt : PRUDPPacket) (c : ConnId) (w : World)
    (h : (w.heap c).state ≠ .synRecv ∨ pkt.signature ≠ (w.heap c).serverConnSig) :
    (handleConnect env port pkt c).after w = w := by
  unfold handleConnect Srv.conn after
  simp only [run_bind, run_get, run_pure]
  rw [if_pos h]
  rfl

/-- **CONNECT**: the connection is established, and then the answer is sent. -/
theorem handleConnect_run (port : Port) (pkt : PRUDPPacket) (c : ConnId) (w : World)
    (h1 : (w.heap c).state = .synRecv) (h2 : pkt.signature = (w.heap c).serverConnSig) :
    (handleConnect env port pkt c).run w =
      (sendConnectAck env c pkt.packetId (connectToken env port pkt)).run
        (connected env w port pkt c) := by
  let w1 := w.withConn c (w.established c pkt)
  have hw1 : w1.heap c = w.established c pkt := by
    simp only [w1, World.heap_withConn, if_pos]
  have hrun : (handleConnect env port pkt c).run w =
      (if port = .secure ∧ pkt.payload ≠ [] then
        connectAckPayload env c pkt.payload >>= sendConnectAck env c pkt.packetId
        else sendConnectAck env c pkt.packetId [] : Srv Unit).run w1 := by
    unfold handleConnect Srv.conn
    simp only [run_bind, run_get, run_pure]
    rw [if_neg (by simp [h1, h2])]
    let conn := { w.heap c with
      clientSessionId := pkt.sessionId
      clientConnSig := pkt.connectionSignature
      state := .established }
    have htouch : (touch c).run (w.withConn c conn) = (.ok (), w1) := by
      rw [touch_run, World.heap_withConn, if_pos rfl, World.withConn_withConn]
      rfl
    show (touch c >>= fun _ => if port = .secure ∧ pkt.payload ≠ [] then
      connectAckPayload env c pkt.payload >>= sendConnectAck env c pkt.packetId
      else sendConnectAck env c pkt.packetId []).run (w.withConn c conn) = _
    rw [run_bind_ok htouch]
  rw [hrun]
  unfold connected
  by_cases hp : port = .secure ∧ pkt.payload ≠ []
  · rw [if_pos hp, run_bind_ok (connectAckPayload_run env port pkt c w1 hp)]
    cases hpr : proven env port pkt with
    | none => rfl
    | some r =>
      have hw2 : w1.withConn c { w1.heap c with sessionKey := r.1, userPid := r.2.1 } =
          w.withConn c { w.established c pkt with sessionKey := r.1, userPid := r.2.1 } := by
        rw [hw1, World.withConn_withConn]
      simp only [hw2]
  · have hnone : proven env port pkt = none := by
      unfold proven
      rw [if_neg hp]
    unfold connectToken
    rw [if_neg hp, hnone]

/-- The packet of `_send_connect_ack`. -/
def connectAckPacket (conn : Connection) (clientPid : Nat) (ackPayload : Bytes) : PRUDPPacket :=
  let p := { basePacket conn .connect { ack := true } with
    sessionId := conn.serverSessionId, packetId := clientPid, connectionSignature := [0, 0, 0, 0] }
  if ackPayload = [] then p
  else { p with flags := { ack := true, hasSize := true }, payload := Payload.wrap env ackPayload false }

theorem sendConnectAck_run (c : ConnId) (clientPid : Nat) (ackPayload : Bytes) (w : World) :
    (sendConnectAck env c clientPid ackPayload).run w =
      if env.packetEncodes (connectAckPacket env (w.heap c) clientPid ackPayload) then
        (.ok (), w.logged (.sendto (w.heap c).remote
          (connectAckPacket env (w.heap c) clientPid ackPayload)))
      else (.error .encodeError, w) := by
  have hsend : (sendConnectAck env c clientPid ackPayload).run w =
      (sendPacket env c (connectAckPacket env (w.heap c) clientPid ackPayload)).run w := rfl
  rw [hsend]
  unfold sendPacket Srv.conn
  simp only [run_bind, run_get, run_pure]
  split <;> rfl

theorem sendConnectAck_acked (c : ConnId) (clientPid : Nat) (payload : Bytes) :
    Within Acked (sendConnectAck env c clientPid payload) :=
  Within.bind (conn_acked _) fun _ => sendPacket_acked env _ _

theorem handleConnect_spec (port : Port) (pkt : PRUDPPacket) (c : ConnId) (w : World)
    (h1 : (w.heap c).state = .synRecv) (h2 : pkt.signature = (w.heap c).serverConnSig) :
    Acked (connected env w port pkt c) ((handleConnect env port pkt c).after w) := by
  unfold after
  rw [handleConnect_run env port pkt c w h1 h2]
  exact sendConnectAck_acked env c pkt.packetId _ _

theorem forEach_evict (port : Port) (remotes : List Remote) (w : World) :
    (Act.forEach remotes (evict port)).run w =
      (.ok (), remotes.foldl (fun w remote => w.evicted port remote) w) := by
  induction remotes generalizing w with
  | nil => rfl
  | cons remote remotes ih => exact ih (w.evicted port remote)

theorem reapIdle_spec (port : Port) (timeout : Nat) (w : World) :
    (reapIdle port timeout).after w =
      (staleRemotes w port timeout).foldl (fun w remote => w.evicted port remote) w := by
  unfold reapIdle after
  rw [run_get_bind, forEach_evict]

/-- **DISCONNECT**: a connection whose acknowledgment cannot be sent stays. -/
theorem handleDisconnect_spec (port : Port) (pkt : PRUDPPacket) (remote : Remote) (c : ConnId)
    (w : World) :
    (handleDisconnect env port pkt remote (some c)).after w =
      if env.packetEncodes (ackPacket (w.heap c) .disconnect pkt.packetId) then
        ((w.logged (.sendto (w.heap c).remote (ackPacket (w.heap c) .disconnect pkt.packetId))).withConn
          c { w.heap c with state := .closed }).evicted port remote
      else w := by
  have hack := sendAck_run env .disconnect c pkt.packetId w
  unfold after handleDisconnect sendDisconnectAck
  simp only
  by_cases he : env.packetEncodes (ackPacket (w.heap c) .disconnect pkt.packetId) = true
  · rw [if_pos he] at hack
    rw [run_bind_ok hack, if_pos he]
    rfl
  · rw [if_neg he] at hack
    rw [run_bind_error hack, if_neg he]

theorem handleDisconnect_some (port : Port) (pkt : PRUDPPacket) (remote : Remote) (c : ConnId)
    (w : World) :
    Received w ((handleDisconnect env port pkt remote (some c)).after w) ∨
    ∃ w1, Received w w1 ∧ (handleDisconnect env port pkt remote (some c)).after w =
      (w1.withConn c { w1.heap c with state := .closed }).evicted port remote := by
  rw [handleDisconnect_spec]
  split
  · refine .inr ⟨w.logged (.sendto (w.heap c).remote _), ?_, rfl⟩
    exact Received.logged w _ trivial
  · exact .inl (Received.refl w)

theorem handlePing_received (pkt : PRUDPPacket) (c : ConnId) (w : World) :
    Received w ((handlePing env pkt c).after w) := by
  let w0 := w.withConn c { w.heap c with lastActivity := w.now }
  have h0 : Received w w0 := Received.withConn w c _ rfl
  have hrun : (handlePing env pkt c).after w =
      (if pkt.flags.needAck then sendPingAck env c pkt.packetId else pure () : Srv Unit).after w0 :=
    rfl
  rw [hrun]
  split
  · exact h0.trans (sendAck_received env .ping c pkt.packetId w0)
  · exact h0

/-- The body that an event delivers, the port and the connection it came in on. -/
def bodyOf (w : World) : Event → Option (Port × ConnId × Bytes)
  | .packet port remote pkt =>
    match pkt.type, (w.connections port).get? remote with
    | .data, some c =>
      if (w.heap c).state = .established then
        (reassemble env (w.heap c) pkt).1.map fun body => (port, c, body)
      else none
    | _, _ => none
  | _ => none

theorem bodyOf_eq_some {w : World} {e : Event} {port : Port} {c : ConnId} {body : Bytes}
    (h : bodyOf env w e = some (port, c, body)) :
    ∃ remote pkt, e = .packet port remote pkt ∧ pkt.type = .data ∧
      (w.connections port).get? remote = some c ∧ (w.heap c).state = .established ∧
      (reassemble env (w.heap c) pkt).1 = some body := by
  unfold bodyOf at h
  split at h
  · next port' remote pkt =>
    split at h
    · next c' ht hc =>
      split at h
      · next hs =>
        obtain ⟨b, hb, he⟩ := Option.map_eq_some_iff.mp h
        cases he
        exact ⟨remote, pkt, rfl, ht, hc, hs, hb⟩
      · cases h
    · cases h
  · cases h

/-- The request that an event delivers. -/
def requestOf (w : World) (e : Event) : Option (Port × ConnId × Request) :=
  match bodyOf env w e with
  | none => none
  | some (port, c, body) =>
    match Rmc.decode body with
    | .ok (.request request) => some (port, c, request)
    | _ => none

end PRUDPServer

open PRUDPServer

/-! ## Every event -/

/-- A CONNECT that is taken. -/
def Connects (w : World) (port : Port) (remote : Remote) (pkt : PRUDPPacket) (c : ConnId) : Prop :=
  pkt.type = .connect ∧ (w.connections port).get? remote = some c ∧ (w.heap c).state = .synRecv ∧
    pkt.signature = (w.heap c).serverConnSig

inductive Stepped (w : World) : Event → World → Prop where
  /-- nothing that matters to a session or a lobby -/
  | still {e w'} : bodyOf env w e = none → Received w w' → Stepped w e w'
  | syn {port remote pkt w'} : pkt.type = .syn → Acked (w.synReceived env port remote) w' →
      Stepped w (.packet port remote pkt) w'
  | connect {port remote pkt c w'} : Connects w port remote pkt c → proven env port pkt = none →
      Acked (w.withConn c (w.established c pkt)) w' → Stepped w (.packet port remote pkt) w'
  | connectAck {port remote pkt c sessionKey pid check w'} : Connects w port remote pkt c →
      proven env port pkt = some (sessionKey, pid, check) →
      Acked ((w.withConn c { w.established c pkt with sessionKey := sessionKey, userPid := pid }).logged
        (.connectAck c)) w' → Stepped w (.packet port remote pkt) w'
  /-- a body that is no request -/
  | unhandled {e port c body w1} : bodyOf env w e = some (port, c, body) → requestOf env w e = none →
      Received w w1 → Stepped w e (w1.logged (.onPayload port c body))
  | request {e port c body req w1} : bodyOf env w e = some (port, c, body) →
      requestOf env w e = some (port, c, req) → Received w w1 →
      Stepped w e ((RMCDispatcher.respond env port c req >>= RMCDispatcher.send env port c).after
        (w1.logged (.onPayload port c body)))
  | strayDisconnect {port remote pkt} : pkt.type = .disconnect →
      (w.connections port).get? remote = none →
      Stepped w (.packet port remote pkt) (w.evicted port remote)
  | disconnect {port remote pkt c w1} : pkt.type = .disconnect →
      (w.connections port).get? remote = some c → Received w w1 →
      Stepped w (.packet port remote pkt)
        ((w1.withConn c { w1.heap c with state := .closed }).evicted port remote)
  | reap {port timeout} : Stepped w (.reap port timeout)
      ((staleRemotes w port timeout).foldl (fun w remote => w.evicted port remote) w)
  | timer {id} : Stepped w (.timer id) ((expire env id).after w)

/-- A body is handed to the dispatcher. -/
theorem deliver_stepped {w w1 : World} {e : Event} {port : Port} {c : ConnId} {body : Bytes}
    (hb : bodyOf env w e = some (port, c, body)) (hr : Received w w1) :
    Stepped env w e ((deliver env port c body).after w1) := by
  have hrun : (deliver env port c body).after w1 =
      (RMCDispatcher.onPayload env port c body).after (w1.logged (.onPayload port c body)) := rfl
  rw [hrun]
  have hreq : requestOf env w e = match Rmc.decode body with
      | .ok (.request request) => some (port, c, request)
      | _ => none := by
    unfold requestOf
    rw [hb]
  unfold RMCDispatcher.onPayload
  split
  · next req hd =>
    refine .request hb ?_ hr
    rw [hreq, hd]
  · next hd =>
    refine .unhandled hb ?_ hr
    rw [hreq]
    split
    · next req hd' => exact absurd hd' (hd req)
    · rfl

/-- **What one event can do.** -/
theorem step_cases (e : Event) (w : World) : Stepped env w e (step env e w) := by
  cases e with
  | packet port remote pkt =>
    unfold step handleEvent handle after
    rw [run_get_bind]
    dsimp only
    split
    · next ht => exact .syn ht (handleSyn_spec env port remote w)
    · next c ht hc =>
      by_cases h : (w.heap c).state ≠ .synRecv ∨ pkt.signature ≠ (w.heap c).serverConnSig
      · have hw := handleConnect_refused env port pkt c w h
        unfold after at hw
        rw [hw]
        exact .still (by simp [bodyOf, ht]) (Received.refl w)
      · rw [not_or, not_not, not_not] at h
        have hq := handleConnect_spec env port pkt c w h.1 h.2
        unfold connected at hq
        cases hp : proven env port pkt with
        | none =>
          rw [hp] at hq
          exact .connect ⟨ht, hc, h.1, h.2⟩ hp hq
        | some r =>
          rw [hp] at hq
          exact .connectAck ⟨ht, hc, h.1, h.2⟩ hp hq
    · next c ht hc =>
      by_cases hs : (w.heap c).state = .established
      · obtain ⟨w1, hr, -, hw⟩ := handleData_spec env port pkt c w hs
        unfold after at hw
        rw [hw]
        have hb : bodyOf env w (.packet port remote pkt) =
            (reassemble env (w.heap c) pkt).1.map fun body => (port, c, body) := by
          simp only [bodyOf, ht, hc, if_pos hs]
        cases hre : (reassemble env (w.heap c) pkt).1 with
        | none => exact .still (by rw [hb, hre]; rfl) hr
        | some body => exact deliver_stepped env (by rw [hb, hre]; rfl) hr
      · have hw : (handleData env port pkt c).run w = (.ok (), w) := by
          unfold handleData Srv.conn
          simp only [run_bind, run_get, run_pure]
          rw [if_pos hs]
          rfl
        rw [hw]
        exact .still (by simp [bodyOf, ht, hc, hs]) (Received.refl w)
    · next c ht hc => exact .still (by simp [bodyOf, ht]) (handlePing_received env pkt c w)
    · next ht =>
      cases hc : (w.connections port).get? remote with
      | none => exact .strayDisconnect ht hc
      | some c =>
        rcases handleDisconnect_some env port pkt remote c w with h | ⟨w1, hr, h⟩
        · exact .still (by simp [bodyOf, ht]) h
        · unfold after at h
          rw [h]
          exact .disconnect ht hc hr
    · next h1 h2 h3 h4 h5 =>
      refine .still ?_ (Received.refl w)
      simp only [bodyOf]
  | reap port timeout =>
    have h := reapIdle_spec port timeout w
    show Stepped env w _ ((reapIdle port timeout).after w)
    rw [h]
    exact .reap
  | timer id => exact .timer
  | elapse dt => exact .still rfl ⟨fun _ => rfl, rfl, .of_same rfl⟩

/-- A packet of a listed connection, by its type. -/
theorem step_packet {port : Port} {remote : Remote} {c : ConnId} {w : World}
    (hc : (w.connections port).get? remote = some c) (pkt : PRUDPPacket) :
    step env (.packet port remote pkt) w =
      match pkt.type with
      | .syn => (handleSyn env port remote).after w
      | .connect => (handleConnect env port pkt c).after w
      | .data => (handleData env port pkt c).after w
      | .ping => (handlePing env pkt c).after w
      | .disconnect => (handleDisconnect env port pkt remote (some c)).after w
      | .other _ => w := by
  unfold step handleEvent handle after
  rw [run_get_bind]
  dsimp only
  rw [hc]
  cases pkt.type <;> rfl

/-- An event that delivers a request. -/
theorem step_request {e : Event} {w : World} {port : Port} {c : ConnId} {req : Request}
    (h : requestOf env w e = some (port, c, req)) :
    ∃ body w1, Received w w1 ∧ step env e w =
      (RMCDispatcher.respond env port c req >>= RMCDispatcher.send env port c).after
        (w1.logged (.onPayload port c body)) := by
  have hbody : ∃ b, bodyOf env w e = some b := by
    unfold requestOf at h
    split at h
    · cases h
    · next b hb => exact ⟨_, hb⟩
  obtain ⟨⟨port', c', body'⟩, hb⟩ := hbody
  obtain ⟨remote, pkt, rfl, ht, -⟩ := bodyOf_eq_some env hb
  have hstep := step_cases env (.packet port' remote pkt) w
  generalize hw' : step env (.packet port' remote pkt) w = w' at hstep ⊢
  cases hstep with
  | still hn _ => cases hn.symm.trans hb
  | syn ht' _ => cases ht'.symm.trans ht
  | connect hc _ _ => cases hc.1.symm.trans ht
  | connectAck hc _ _ => cases hc.1.symm.trans ht
  | unhandled _ hn _ => cases hn.symm.trans h
  | @request _ port c body req w1 _ hreq hr =>
    cases hreq.symm.trans h
    exact ⟨body, w1, hr, rfl⟩
  | strayDisconnect ht' _ => cases ht'.symm.trans ht
  | disconnect ht' _ _ => cases ht'.symm.trans ht

end Ghostbusters
