import GhostbustersServer.Listener
import GhostbustersServer.Guarantees.Handshake
import GhostbustersServer.Guarantees.Responses

/-!
# From datagrams to packets

Everything else here is about packets that come one by one.  They come in datagrams, and a
packet that raises takes the ones behind it with it.

    refused             whether a packet raises: what the server has to send back cannot be
                        encoded, be it the acknowledgment or the answer
    handle_ok           it raises exactly then
    datagrams_refine    a run of datagrams is a run of packets: those of each datagram up to
                        the first that is refused
-/

namespace Ghostbusters
namespace Datagrams

open Py Act PRUDPServer

variable (env : Env)

/-! ## What a packet raises -/

/-- The packet of `_send_syn_ack`. -/
def synAckPacket (conn : Connection) : PRUDPPacket :=
  { basePacket conn .syn { ack := true } with
    signature := [0, 0, 0, 0], connectionSignature := conn.serverConnSig }

/-- The acknowledgment that is due for a packet. -/
def ackDue (w : World) (port : Port) (remote : Remote) (pkt : PRUDPPacket) : Option PRUDPPacket :=
  match pkt.type, (w.connections port).get? remote with
  | .syn, _ => some (synAckPacket ((w.synReceived env port remote).heap w.nextConn))
  | .connect, some c =>
    if (w.heap c).state = .synRecv ∧ pkt.signature = (w.heap c).serverConnSig then
      some (connectAckPacket env (w.established c pkt) pkt.packetId (connectToken env port pkt))
    else none
  | .data, some c =>
    if (w.heap c).state = .established ∧ pkt.flags.reliable ∧ ¬ (pkt.flags.ack ∧ pkt.payload = []) then
      some (ackPacket (w.heap c) .data pkt.packetId)
    else none
  | .ping, some c => if pkt.flags.needAck then some (ackPacket (w.heap c) .ping pkt.packetId) else none
  | .disconnect, some c => some (ackPacket (w.heap c) .disconnect pkt.packetId)
  | _, _ => none

/-- The last that was logged is a message that could not be sent. -/
def unsent (w : World) : Bool :=
  match w.trace.getLast? with
  | some (.sendFailed _ _ _) => true
  | _ => false

/-- The acknowledgment of a packet cannot be encoded, or the answer to its request cannot be sent. -/
def refused (w : World) (port : Port) (remote : Remote) (pkt : PRUDPPacket) : Bool :=
  (ackDue env w port remote pkt).any (fun ack => !env.packetEncodes ack) ||
    ((requestOf env w (.packet port remote pkt)).isSome && unsent (step env (.packet port remote pkt) w))

theorem sendPacket_ok (c : ConnId) (pkt : PRUDPPacket) (w : World) :
    ((sendPacket env c pkt).run w).1.isOk = env.packetEncodes pkt := by
  unfold sendPacket Srv.conn
  simp only [run_bind, run_get, run_pure]
  cases env.packetEncodes pkt <;> rfl

theorem sendAck_ok (type : PacketType) (c : ConnId) (clientPid : Nat) (w : World) :
    ((sendAck env type c clientPid).run w).1.isOk =
      env.packetEncodes (ackPacket (w.heap c) type clientPid) := sendPacket_ok env c _ w

/-- What is answered can be sent or not. -/
theorem send_ok (port : Port) (c : ConnId) (msg : Message) (w : World) :
    ((RMCDispatcher.send env port c msg).run w).1.isOk =
      !unsent ((RMCDispatcher.send env port c msg).after w) := by
  unfold after
  rw [send_run]
  generalize (RMCDispatcher.sendMessage env c msg).run w = out
  obtain ⟨r, w1⟩ := out
  cases r <;> simp [unsent] <;> rfl

/-- The request in a body. -/
def requestIn (body : Bytes) : Option Request :=
  match Rmc.decode body with
  | .ok (.request request) => some request
  | _ => none

theorem onPayload_eq (port : Port) (c : ConnId) (body : Bytes) :
    RMCDispatcher.onPayload env port c body = (requestIn body).elim (pure ()) fun req =>
      RMCDispatcher.respond env port c req >>= RMCDispatcher.send env port c := by
  unfold RMCDispatcher.onPayload requestIn
  cases Rmc.decode body with
  | error e => rfl
  | ok msg => cases msg <;> rfl

theorem deliver_ok (port : Port) (c : ConnId) (body : Bytes) (w : World) :
    ((deliver env port c body).run w).1.isOk =
      !((requestIn body).isSome && unsent ((deliver env port c body).after w)) := by
  let w0 := w.logged (.onPayload port c body)
  have hrun : (deliver env port c body).run w = (RMCDispatcher.onPayload env port c body).run w0 := rfl
  unfold after
  rw [hrun, onPayload_eq]
  cases requestIn body with
  | none => rfl
  | some req =>
    obtain ⟨msg, hr, -⟩ := Responses.respond_returns env port c req w0
    have hsend := send_ok env port c msg ((RMCDispatcher.respond env port c req).after w0)
    unfold after at hsend hr
    rw [Option.elim_some, run_bind_ok hr, hsend]
    rfl

/-- The acknowledgment of a DATA packet cannot be encoded. -/
def AckRefused (conn : Connection) (pkt : PRUDPPacket) : Prop :=
  pkt.flags.reliable ∧ ¬ (pkt.flags.ack ∧ pkt.payload = []) ∧
    env.packetEncodes (ackPacket conn .data pkt.packetId) = false

theorem handleFragment_run (port : Port) (c : ConnId) (fragmentId : Nat) (body : Bytes) (w : World) :
    ∃ w1, (handleFragment env port c fragmentId body).run w =
      if 0 < fragmentId then (.ok (), w1)
      else (deliver env port c ((w.heap c).fragmentBuffer ++ body)).run w1 := by
  unfold handleFragment Srv.conn
  simp only [run_bind, run_get, run_pure]
  by_cases hf : 0 < fragmentId
  · simp only [if_pos hf]
    exact ⟨_, rfl⟩
  · simp only [if_neg hf]
    exact ⟨_, rfl⟩

/-- DATA on an established connection raises with its acknowledgment, or does what the
delivery of its body does. -/
theorem handleData_run (port : Port) (pkt : PRUDPPacket) (c : ConnId) (w : World)
    (hs : (w.heap c).state = .established) :
    (AckRefused env (w.heap c) pkt ∧
      ∃ w1, (handleData env port pkt c).run w = (.error .encodeError, w1)) ∨
    (¬ AckRefused env (w.heap c) pkt ∧ ∃ w1, (handleData env port pkt c).run w =
      match (reassemble env (w.heap c) pkt).1 with
      | none => (.ok (), w1)
      | some body => (deliver env port c body).run w1) := by
  let w0 := w.withConn c { w.heap c with lastActivity := w.now }
  have hb0 : (w0.heap c).fragmentBuffer = (w.heap c).fragmentBuffer := by
    simp only [w0, World.heap_withConn, if_pos]
  have hack : ackPacket (w0.heap c) .data pkt.packetId = ackPacket (w.heap c) .data pkt.packetId := by
    simp only [w0, World.heap_withConn, if_pos]
    rfl
  have hrun : (handleData env port pkt c).run w =
      (if pkt.flags.ack ∧ pkt.payload = [] then pure ()
        else do
          acknowledge env c pkt
          if pkt.payload = [] then pure ()
          else
            match Payload.open? env pkt.payload with
            | none => pure ()
            | some body => handleFragment env port c pkt.fragmentId body : Srv Unit).run w0 := by
    unfold handleData Srv.conn
    simp only [run_bind, run_get, run_pure]
    rw [if_neg (fun h => h hs)]
    rfl
  rw [hrun]
  by_cases h1 : pkt.flags.ack ∧ pkt.payload = []
  · right
    refine ⟨fun h => h.2.1 h1, w0, ?_⟩
    rw [if_pos h1, reassemble_dropped env (w.heap c) pkt (.inl h1.2)]
    rfl
  · rw [if_neg h1]
    rcases acknowledge_run env c pkt w0 with ⟨hr, he, ha⟩ | ⟨hn, w1, ha, -, hb1⟩
    · left
      rw [hack] at he
      exact ⟨⟨hr, h1, Bool.eq_false_iff.mpr he⟩, w0, run_bind_error ha _⟩
    · right
      rw [hack] at hn
      rw [hb0] at hb1
      refine ⟨fun h => hn ⟨h.1, Bool.eq_false_iff.mp h.2.2⟩, ?_⟩
      rw [run_bind_ok ha]
      by_cases hp : pkt.payload = []
      · rw [if_pos hp, reassemble_dropped env (w.heap c) pkt (.inl hp)]
        exact ⟨w1, rfl⟩
      · rw [if_neg hp]
        unfold reassemble
        rw [if_neg (not_or.mpr ⟨hp, hn⟩)]
        cases Payload.open? env pkt.payload with
        | none => exact ⟨w1, rfl⟩
        | some body =>
          obtain ⟨w2, hw2⟩ := handleFragment_run env port c pkt.fragmentId body w1
          rw [hb1] at hw2
          refine ⟨w2, hw2.trans ?_⟩
          by_cases hf : 0 < pkt.fragmentId
          · simp only [if_pos hf]
          · simp only [if_neg hf]

/-- A body is delivered only by DATA on an established connection. -/
theorem requestOf_none {w : World} {port : Port} {remote : Remote} {pkt : PRUDPPacket}
    (h : ∀ c, pkt.type = .data → (w.connections port).get? remote = some c →
      (w.heap c).state ≠ .established) : requestOf env w (.packet port remote pkt) = none := by
  have hnone : bodyOf env w (.packet port remote pkt) = none := by
    cases hb : bodyOf env w (.packet port remote pkt) with
    | none => rfl
    | some r =>
      obtain ⟨port', c, body⟩ := r
      obtain ⟨remote', pkt', he, ht, hc, hs, -⟩ := bodyOf_eq_some env hb
      cases he
      exact absurd hs (h c ht hc)
  unfold requestOf
  rw [hnone]

theorem requestOf_data {w : World} {port : Port} {remote : Remote} {pkt : PRUDPPacket} {c : ConnId}
    (ht : pkt.type = .data) (hc : (w.connections port).get? remote = some c)
    (hs : (w.heap c).state = .established) :
    (requestOf env w (.packet port remote pkt)).isSome =
      ((reassemble env (w.heap c) pkt).1.bind requestIn).isSome := by
  have hb : bodyOf env w (.packet port remote pkt) =
      (reassemble env (w.heap c) pkt).1.map fun body => (port, c, body) := by
    simp only [bodyOf, ht, hc, if_pos hs]
  unfold requestOf
  rw [hb]
  cases (reassemble env (w.heap c) pkt).1 with
  | none => rfl
  | some body =>
    unfold requestIn
    simp only [Option.map_some, Option.bind_some]
    cases Rmc.decode body with
    | error e => rfl
    | ok msg => cases msg <;> rfl

theorem handleSyn_ok (port : Port) (remote : Remote) (w : World) :
    ((handleSyn env port remote).run w).1.isOk =
      env.packetEncodes (synAckPacket ((w.synReceived env port remote).heap w.nextConn)) :=
  sendPacket_ok env w.nextConn _ (w.synReceived env port remote)

theorem handleConnect_ok (port : Port) (pkt : PRUDPPacket) (c : ConnId) (w : World) :
    ((handleConnect env port pkt c).run w).1.isOk =
      !(if (w.heap c).state = .synRecv ∧ pkt.signature = (w.heap c).serverConnSig then
          some (connectAckPacket env (w.established c pkt) pkt.packetId (connectToken env port pkt))
        else none).any fun ack => !env.packetEncodes ack := by
  by_cases h : (w.heap c).state = .synRecv ∧ pkt.signature = (w.heap c).serverConnSig
  · rw [handleConnect_run env port pkt c w h.1 h.2, sendConnectAck_run,
      Handshake.connectAckPacket_connected, if_pos h, Option.any_some, Bool.not_not]
    generalize env.packetEncodes _ = b
    cases b <;> rfl
  · have hnot : (w.heap c).state ≠ .synRecv ∨ pkt.signature ≠ (w.heap c).serverConnSig :=
      not_and_or.mp h
    rw [if_neg h]
    unfold handleConnect Srv.conn
    simp only [run_bind, run_get, run_pure]
    rw [if_pos hnot]
    rfl

theorem handlePing_ok (pkt : PRUDPPacket) (c : ConnId) (w : World) :
    ((handlePing env pkt c).run w).1.isOk =
      !(if pkt.flags.needAck then some (ackPacket (w.heap c) .ping pkt.packetId) else none).any
        fun ack => !env.packetEncodes ack := by
  let w0 := w.withConn c { w.heap c with lastActivity := w.now }
  have hack : ackPacket (w0.heap c) .ping pkt.packetId = ackPacket (w.heap c) .ping pkt.packetId := by
    simp only [w0, World.heap_withConn, if_pos]
    rfl
  have hrun : (handlePing env pkt c).run w =
      (if pkt.flags.needAck then sendPingAck env c pkt.packetId else pure () : Srv Unit).run w0 :=
    rfl
  rw [hrun]
  split
  · rw [Option.any_some, Bool.not_not, ← hack]
    exact sendAck_ok env .ping c pkt.packetId w0
  · rfl

theorem handleDisconnect_ok (port : Port) (pkt : PRUDPPacket) (remote : Remote) (c : ConnId) (w : World) :
    ((handleDisconnect env port pkt remote (some c)).run w).1.isOk =
      env.packetEncodes (ackPacket (w.heap c) .disconnect pkt.packetId) := by
  have hack := sendAck_run env .disconnect c pkt.packetId w
  unfold handleDisconnect sendDisconnectAck
  simp only
  cases he : env.packetEncodes (ackPacket (w.heap c) .disconnect pkt.packetId) with
  | true =>
    rw [he, if_pos rfl] at hack
    rw [run_bind_ok hack]
    rfl
  | false =>
    rw [he, if_neg Bool.false_ne_true] at hack
    rw [run_bind_error hack]
    rfl

/-- DATA raises where the acknowledgment does, or else where the answer does. -/
theorem handleData_ok {port : Port} {remote : Remote} {pkt : PRUDPPacket} {c : ConnId} {w : World}
    (ht : pkt.type = .data) (hc : (w.connections port).get? remote = some c)
    (hs : (w.heap c).state = .established) :
    ((handleData env port pkt c).run w).1.isOk = !refused env w port remote pkt := by
  have hstep : step env (.packet port remote pkt) w = (handleData env port pkt c).after w := by
    rw [step_packet env hc, ht]
  have hdue : (ackDue env w port remote pkt).any (fun ack => !env.packetEncodes ack) = true ↔
      AckRefused env (w.heap c) pkt := by
    unfold ackDue AckRefused
    simp only [ht, hc, hs, true_and]
    split
    · next h => simp [h.1, h.2]
    · next h =>
      rw [Option.any_none]
      exact ⟨fun hf => absurd hf Bool.false_ne_true, fun hr => absurd ⟨hr.1, hr.2.1⟩ h⟩
  unfold refused
  rw [requestOf_data env ht hc hs, hstep]
  unfold after
  rcases handleData_run env port pkt c w hs with ⟨hrefused, w1, hr⟩ | ⟨htaken, w1, hr⟩
  · rw [hdue.mpr hrefused, hr]
    rfl
  · rw [Bool.eq_false_iff.mpr (mt hdue.mp htaken), hr]
    cases (reassemble env (w.heap c) pkt).1 with
    | none => rfl
    | some body => exact deliver_ok env port c body w1

/-- **A packet raises exactly if it is refused.** -/
theorem handle_ok (port : Port) (pkt : PRUDPPacket) (remote : Remote) (w : World) :
    ((handle env port pkt remote).run w).1.isOk = !refused env w port remote pkt := by
  -- all but DATA has no answer, and its acknowledgment is the last that it does
  have hplain : (∀ c, pkt.type = .data → (w.connections port).get? remote = some c →
      (w.heap c).state ≠ .established) → refused env w port remote pkt =
        (ackDue env w port remote pkt).any fun ack => !env.packetEncodes ack := by
    intro h
    unfold refused
    rw [requestOf_none env h]
    exact Bool.or_false _
  unfold handle
  rw [run_get_bind]
  dsimp only
  split
  · next ht =>
    rw [hplain (by simp [ht]), handleSyn_ok]
    simp [ackDue, ht]
  · next c ht hc =>
    rw [hplain (by simp [ht]), handleConnect_ok]
    simp only [ackDue, ht, hc]
  · next c ht hc =>
    by_cases hs : (w.heap c).state = .established
    · exact handleData_ok env ht hc hs
    · rw [hplain (by simp [hc, hs])]
      unfold handleData Srv.conn
      simp only [run_bind, run_get, run_pure]
      rw [if_pos hs]
      simp [ackDue, ht, hc, hs]
      rfl
  · next c ht hc =>
    rw [hplain (by simp [ht]), handlePing_ok]
    simp only [ackDue, ht, hc]
  · next ht =>
    cases hc : (w.connections port).get? remote with
    | none =>
      rw [hplain (by simp [ht])]
      simp only [ackDue, ht, hc]
      rfl
    | some c =>
      rw [hplain (by simp [ht]), handleDisconnect_ok]
      simp [ackDue, ht, hc]
  · next h1 h2 h3 h4 h5 =>
    have hnone : ackDue env w port remote pkt = none := by
      unfold ackDue
      split
      · next ht => exact absurd ht h1
      · next c ht hc => exact absurd hc (h3 c ht)
      · next c ht hc => exact absurd hc (h4 c ht)
      · next c ht hc => exact absurd hc (h5 c ht)
      · next c ht hc => exact absurd ht h2
      · rfl
    rw [hplain fun c ht hc => absurd hc (h4 c ht), hnone]
    rfl

/-- Either way the step is what it leaves. -/
theorem handle_cases (port : Port) (pkt : PRUDPPacket) (remote : Remote) (w : World) :
    (refused env w port remote pkt = true ∧ ∃ e, (handle env port pkt remote).run w =
      (.error e, step env (.packet port remote pkt) w)) ∨
    (refused env w port remote pkt = false ∧ (handle env port pkt remote).run w =
      (.ok (), step env (.packet port remote pkt) w)) := by
  have hok := handle_ok env port pkt remote w
  have hstep : step env (.packet port remote pkt) w = ((handle env port pkt remote).run w).2 := rfl
  rw [hstep]
  generalize (handle env port pkt remote).run w = out at hok ⊢
  obtain ⟨r, w1⟩ := out
  cases r with
  | error e => exact .inl ⟨(Bool.not_eq_false' _).mp hok.symm, e, rfl⟩
  | ok u => exact .inr ⟨(Bool.not_eq_true' _).mp hok.symm, rfl⟩

/-! ## A run of datagrams -/

/-- The packets of a datagram that are looked at: up to the first that is refused. -/
def handled (port : Port) (remote : Remote) : List PRUDPPacket → World → List PRUDPPacket
  | [], _ => []
  | pkt :: pkts, w =>
    pkt :: if refused env w port remote pkt then []
      else handled port remote pkts (step env (.packet port remote pkt) w)

/-- **One datagram.** -/
theorem forEach_handle (port : Port) (remote : Remote) (pkts : List PRUDPPacket) (w : World) :
    (Act.forEach pkts fun pkt => handle env port pkt remote).after w =
      runs (step env) ((handled env port remote pkts w).map (.packet port remote)) w := by
  unfold after
  induction pkts generalizing w with
  | nil => rfl
  | cons pkt pkts ih =>
    show ((handle env port pkt remote >>= fun _ =>
      Act.forEach pkts fun pkt => handle env port pkt remote).run w).2 = _
    unfold handled
    rw [List.map_cons, runs_cons]
    rcases handle_cases env port pkt remote w with ⟨hr, e, hraised⟩ | ⟨hr, hran⟩
    · rw [run_bind_error hraised, hr, if_pos rfl]
      rfl
    · rw [run_bind_ok hran, hr, if_neg Bool.false_ne_true]
      exact ih _

variable (decode : Bytes → Option (List PRUDPPacket))

/-- What the event loop's call comes to, in packets. -/
def eventsOf (w : World) : Input → List Event
  | .datagram port remote raw =>
    (handled env port remote ((decode raw).getD []) w).map (.packet port remote)
  | .reap port timeout => [.reap port timeout]
  | .timer id => [.timer id]
  | .elapse dt => [.elapse dt]

/-- The events of a run of datagrams. -/
def eventsIn : List Input → World → List Event
  | [], _ => []
  | i :: is, w => eventsOf env decode w i ++ eventsIn is (receive env decode i w)

theorem receive_eq (i : Input) (w : World) :
    receive env decode i w = runs (step env) (eventsOf env decode w i) w := by
  cases i with
  | datagram port remote raw =>
    have hreceived : datagramReceived env decode port remote raw =
        Act.forEach ((decode raw).getD []) fun pkt => handle env port pkt remote := by
      unfold datagramReceived
      cases decode raw <;> rfl
    show (datagramReceived env decode port remote raw).after w = _
    rw [hreceived]
    exact forEach_handle env port remote _ w
  | reap port timeout => rfl
  | timer id => rfl
  | elapse dt => rfl

/-- **A run of datagrams is a run of packets**: of each datagram that the codec can read, those
up to the first that is refused.  What holds in every run of packets holds of the listener. -/
theorem datagrams_refine (is : List Input) (w : World) :
    runs (receive env decode) is w = runs (step env) (eventsIn env decode is w) w := by
  induction is generalizing w with
  | nil => rfl
  | cons i is ih =>
    unfold eventsIn
    rw [runs_cons, runs_append, ih, receive_eq]

end Datagrams
end Ghostbusters
