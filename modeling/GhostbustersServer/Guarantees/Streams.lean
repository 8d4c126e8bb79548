import GhostbustersServer.Guarantees.Bystander
import GhostbustersServer.Guarantees.Isolation
import GhostbustersServer.Py.Components
import GhostbustersServer.Py.Since

/-!
# What one connection delivers

All clients share one socket, one lobby registry and one database; their packets
interleave in any order with each other, with the reaper and with timers.

    receive              the receiver of one connection, on its own packets
    stream_delivered     over every run, a connection delivers exactly what its
                         receiver makes of its own packets while it is listed
    stream_in_order      so bodies sent in order arrive whole, whatever the others do
-/

namespace Ghostbusters

open Py Act PRUDPServer Delivery

namespace Streams

variable (env : Env)

/-! ## The receiver of one connection -/

/-- What decides what a packet of a connection delivers. -/
structure Receiver where
  state : ConnState
  serverSessionId : Nat
  serverConnSig : Bytes
  clientConnSig : Bytes
  fragmentBuffer : Bytes
  deriving DecidableEq

/-- The acknowledgment of a packet. -/
def Receiver.ack (r : Receiver) (type : PacketType) (packetId : Nat) : PRUDPPacket where
  type := type
  flags := { ack := true }
  sessionId := r.serverSessionId
  packetId := packetId
  signature := r.clientConnSig

/-- The body that one packet completes, and the receiver behind it. -/
def receive (pkt : PRUDPPacket) (r : Receiver) : Option Bytes × Receiver :=
  match pkt.type with
  | .connect =>
    if r.state = .synRecv ∧ pkt.signature = r.serverConnSig then
      (none, { r with state := .established, clientConnSig := pkt.connectionSignature })
    else (none, r)
  | .data =>
    if r.state ≠ .established ∨ pkt.payload = [] ∨
        (pkt.flags.reliable ∧ ¬ env.packetEncodes (r.ack .data pkt.packetId)) then
      (none, r)
    else
      match Payload.open? env pkt.payload with
      | none => (none, r)
      | some body =>
        if 0 < pkt.fragmentId then
          (none, { r with fragmentBuffer := r.fragmentBuffer ++ body })
        else (some (r.fragmentBuffer ++ body), { r with fragmentBuffer := [] })
  | .disconnect =>
    if env.packetEncodes (r.ack .disconnect pkt.packetId) then (none, { r with state := .closed })
    else (none, r)
  | _ => (none, r)

/-- The bodies that a list of packets completes. -/
def bodies (r : Receiver) (pkts : List PRUDPPacket) : List Bytes := outputs (receive env) pkts r

/-- The receiver that a connection object holds. -/
def receiver (conn : Connection) : Receiver where
  state := conn.state
  serverSessionId := conn.serverSessionId
  serverConnSig := conn.serverConnSig
  clientConnSig := conn.clientConnSig
  fragmentBuffer := conn.fragmentBuffer

theorem receiver_of_core {conn conn' : Connection} (h : conn'.core = conn.core) :
    receiver conn' = receiver conn := (congrArg receiver h :)

/-- Behind packets that only acknowledge, the receiver differs in its buffer. -/
theorem receiver_of_session {conn conn' : Connection} (h : conn'.session = conn.session) :
    receiver conn' = { receiver conn with fragmentBuffer := conn'.fragmentBuffer } := by
  have hr : { receiver conn' with fragmentBuffer := [] } =
      { receiver conn with fragmentBuffer := [] } := (congrArg receiver h :)
  calc receiver conn'
      = { ({ receiver conn' with fragmentBuffer := [] } : Receiver) with
          fragmentBuffer := conn'.fragmentBuffer } := rfl
    _ = { receiver conn with fragmentBuffer := conn'.fragmentBuffer } := by rw [hr]

/-- `reassemble`, as the receiver sees it. -/
theorem receive_data {conn : Connection} {pkt : PRUDPPacket} (ht : pkt.type = .data)
    (hs : conn.state = .established) :
    receive env pkt (receiver conn) = ((reassemble env conn pkt).1,
      { receiver conn with fragmentBuffer := (reassemble env conn pkt).2 }) := by
  unfold receive
  rw [ht]
  dsimp only
  by_cases h : pkt.payload = [] ∨
      (pkt.flags.reliable ∧ ¬ env.packetEncodes ((receiver conn).ack .data pkt.packetId))
  · rw [if_pos (.inr h), reassemble_dropped env conn pkt h]
    rfl
  · have hstate : ¬ (receiver conn).state ≠ .established := not_not.mpr hs
    have h' : ¬ (pkt.payload = [] ∨
        (pkt.flags.reliable ∧ ¬ env.packetEncodes (ackPacket conn .data pkt.packetId))) := h
    rw [if_neg (not_or.mpr ⟨hstate, h⟩)]
    unfold reassemble
    rw [if_neg h']
    cases Payload.open? env pkt.payload with
    | none => rfl
    | some body =>
      by_cases hf : 0 < pkt.fragmentId
      · simp only [if_pos hf, receiver]
      · simp only [if_neg hf, receiver]

/-! ## One event -/

/-- The receiver of a connection, and the bodies delivered on it. -/
def seen (c : ConnId) (w : World) : Receiver × List Bytes := (receiver (w.heap c), delivered c w)

theorem seen_of_kept {c : ConnId} {w w' : World} (h : kept c w' = kept c w) :
    seen c w' = seen c w :=
  Prod.ext (receiver_of_core (congrArg Prod.fst h :)) (congrArg (fun k => k.2.1) h :)

theorem seen_of_framed {c : ConnId} {w w' : World} (h : Framed w w') : seen c w' = seen c w :=
  seen_of_kept (kept_of_framed h)

/-- The state of a connection behind a packet that completes what `receive` says. -/
def took (pkt : PRUDPPacket) (c : ConnId) (w : World) : Receiver × List Bytes :=
  ((receive env pkt (receiver (w.heap c))).2,
    delivered c w ++ (receive env pkt (receiver (w.heap c))).1.toList)

theorem took_eq {pkt : PRUDPPacket} {c : ConnId} {w : World} {r : Receiver}
    (h : receive env pkt (receiver (w.heap c)) = (none, r)) :
    took env pkt c w = (r, delivered c w) := by
  unfold took
  rw [h, Option.toList_none, List.append_nil]

theorem seen_of_received {c : ConnId} {w w' : World} (h : Received w w') :
    seen c w' =
      ({ receiver (w.heap c) with fragmentBuffer := (w'.heap c).fragmentBuffer }, delivered c w) :=
  Prod.ext (receiver_of_session (h.session c)) (delivered_of_grows h.sends fun _ => bodyIn_isSend)

section
variable {port : Port} {remote : Remote} {c : ConnId} {pkt : PRUDPPacket} {w : World}

theorem connect_own (ht : pkt.type = .connect) :
    seen c ((handleConnect env port pkt c).after w) = took env pkt c w := by
  by_cases h : (w.heap c).state = .synRecv ∧ pkt.signature = (w.heap c).serverConnSig
  · have hr : receive env pkt (receiver (w.heap c)) = (none, { receiver (w.heap c) with
        state := .established, clientConnSig := pkt.connectionSignature }) := by
      unfold receive
      rw [ht]
      exact if_pos h
    rw [took_eq env hr]
    refine (seen_of_framed (handleConnect_spec env port pkt c w h.1 h.2).toQuiet.framed).trans ?_
    unfold connected
    cases proven env port pkt with
    | none =>
      simp only [seen, World.heap_withConn, if_pos]
      rfl
    | some r =>
      refine (seen_of_kept (log_kept (c := c) (e := .connectAck c) rfl (w.withConn c _))).trans ?_
      simp only [seen, World.heap_withConn, if_pos]
      rfl
  · have hr : receive env pkt (receiver (w.heap c)) = (none, receiver (w.heap c)) := by
      unfold receive
      rw [ht]
      exact if_neg h
    rw [took_eq env hr, handleConnect_refused env port pkt c w (not_and_or.mp h)]
    rfl

theorem data_own (ht : pkt.type = .data) :
    seen c ((handleData env port pkt c).after w) = took env pkt c w := by
  by_cases hest : (w.heap c).state = .established
  · obtain ⟨w1, hr, hbuf, hafter⟩ := handleData_spec env port pkt c w hest
    have hseen := seen_of_received (c := c) hr
    rw [hbuf] at hseen
    unfold took
    rw [hafter, receive_data env ht hest]
    cases (reassemble env (w.heap c) pkt).1 with
    | none => rw [hseen, Option.toList_none, List.append_nil]
    | some body =>
      have hpayload : seen c ((deliver env port c body).after w1) =
          seen c (w1.logged (.onPayload port c body)) :=
        seen_of_framed (onPayload_framed env port c body (w1.logged (.onPayload port c body)))
      have hlogged : delivered c (w1.logged (.onPayload port c body)) = delivered c w1 ++ [body] := by
        unfold delivered World.logged
        rw [List.filterMap_append]
        simp [bodyIn]
      rw [hpayload]
      refine Prod.ext (congrArg Prod.fst hseen :) ?_
      rw [show (seen c (w1.logged (.onPayload port c body))).2 = _ from hlogged]
      rw [show delivered c w1 = delivered c w from (congrArg Prod.snd hseen :)]
      rfl
  · have hr : receive env pkt (receiver (w.heap c)) = (none, receiver (w.heap c)) := by
      unfold receive
      rw [ht]
      exact if_pos (.inl hest)
    have hw : (handleData env port pkt c).after w = w := by
      unfold handleData Srv.conn after
      simp only [run_bind, run_get, run_pure]
      rw [if_pos hest]
      rfl
    rw [took_eq env hr, hw]
    rfl

theorem disconnect_own (ht : pkt.type = .disconnect) :
    seen c ((handleDisconnect env port pkt remote (some c)).after w) = took env pkt c w := by
  rw [handleDisconnect_spec]
  by_cases he : env.packetEncodes (ackPacket (w.heap c) .disconnect pkt.packetId) = true
  · have hr : receive env pkt (receiver (w.heap c)) =
        (none, { receiver (w.heap c) with state := .closed }) := by
      unfold receive
      rw [ht]
      exact if_pos he
    rw [took_eq env hr, if_pos he]
    let w1 := w.logged (.sendto (w.heap c).remote (ackPacket (w.heap c) .disconnect pkt.packetId))
    refine (seen_of_kept (evict_kept c port remote
      (w1.withConn c { w.heap c with state := .closed }))).trans ?_
    refine Prod.ext ?_ ?_
    · simp only [seen, World.heap_withConn, if_pos]
      rfl
    · exact delivered_of_grows (K := TraceEntry.IsSend) ⟨[_], rfl, by simp [TraceEntry.IsSend]⟩
        fun _ => bodyIn_isSend
  · have hr : receive env pkt (receiver (w.heap c)) = (none, receiver (w.heap c)) := by
      unfold receive
      rw [ht]
      exact if_neg he
    rw [took_eq env hr, if_neg he]
    rfl

theorem ping_own (ht : pkt.type = .ping) :
    seen c ((handlePing env pkt c).after w) = took env pkt c w := by
  have hr : receive env pkt (receiver (w.heap c)) = (none, receiver (w.heap c)) := by
    unfold receive
    rw [ht]
  rw [took_eq env hr, seen_of_received (handlePing_received env pkt c w),
    Isolation.handlePing_buffer]
  rfl

/-- **Any packet of the connection.** -/
theorem step_own (hs : Sound w) (hc : (w.connections port).get? remote = some c)
    (pkt : PRUDPPacket) : seen c (step env (.packet port remote pkt) w) = took env pkt c w := by
  have hidle : receive env pkt (receiver (w.heap c)) = (none, receiver (w.heap c)) →
      took env pkt c w = seen c w := fun hr => took_eq env hr
  rw [step_packet env hc pkt]
  cases ht : pkt.type with
  | syn =>
    rw [hidle (by unfold receive; rw [ht])]
    exact seen_of_kept (handleSyn_kept env port remote (Nat.ne_of_lt (hs.lt port remote c hc)))
  | connect => exact connect_own env ht
  | data => exact data_own env ht
  | ping => exact ping_own env ht
  | disconnect => exact disconnect_own env ht
  | other code => exact (hidle (by unfold receive; rw [ht])).symm

end

/-! ## Every run -/

section
variable {port : Port} {remote : Remote} {c : ConnId}

/-- **Any event that is no packet of the connection.** -/
theorem step_seen {w : World} (e : Event) (hc : c ≠ w.nextConn)
    (hother : ∀ port remote pkt, e = .packet port remote pkt →
      (w.connections port).get? remote ≠ some c) : seen c (step env e w) = seen c w := by
  by_cases htick : ∃ dt, e = .elapse dt
  · obtain ⟨dt, rfl⟩ := htick
    rfl
  · exact seen_of_kept (step_kept env e hc hother fun dt he => htick ⟨dt, he⟩)

theorem seen_step {e : Event} (ho : own port remote e = none) {w : World}
    (h : Placed port remote c w) : seen c (step env e w) = seen c w :=
  step_seen env e (Nat.ne_of_lt h.lt) (h.none_own ho)

theorem seen_runs {es : List Event} (ho : ∀ e ∈ es, own port remote e = none) {w : World}
    (h : Placed port remote c w) : seen c (runs (step env) es w) = seen c w := by
  induction es generalizing w with
  | nil => rfl
  | cons e es ih =>
    exact (ih (fun e' he' => ho e' (List.mem_cons_of_mem _ he')) (h.step env e)).trans
      (seen_step env (ho e List.mem_cons_self) h)

/-- Listed, a connection takes its own packets and no other event. -/
theorem independent_of_listed (e : Event) {w : World} (h : Placed port remote c w)
    (hc : (w.connections port).get? remote = some c) :
    Independent (step env) (own port remote) (receive env) (fun w => receiver (w.heap c))
      (delivered c) e w := by
  unfold Independent
  cases ho : own port remote e with
  | none =>
    have hseen := seen_step env ho h
    exact ⟨(congrArg Prod.fst hseen :), (congrArg Prod.snd hseen :)⟩
  | some pkt =>
    have he : e = .packet port remote pkt := eq_of_own ho
    have hseen := step_own env h.sound hc pkt
    rw [← he] at hseen
    exact ⟨(congrArg Prod.fst hseen :), (congrArg Prod.snd hseen :)⟩

/-- Not listed, it takes nothing. -/
theorem delivered_of_unlisted (e : Event) {w : World} (h : Placed port remote c w)
    (hc : (w.connections port).get? remote ≠ some c) :
    delivered c (step env e w) = delivered c w := by
  refine (congrArg Prod.snd (step_seen env e (Nat.ne_of_lt h.lt) ?_) :)
  rintro port' remote' pkt rfl hget
  obtain ⟨rfl, rfl⟩ := h.place port' remote' hget
  exact hc hget

/-- While it is listed, a connection delivers what its own packets complete. -/
theorem delivered_of_guarded (es : List Event) (w : World)
    (h : Guarded (step env) (fun _ w => Placed port remote c w ∧
      (w.connections port).get? remote = some c) es w) :
    delivered c (runs (step env) es w) = delivered c w ++
      bodies env (receiver (w.heap c)) (es.filterMap (own port remote)) :=
  (runs_independent (step env) (own port remote) (receive env) (fun w => receiver (w.heap c))
    (delivered c) es w (guarded_of_invariant (I := fun _ => True) (fun _ _ _ _ => trivial)
      (fun e _ h _ => independent_of_listed env e h.1 h.2) es w h trivial)).2

/-- A connection that is listed at the end was listed all along. -/
theorem listed_throughout (es : List Event) {w : World} (h : Placed port remote c w)
    (hend : ((runs (step env) es w).connections port).get? remote = some c) :
    (w.connections port).get? remote = some c ∧
      Guarded (step env) (fun _ w => Placed port remote c w ∧
        (w.connections port).get? remote = some c) es w := by
  induction es generalizing w with
  | nil => exact ⟨hend, trivial⟩
  | cons e es ih =>
    obtain ⟨hnext, hes⟩ := ih (h.step env e) hend
    have hc := get?_step env e h.sound h.lt hnext
    exact ⟨hc, ⟨h, hc⟩, hes⟩

/-- Behind its time in the table, nothing more. -/
theorem delivered_of_lifetime (es : List Event) (w : World) (n : Nat)
    (hbefore : Guarded (step env) (fun _ w => Placed port remote c w ∧
      (w.connections port).get? remote = some c) (es.take n) w)
    (hafter : Guarded (step env) (fun _ w => Placed port remote c w ∧
      ¬ (w.connections port).get? remote = some c) (es.drop n) (runs (step env) (es.take n) w)) :
    delivered c (runs (step env) es w) = delivered c w ++
      bodies env (receiver (w.heap c)) ((es.take n).filterMap (own port remote)) := by
  have hrest : delivered c (runs (step env) (es.drop n) (runs (step env) (es.take n) w)) =
      delivered c (runs (step env) (es.take n) w) :=
    runs_invariant (I := fun w' => delivered c w' = delivered c (runs (step env) (es.take n) w))
      (fun e _ h hd => (delivered_of_unlisted env e h.1 h.2).trans hd) _ _ hafter rfl
  rw [← runs_append, List.take_append_drop] at hrest
  rw [hrest, delivered_of_guarded env _ w hbefore]

/-- **A connection's stream is its own.**  Over every run a connection is listed up to
some event and never again; what is delivered on it is what its receiver makes of the
packets its own client sent up to there, whatever else happened in between. -/
theorem stream_delivered (w : World) (hs : Sound w) (port : Port) (remote : Remote) (c : ConnId)
    (hc : (w.connections port).get? remote = some c) (es : List Event) :
    ∃ n, (∀ m ≤ es.length,
        ((runs (step env) (es.take m) w).connections port).get? remote = some c ↔ m < n) ∧
      delivered c (runs (step env) es w) = delivered c w ++
        bodies env (receiver (w.heap c)) ((es.take n).filterMap (own port remote)) := by
  obtain ⟨n, hn, hbefore, hafter⟩ := exists_lifetime
    (L := fun w => (w.connections port).get? remote = some c) (I := Placed port remote c)
    (fun e _ h => h.step env e) (fun e _ h hL hget => hL (get?_step env e h.sound h.lt hget)) es w
    (placed_of_listed hs hc)
  exact ⟨n, hn, delivered_of_lifetime env es w n hbefore hafter⟩

end

/-- Two clients of one port. -/
def twoClients : World :=
  Sample.world [Sample.connection .auth 1 10000, Sample.connection .auth 2 10001]

/-- The first sends a body in two fragments; in between the second sends one and leaves. -/
def crowd : List Event :=
  [.packet .auth (Sample.remote 1) (packets Sample.env 1 [[[1], [2, 3]]] 0),
   .packet .auth (Sample.remote 2) (packets Sample.env 1 [[[4]]] 0),
   .packet .auth (Sample.remote 2) { type := .disconnect },
   .packet .auth (Sample.remote 1) (packets Sample.env 1 [[[1], [2, 3]]] 1)]

theorem stream_delivered_two : ∃ n,
    (∀ m ≤ crowd.length, ((runs (step Sample.env) (crowd.take m) twoClients).connections .auth).get?
      (Sample.remote 1) = some 0 ↔ m < n) ∧
    delivered 0 (runs (step Sample.env) crowd twoClients) = delivered 0 twoClients ++
      bodies Sample.env (receiver (twoClients.heap 0))
        ((crowd.take n).filterMap (own .auth (Sample.remote 1))) :=
  stream_delivered Sample.env twoClients (Sample.world_sound _) .auth (Sample.remote 1) 0 (by decide)
    crowd

/-! ## In order -/

/-- The receiver of `Py.assemble`. -/
theorem bodies_assemble {pkts : List PRUDPPacket} {fs : List Fragment}
    (hp : List.Forall₂ (fun pkt f => pkt.type = .data ∧ CarriesFragment env pkt f) pkts fs)
    {r : Receiver} (hr : r.state = .established)
    (hack : ∀ id < 2 ^ 16, env.packetEncodes (r.ack .data id) = true) :
    bodies env r pkts = assemble r.fragmentBuffer fs := by
  induction hp generalizing r with
  | nil => rfl
  | @cons pkt f pkts fs hpkt _ ih =>
    obtain ⟨ht, hc⟩ := hpkt
    obtain ⟨last, b⟩ := f
    have hdropped : ¬ (r.state ≠ .established ∨ pkt.payload = [] ∨
        (pkt.flags.reliable ∧ ¬ env.packetEncodes (r.ack .data pkt.packetId))) := by
      rintro (h | h | ⟨-, h⟩)
      · exact h hr
      · exact hc.payload h
      · exact h (hack _ hc.packetId)
    have hrecv : receive env pkt r = if 0 < pkt.fragmentId then
        (none, { r with fragmentBuffer := r.fragmentBuffer ++ b })
        else (some (r.fragmentBuffer ++ b), { r with fragmentBuffer := [] }) := by
      unfold receive
      rw [ht]
      dsimp only
      rw [if_neg hdropped, hc.opens]
    show (receive env pkt r).1.toList ++ bodies env (receive env pkt r).2 pkts = _
    cases last
    · -- more fragments follow
      have hpos : 0 < pkt.fragmentId := Nat.pos_of_ne_zero fun h0 => by cases hc.last.mp h0
      rw [if_pos hpos] at hrecv
      rw [hrecv]
      exact ih hr hack
    · rw [hc.last.mpr rfl, if_neg (Nat.lt_irrefl 0)] at hrecv
      rw [hrecv]
      exact congrArg _ (ih hr hack)

/-- **Bodies sent in order are delivered whole, in order and once**, however the packets
of other clients, the reaper and the timers come in between. -/
theorem stream_in_order (w : World) (hs : Sound w) (port : Port) (remote : Remote) (c : ConnId)
    (hc : (w.connections port).get? remote = some c) (hr : Receiving env c [] w) (first : Nat)
    (sent : List (List Bytes)) (hsent : ∀ fs ∈ sent, fs ≠ []) (pkt : Nat → PRUDPPacket)
    (hcarry : Carries env first sent pkt) (es : List Event)
    (hown : es.filterMap (own port remote) =
      (List.range (sent.map List.length).sum).map pkt)
    (hend : ((runs (step env) es w).connections port).get? remote = some c) :
    delivered c (runs (step env) es w) = delivered c w ++ sent.map List.flatten := by
  have hdelivered := delivered_of_guarded env es w
    (listed_throughout env es (placed_of_listed hs hc) hend).2
  rw [hown] at hdelivered
  rw [hdelivered, @bodies_assemble env _ (cut sent) ?_ (receiver (w.heap c)) hr.established hr.acks]
  · rw [show (receiver (w.heap c)).fragmentBuffer = [] from hr.buffer, assemble_cut sent hsent]
  · rw [← map_fragment_range sent hsent, List.forall₂_map_left_iff, List.forall₂_map_right_iff,
      List.forall₂_same]
    intro i hi
    have hi' : i < (sent.map List.length).sum := List.mem_range.mp hi
    exact ⟨(hcarry.reliable i (by rw [List.length_flatten]; exact hi')).1, hcarry.fragment env hi'⟩

theorem stream_in_order_two :
    delivered 0 (runs (step Sample.env) crowd twoClients) =
      delivered 0 twoClients ++ [[[1], [2, 3]]].map List.flatten :=
  stream_in_order Sample.env twoClients (Sample.world_sound _) .auth (Sample.remote 1) 0 (by decide)
    ⟨rfl, rfl, Sample.env_acks _⟩ 1 [[[1], [2, 3]]] (by decide)
    (packets Sample.env 1 [[[1], [2, 3]]])
    (packets_carry Sample.env Sample.env_lawful 1 [[[1], [2, 3]]]) crowd (by decide +kernel)
    (by decide +kernel)

end Streams
end Ghostbusters
