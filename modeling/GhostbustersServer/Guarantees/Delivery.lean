import GhostbustersServer.Guarantees.Sample
import GhostbustersServer.Py.Fragments
import GhostbustersServer.Py.Runs

/-!
# What arrives and what is delivered

A client cuts bodies into fragments and sends each as one reliable DATA packet.
`_handle_data` takes whatever arrives in the order it arrives: neither the packet
id nor `last_client_pid` decides anything.

    delivered = assemble [] (the fragments in order of arrival)      (delivered_runs)
    it is a prefix of the bodies sent, whatever they hold, exactly
    when the arrival is in order                                     (delivered_prefix_iff)
-/

namespace Ghostbusters

open Py Act PRUDPServer

namespace Delivery

variable (env : Env)

/-- A packet reaches `_handle_data`. -/
def arrive (port : Port) (c : ConnId) (pkt : PRUDPPacket) (w : World) : World :=
  (handleData env port pkt c).after w

/-- The body that an entry of the log hands to `on_payload` of a connection. -/
def bodyIn (c : ConnId) : TraceEntry → Option Bytes
  | .onPayload _ k body => if k = c then some body else none
  | _ => none

/-- The bodies handed to `on_payload` of a connection. -/
def delivered (c : ConnId) (w : World) : List Bytes := w.trace.filterMap (bodyIn c)

/-- An established connection on which nothing has been received. -/
structure Ready (c : ConnId) (w : World) : Prop where
  established : (w.heap c).state = .established
  buffer : (w.heap c).fragmentBuffer = []
  silent : delivered c w = []
  acks : ∀ id < 2 ^ 16, env.packetEncodes (ackPacket (w.heap c) .data id) = true

/-- The packets of a client's bodies: packet `i` carries the `i`-th of all their
fragments, under the next of the consecutive packet ids. -/
structure Carries (first : Nat) (bodies : List (List Bytes)) (pkt : Nat → PRUDPPacket) : Prop where
  reliable : ∀ i < bodies.flatten.length, (pkt i).type = .data ∧ (pkt i).flags.reliable = true ∧
    (pkt i).packetId = (first + i) % 2 ^ 16
  payload : ∀ i frag, bodies.flatten[i]? = some frag →
    (pkt i).payload ≠ [] ∧ Payload.open? env (pkt i).payload = some frag
  fragmentId : ∀ i < bodies.flatten.length,
    (pkt i).fragmentId = 0 ↔ (lasts (bodies.map List.length)).getD i false = true

/-! ## One packet -/

theorem delivered_of_grows {K : TraceEntry → Prop} {c : ConnId} {w w' : World}
    (h : LogGrows K w w') (hK : ∀ e, K e → bodyIn c e = none) : delivered c w' = delivered c w := by
  obtain ⟨new, hnew, hall⟩ := h
  unfold delivered
  rw [hnew, List.filterMap_append, List.filterMap_eq_nil_iff.mpr fun e he => hK e (hall e he),
    List.append_nil]

theorem bodyIn_fromHandler {c : ConnId} {e : TraceEntry} (h : e.FromHandler) : bodyIn c e = none := by
  rcases h with (h | ⟨pid, vec0, rows, rfl⟩) | ⟨gid, reason, roster, rfl⟩
  · cases e <;> first | rfl | exact h.elim
  · rfl
  · rfl

theorem bodyIn_isSend {c : ConnId} {e : TraceEntry} (h : e.IsSend) : bodyIn c e = none :=
  bodyIn_fromHandler (.inl (.inl h))

/-- A handler and its answer leave the sessions as they are. -/
theorem onPayload_framed (port : Port) (c : ConnId) (body : Bytes) :
    Within Framed (RMCDispatcher.onPayload env port c body) := by
  unfold RMCDispatcher.onPayload
  split
  · next req _ =>
    intro w
    exact trans_of Framed (respond_framed env port c req w)
      (respond_send_after env port c req w).toQuiet.framed
  · exact Within.pure _

/-- What the receiving end of a connection has in hand. -/
structure Receiving (c : ConnId) (buf : Bytes) (w : World) : Prop where
  established : (w.heap c).state = .established
  buffer : (w.heap c).fragmentBuffer = buf
  acks : ∀ id < 2 ^ 16, env.packetEncodes (ackPacket (w.heap c) .data id) = true

theorem ackPacket_congr {conn conn' : Connection} (h1 : conn'.clientConnSig = conn.clientConnSig)
    (h2 : conn'.serverSessionId = conn.serverSessionId) (id : Nat) :
    ackPacket conn' .data id = ackPacket conn .data id := by
  unfold ackPacket basePacket
  rw [h1, h2]

theorem Receiving.of_received {c : ConnId} {buf buf' : Bytes} {w w' : World}
    (h : Receiving env c buf w) (hr : Received w w') (hb : (w'.heap c).fragmentBuffer = buf') :
    Receiving env c buf' w' := by
  refine ⟨(hr.state c).trans h.established, hb, ?_⟩
  intro id hid
  rw [@ackPacket_congr (w.heap c) (w'.heap c) (congrArg Connection.clientConnSig (hr.session c) :)
    (congrArg Connection.serverSessionId (hr.session c) :)]
  exact h.acks id hid

theorem Receiving.of_framed {c : ConnId} {buf : Bytes} {w w' : World} (h : Receiving env c buf w)
    (hf : Framed w w') : Receiving env c buf w' := by
  have hcore := hf.core c
  refine ⟨(congrArg Connection.state hcore :).trans h.established,
    (congrArg Connection.fragmentBuffer hcore :).trans h.buffer, ?_⟩
  intro id hid
  rw [@ackPacket_congr (w.heap c) (w'.heap c) (congrArg Connection.clientConnSig hcore :)
    (congrArg Connection.serverSessionId hcore :)]
  exact h.acks id hid

/-- A packet that carries a fragment. -/
structure CarriesFragment (pkt : PRUDPPacket) (f : Fragment) : Prop where
  packetId : pkt.packetId < 2 ^ 16
  payload : pkt.payload ≠ []
  opens : Payload.open? env pkt.payload = some f.2
  last : pkt.fragmentId = 0 ↔ f.1 = true

/-- **One packet**: the receiver of `Py.assemble`. -/
theorem arrive_spec (port : Port) (c : ConnId) {pkt : PRUDPPacket} {f : Fragment}
    (hp : CarriesFragment env pkt f) {buf : Bytes} {w : World} (h : Receiving env c buf w) :
    delivered c (arrive env port c pkt w) = delivered c w ++ assemble buf [f] ∧
      Receiving env c (residue buf [f]) (arrive env port c pkt w) := by
  obtain ⟨last, b⟩ := f
  obtain ⟨w1, hr, hbuf, hafter⟩ := handleData_spec env port pkt c w h.established
  have hsame : delivered c w1 = delivered c w := delivered_of_grows hr.sends fun _ => bodyIn_isSend
  have hre : reassemble env (w.heap c) pkt =
      if 0 < pkt.fragmentId then (none, buf ++ b) else (some (buf ++ b), []) := by
    unfold reassemble
    rw [if_neg, hp.opens, h.buffer]
    rintro (hne | ⟨-, hack⟩)
    · exact hp.payload hne
    · exact hack (h.acks _ hp.packetId)
  unfold arrive
  cases last
  · -- more fragments follow: the buffer grows
    have hpos : 0 < pkt.fragmentId := Nat.pos_of_ne_zero fun h0 => by cases hp.last.mp h0
    rw [if_pos hpos] at hre
    rw [hre] at hbuf hafter
    rw [hafter]
    exact ⟨by rw [hsame]; exact (List.append_nil _).symm, h.of_received env hr hbuf⟩
  · have hzero : pkt.fragmentId = 0 := hp.last.mpr rfl
    rw [hzero, if_neg (Nat.lt_irrefl 0)] at hre
    rw [hre] at hbuf hafter
    rw [hafter]
    let w2 := w1.logged (.onPayload port c (buf ++ b))
    have h2 : Receiving env c [] w2 := by
      obtain ⟨h1, h2, h3⟩ := h.of_received env hr hbuf
      exact ⟨h1, h2, h3⟩
    have hf : Framed w2 ((RMCDispatcher.onPayload env port c (buf ++ b)).after w2) :=
      onPayload_framed env port c (buf ++ b) w2
    refine ⟨?_, h2.of_framed env hf⟩
    have hd2 : delivered c w2 = delivered c w1 ++ [buf ++ b] := by
      show (w1.trace ++ [TraceEntry.onPayload port c (buf ++ b)]).filterMap (bodyIn c) = _
      rw [List.filterMap_append]
      simp [delivered, bodyIn]
    have hd3 := delivered_of_grows hf.log fun _ => bodyIn_fromHandler (c := c)
    show delivered c ((RMCDispatcher.onPayload env port c (buf ++ b)).after w2) = _
    rw [hd3, hd2, hsame]
    rfl

/-! ## Any arrival -/

/-- **What a run of packets delivers**, and what is then in the buffer. -/
theorem delivered_forall (port : Port) (c : ConnId) {pkts : List PRUDPPacket} {fs : List Fragment}
    (hp : List.Forall₂ (CarriesFragment env) pkts fs) {buf : Bytes} {w : World}
    (h : Receiving env c buf w) :
    delivered c (runs (arrive env port c) pkts w) = delivered c w ++ assemble buf fs ∧
      Receiving env c (residue buf fs) (runs (arrive env port c) pkts w) := by
  induction hp generalizing buf w with
  | nil => exact ⟨(List.append_nil _).symm, h⟩
  | @cons pkt f pkts fs hpkt _ ih =>
    obtain ⟨hd, hrec⟩ := arrive_spec env port c hpkt h
    obtain ⟨hds, hrecs⟩ := ih hrec
    refine ⟨?_, ?_⟩
    · rw [runs_cons, hds, hd, List.append_assoc, ← List.singleton_append (l := fs),
        assemble_append]
    · rw [← List.singleton_append (l := fs), residue_append]
      exact hrecs

theorem delivered_runs (port : Port) (c : ConnId) {pkt : Nat → PRUDPPacket} {frag : Nat → Fragment}
    (is : List Nat) (hp : ∀ i ∈ is, CarriesFragment env (pkt i) (frag i)) {buf : Bytes} {w : World}
    (h : Receiving env c buf w) :
    delivered c (runs (arrive env port c) (is.map pkt) w) =
      delivered c w ++ assemble buf (is.map frag) := by
  refine (delivered_forall env port c ?_ h).1
  rw [List.forall₂_map_left_iff, List.forall₂_map_right_iff, List.forall₂_same]
  exact hp

theorem Carries.fragment {first : Nat} {bodies : List (List Bytes)} {pkt : Nat → PRUDPPacket}
    (h : Carries env first bodies pkt) {i : Nat} (hi : i < (bodies.map List.length).sum) :
    CarriesFragment env (pkt i)
      (fragment (bodies.map List.length) (fun i => bodies.flatten.getD i []) i) := by
  rw [← List.length_flatten] at hi
  have hget : bodies.flatten[i]? = some (bodies.flatten.getD i []) := by
    simp [List.getD_eq_getElem?_getD, List.getElem?_eq_getElem hi]
  obtain ⟨hp, ho⟩ := h.payload i _ hget
  refine ⟨?_, hp, ho, h.fragmentId i hi⟩
  rw [(h.reliable i hi).2.2]
  exact Nat.mod_lt _ (by norm_num)

theorem ready_receiving {c : ConnId} {w : World} (h : Ready env c w) : Receiving env c [] w :=
  ⟨h.established, h.buffer, h.acks⟩

/-- The packets a client sends for its bodies, stored uncompressed. -/
def packets (first : Nat) (bodies : List (List Bytes)) (i : Nat) : PRUDPPacket where
  type := .data
  flags := { reliable := true, needAck := true, hasSize := true }
  packetId := (first + i) % 2 ^ 16
  fragmentId := if (lasts (bodies.map List.length)).getD i false then 0 else 1
  payload := Payload.obfuscate env (0 :: bodies.flatten.getD i [])

theorem packets_carry (h : env.crypto.Lawful) (first : Nat) (bodies : List (List Bytes)) :
    Carries env first bodies (packets env first bodies) where
  reliable := fun _ _ => ⟨rfl, rfl, rfl⟩
  payload := by
    intro i frag hi
    refine ⟨Payload.obfuscate_ne_nil env h 0 _, ?_⟩
    show Payload.open? env (Payload.obfuscate env (0 :: bodies.flatten.getD i [])) = _
    rw [Payload.open?_obfuscate env h, List.getD_eq_getElem?_getD, hi]
    rfl
  fragmentId := by
    intro i _
    show (if (lasts (bodies.map List.length)).getD i false = true then 0 else 1) = 0 ↔ _
    split
    · next hl => exact ⟨fun _ => hl, fun _ => rfl⟩
    · next hl => exact ⟨fun h => absurd h one_ne_zero, fun h => absurd h hl⟩

/-- **Exactly the arrivals in order are delivered in order.**  Whatever the bodies
hold, and whichever packets carry them, what is handed to `on_payload` is a prefix of
what was sent if and only if the packets arrive in the order they were sent, each once,
up to some point, and nothing that ends a body arrives after it. -/
theorem delivered_prefix_iff (hcr : env.crypto.Lawful) (port : Port) (c : ConnId) (w : World)
    (hw : Ready env c w) (first : Nat) (shape : List Nat) (hshape : ∀ n ∈ shape, 0 < n)
    (arrival : List Nat) (ha : ∀ i ∈ arrival, i < shape.sum) :
    (∀ bodies pkt, bodies.map List.length = shape → Carries env first bodies pkt →
        delivered c (runs (arrive env port c) (arrival.map pkt) w) <+: bodies.map List.flatten) ↔
      InOrder shape arrival := by
  have hrun : ∀ bodies pkt, bodies.map List.length = shape → Carries env first bodies pkt →
      delivered c (runs (arrive env port c) (arrival.map pkt) w) =
        assemble [] (arrival.map (fragment shape fun i => bodies.flatten.getD i [])) := by
    rintro bodies pkt rfl hc
    rw [delivered_runs env port c arrival (fun i hi => hc.fragment env (ha i hi))
      (ready_receiving env hw), hw.silent]
    rfl
  have hsent : ∀ bodies : List (List Bytes), bodies.map List.length = shape →
      bodies.map List.flatten =
        assemble [] ((List.range shape.sum).map (fragment shape fun i => bodies.flatten.getD i [])) := by
    rintro bodies rfl
    have hne : ∀ fs ∈ bodies, fs ≠ [] := fun fs hfs =>
      List.ne_nil_of_length_pos (hshape _ (List.mem_map_of_mem hfs))
    rw [map_fragment_range bodies hne, assemble_cut bodies hne]
  constructor
  · intro h
    -- bodies whose fragments cannot be taken for one another
    let bodies := shape.splitLengths ((List.range shape.sum).map unary)
    have hlen : bodies.map List.length = shape := List.map_splitLengths_length _ _ (by simp)
    have hflat : bodies.flatten = (List.range shape.sum).map unary :=
      List.flatten_splitLengths _ _ (by simp)
    have hpre := h bodies (packets env first bodies) hlen (packets_carry env hcr first bodies)
    rw [hrun bodies _ hlen (packets_carry env hcr first bodies), hsent bodies hlen, hflat] at hpre
    have hcontent : ∀ is : List Nat, (∀ i ∈ is, i < shape.sum) →
        is.map (fragment shape fun i => ((List.range shape.sum).map unary).getD i []) =
          is.map (fragment shape unary) := by
      intro is his
      apply List.map_congr_left
      intro i hi
      simp [fragment, List.getD_eq_getElem?_getD, his i hi]
    rw [hcontent arrival ha, hcontent _ fun i hi => List.mem_range.mp hi] at hpre
    exact inOrder_of_assemble_prefix shape ha hpre
  · intro h bodies pkt hlen hc
    rw [hrun bodies pkt hlen hc, hsent bodies hlen]
    exact assemble_prefix_of_inOrder shape _ ha h

theorem ready_sample : Ready Sample.env 0 (Sample.world [Sample.connection .auth 1 10000]) where
  established := rfl
  buffer := rfl
  silent := rfl
  acks := Sample.env_acks _

/-- One body in one packet, which arrives twice. -/
theorem delivered_prefix_iff_retransmitted :
    (∀ bodies pkt, bodies.map List.length = [1] → Carries Sample.env 1 bodies pkt →
        delivered 0 (runs (arrive Sample.env .auth 0) ([0, 0].map pkt)
          (Sample.world [Sample.connection .auth 1 10000])) <+: bodies.map List.flatten) ↔
      InOrder [1] [0, 0] :=
  delivered_prefix_iff Sample.env Sample.env_lawful .auth 0 _ ready_sample 1 [1] (by decide) [0, 0]
    (by decide)

/-- A CreateGathering whose packet is sent again is handled again. -/
theorem create_delivered_twice :
    Carries Sample.env 1 [[Sample.body 60 4 []]] (packets Sample.env 1 [[Sample.body 60 4 []]]) ∧
    Ready Sample.env 0 (Sample.world [Sample.connection .auth 1 10000]) ∧
    ¬ delivered 0 (runs (arrive Sample.env .auth 0)
        ([0, 0].map (packets Sample.env 1 [[Sample.body 60 4 []]]))
        (Sample.world [Sample.connection .auth 1 10000])) <+:
      [[Sample.body 60 4 []]].map List.flatten := by
  have hc := packets_carry Sample.env Sample.env_lawful 1 [[Sample.body 60 4 []]]
  have hlt : ∀ i ∈ [0, 0], i < ([[Sample.body 60 4 []]].map List.length).sum := by decide
  refine ⟨hc, ready_sample, ?_⟩
  rw [delivered_runs Sample.env .auth 0 [0, 0] (fun i hi => hc.fragment Sample.env (hlt i hi))
    (ready_receiving Sample.env ready_sample)]
  decide

end Delivery
end Ghostbusters
