import GhostbustersServer.Effects.Events
import GhostbustersServer.Effects.Pushes
import GhostbustersServer.Guarantees.Framing
import GhostbustersServer.Guarantees.Sample

/-!
# Reliable packets can be encoded

A connection counts its reliable packets from 1 on and never starts again, and a body goes
into one packet, however long it is.

    Carries              the reliable packets of a connection, read off the log
    step_hands           an event hands the encoder packets under the next ids
    reliable_iff         all of them can be encoded as long as there are fewer than 65536
                         and every body fits its packet
-/

namespace Ghostbusters
namespace Reliable

open Py Act PRUDPServer

/-! ## Packets and bodies -/

/-- The body for connection `c` that an entry is about, whether or not it went out. -/
def bodyTo (c : ConnId) : TraceEntry → Option Bytes
  | .sent _ k msg | .sendFailed _ k msg => if k = c then (Rmc.encode msg).toOption else none
  | _ => none

def bodiesTo (c : ConnId) (trace : List TraceEntry) : List Bytes := trace.filterMap (bodyTo c)

variable (env : Env)

/-- The packets that `send_reliable_data` hands the encoder for connection `c`, which came in
on `port`: one for each body, ahead of its entry in the log if it went out. -/
inductive Carries (c : ConnId) (port : Port) : List TraceEntry → List PRUDPPacket → Prop where
  | nil : Carries c port [] []
  | other {e es pkts} : bodyTo c e = none → Carries c port es pkts → Carries c port (e :: es) pkts
  | sent {conn body remote p msg es pkts} : conn.localPort = port → Rmc.encode msg = .ok body →
      env.packetEncodes (dataPacket env conn body) = true → Carries c port es pkts →
      Carries c port (.sendto remote (dataPacket env conn body) :: .sent p c msg :: es)
        (dataPacket env conn body :: pkts)
  | failed {conn body p msg es pkts} : conn.localPort = port → Rmc.encode msg = .ok body →
      env.packetEncodes (dataPacket env conn body) = false → Carries c port es pkts →
      Carries c port (.sendFailed p c msg :: es) (dataPacket env conn body :: pkts)

section
variable {env} {c : ConnId} {port : Port}

theorem Carries.silent {es : List TraceEntry} (h : ∀ e ∈ es, bodyTo c e = none) :
    Carries env c port es [] := by
  induction es with
  | nil => exact .nil
  | cons e es ih =>
    exact .other (h e List.mem_cons_self) (ih fun e' he => h e' (List.mem_cons_of_mem e he))

theorem Carries.append {es es' : List TraceEntry} {pkts pkts' : List PRUDPPacket}
    (h : Carries env c port es pkts) (h' : Carries env c port es' pkts') :
    Carries env c port (es ++ es') (pkts ++ pkts') := by
  induction h with
  | nil => exact h'
  | other he _ ih => exact .other he ih
  | sent hp hb henc _ ih => exact .sent hp hb henc ih
  | failed hp hb henc _ ih => exact .failed hp hb henc ih

theorem bodyTo_own (p : Port) {msg : Message} {body : Bytes} (hb : Rmc.encode msg = .ok body) :
    bodyTo c (.sent p c msg) = some body ∧ bodyTo c (.sendFailed p c msg) = some body := by
  have hown : (if c = c then (Rmc.encode msg).toOption else none) = some body := by
    rw [if_pos rfl, hb]
    rfl
  exact ⟨hown, hown⟩

/-- Each packet wraps its body. -/
theorem Carries.payloads {es : List TraceEntry} {pkts : List PRUDPPacket}
    (h : Carries env c port es pkts) :
    pkts.map (·.payload) = (bodiesTo c es).map fun body => Payload.wrap env body (port == .secure) := by
  have hpayload : ∀ (conn : Connection) (body : Bytes), conn.localPort = port →
      (dataPacket env conn body).payload = Payload.wrap env body (port == .secure) := by
    rintro conn body rfl
    rfl
  unfold bodiesTo
  induction h with
  | nil => rfl
  | other he _ ih =>
    rw [List.filterMap_cons_none he]
    exact ih
  | @sent conn body remote p msg es pkts hp hb _ _ ih =>
    rw [List.filterMap_cons_none rfl, List.filterMap_cons_some (bodyTo_own p hb).1, List.map_cons,
      List.map_cons, hpayload conn body hp, ih]
  | @failed conn body p msg es pkts hp hb _ _ ih =>
    rw [List.filterMap_cons_some (bodyTo_own p hb).2, List.map_cons, List.map_cons,
      hpayload conn body hp, ih]

end

/-! ## What is handed over between two states -/

structure Handed (c : ConnId) (w w' : World) (pkts : List PRUDPPacket) : Prop where
  localPort : (w'.heap c).localPort = (w.heap c).localPort
  log : ∃ new, w'.trace = w.trace ++ new ∧ Carries env c (w.heap c).localPort new pkts
  ids : pkts.map (·.packetId) = List.range' (w.heap c).outgoingReliableSeq pkts.length
  seq : (w'.heap c).outgoingReliableSeq = (w.heap c).outgoingReliableSeq + pkts.length

/-- Nothing but packets under the next ids, for a connection that is there. -/
def Hands (c : ConnId) (w w' : World) : Prop :=
  w.nextConn ≤ w'.nextConn ∧ (c < w.nextConn → ∃ pkts, Handed env c w w' pkts)

section
variable {env} {c : ConnId}

theorem Handed.of_silent {w w' : World} (hport : (w'.heap c).localPort = (w.heap c).localPort)
    (hseq : (w'.heap c).outgoingReliableSeq = (w.heap c).outgoingReliableSeq)
    (hlog : LogGrows (fun e => bodyTo c e = none) w w') : Handed env c w w' [] := by
  obtain ⟨new, hnew, hall⟩ := hlog
  exact ⟨hport, ⟨new, hnew, .silent hall⟩, rfl, hseq⟩

theorem Handed.trans {w w1 w2 : World} {ps qs : List PRUDPPacket} (h1 : Handed env c w w1 ps)
    (h2 : Handed env c w1 w2 qs) : Handed env c w w2 (ps ++ qs) := by
  obtain ⟨n1, e1, c1⟩ := h1.log
  obtain ⟨n2, e2, c2⟩ := h2.log
  rw [h1.localPort] at c2
  refine ⟨h2.localPort.trans h1.localPort, ⟨n1 ++ n2, ?_, c1.append c2⟩, ?_, ?_⟩
  · rw [e2, e1, List.append_assoc]
  · rw [List.map_append, h1.ids, h2.ids, h1.seq, List.length_append, List.range'_append_1]
  · rw [h2.seq, h1.seq, List.length_append, Nat.add_assoc]

instance : IsPreorder World (Hands env c) where
  refl := fun w => ⟨Nat.le_refl _, fun _ => ⟨[], .of_silent rfl rfl (LogGrows.refl _ w)⟩⟩
  trans := fun w w1 w2 h1 h2 => by
    refine ⟨h1.1.trans h2.1, fun hc => ?_⟩
    obtain ⟨ps, hps⟩ := h1.2 hc
    obtain ⟨qs, hqs⟩ := h2.2 (Nat.lt_of_lt_of_le hc h1.1)
    exact ⟨ps ++ qs, hps.trans hqs⟩

/-- A state that differs in what a connection's packets do not depend on. -/
theorem Hands.of_silent {w w' : World} (hnext : w.nextConn ≤ w'.nextConn)
    (hport : c < w.nextConn → (w'.heap c).localPort = (w.heap c).localPort)
    (hseq : c < w.nextConn → (w'.heap c).outgoingReliableSeq = (w.heap c).outgoingReliableSeq)
    (hlog : LogGrows (fun e => bodyTo c e = none) w w') : Hands env c w w' :=
  ⟨hnext, fun hc => ⟨[], .of_silent (hport hc) (hseq hc) hlog⟩⟩

theorem Hands.of_same {w w' : World} (hnext : w'.nextConn = w.nextConn) (hheap : w'.heap = w.heap)
    (htrace : w'.trace = w.trace) : Hands env c w w' :=
  .of_silent (Nat.le_of_eq hnext.symm) (fun _ => by rw [hheap]) (fun _ => by rw [hheap])
    (.of_same htrace)

theorem Hands.withConn {w : World} {k : ConnId} {conn : Connection}
    (hport : conn.localPort = (w.heap k).localPort)
    (hseq : conn.outgoingReliableSeq = (w.heap k).outgoingReliableSeq) :
    Hands env c w (w.withConn k conn) := by
  refine .of_silent (Nat.le_refl _) (fun _ => ?_) (fun _ => ?_) (.of_same rfl)
  · rw [World.heap_withConn]
    split
    · next hk => rw [hport, hk]
    · rfl
  · rw [World.heap_withConn]
    split
    · next hk => rw [hseq, hk]
    · rfl

theorem bodyTo_of_not_message {e : TraceEntry} (h : ¬ e.IsMessage) : bodyTo c e = none := by
  cases e <;> first | rfl | exact absurd trivial h

theorem Hands.logged {w : World} {e : TraceEntry} (h : bodyTo c e = none) :
    Hands env c w (w.logged e) :=
  .of_silent (Nat.le_refl _) (fun _ => rfl) (fun _ => rfl) ⟨[e], rfl, by simpa using h⟩

end

/-! ## Messages -/

section
variable (c : ConnId)

/-- The connection after a packet under its next id. -/
def counted (conn : Connection) : Connection :=
  { conn with outgoingReliableSeq := conn.outgoingReliableSeq + 1 }

/-- One packet more for the connection, and none for another. -/
theorem Hands.one {w w' : World} {k : ConnId} (body : Bytes) {new : List TraceEntry}
    (hnext : w'.nextConn = w.nextConn)
    (hheap : w'.heap = Function.update w.heap k (counted (w.heap k)))
    (htrace : w'.trace = w.trace ++ new)
    (hown : k = c → Carries env c (w.heap k).localPort new [dataPacket env (w.heap k) body])
    (hother : k ≠ c → ∀ e ∈ new, bodyTo c e = none) : Hands env c w w' := by
  by_cases hk : k = c
  · subst hk
    have hself : w'.heap k = counted (w.heap k) := by rw [hheap, Function.update_self]
    refine ⟨Nat.le_of_eq hnext.symm, fun _ => ⟨[dataPacket env (w.heap k) body], ?_,
      ⟨new, htrace, hown rfl⟩, rfl, ?_⟩⟩
    · rw [hself]
      rfl
    · rw [hself]
      rfl
  · have hself : w'.heap c = w.heap c := by rw [hheap, Function.update_of_ne (Ne.symm hk)]
    exact .of_silent (Nat.le_of_eq hnext.symm) (fun _ => by rw [hself]) (fun _ => by rw [hself])
      ⟨new, htrace, hother hk⟩

/-- A message to the connection takes the next id, whether or not its packet can be encoded; one
to another connection takes none of its. -/
theorem send_hands (port : Port) (k : ConnId) (msg : Message) :
    Within (Hands env c) (RMCDispatcher.send env port k msg) := by
  intro w
  unfold WithinAt
  rw [send_run]
  have hother : k ≠ c → bodyTo c (.sent port k msg) = none ∧ bodyTo c (.sendFailed port k msg) = none :=
    fun hk => ⟨if_neg hk, if_neg hk⟩
  cases hb : Rmc.encode msg with
  | error e =>
    have hrun : (RMCDispatcher.sendMessage env k msg).run w = (.error e, w) := by
      unfold RMCDispatcher.sendMessage
      rw [hb]
      rfl
    have hnone : bodyTo c (.sendFailed port k msg) = none := by
      show (if k = c then (Rmc.encode msg).toOption else none) = none
      rw [hb]
      exact ite_self _
    rw [hrun]
    exact Hands.logged hnone
  | ok body =>
    have hrun := sendMessage_run env k w hb
    cases henc : env.packetEncodes (dataPacket env (w.heap k) body) with
    | true =>
      rw [hrun, if_pos henc]
      refine Hands.one env c body rfl rfl (List.append_assoc _ _ _) ?_ ?_
      · rintro rfl
        exact .sent rfl hb henc .nil
      · intro hk e he
        rcases List.mem_cons.mp he with rfl | he
        · rfl
        · rw [List.mem_singleton.mp he]
          exact (hother hk).1
    | false =>
      rw [hrun, if_neg (by rw [henc]; decide)]
      refine Hands.one env c body rfl rfl rfl ?_ ?_
      · rintro rfl
        exact .failed rfl hb henc .nil
      · intro hk e he
        rw [List.mem_singleton.mp he]
        exact (hother hk).2

theorem sendRequest_hands (port : Port) (k : ConnId) (proto method : Nat) (params : Bytes) :
    Within (Hands env c) (RMCDispatcher.sendRequest env port k proto method params) := by
  refine Within.bind Within.get fun w => ?_
  refine Within.bind (Within.modify fun w' => ?_) fun _ => send_hands env c port k _
  exact .of_same rfl rfl rfl

theorem registerEx_hands (k : ConnId) (req : Request) :
    Within (Hands env c) (SecureConnection.registerEx k req) := by
  apply withParsed_within
  intro urls
  refine Within.bind ?_ fun cid => Within.bind (conn_within k) fun conn => ?_
  · refine Within.bind (conn_within k) fun conn => ?_
    split
    · exact Within.pure _
    · refine Within.bind Within.get fun w => Within.bind (Within.modify fun w' => ?_) fun _ => ?_
      · exact .of_same rfl rfl rfl
      · exact Within.bind (fun w' => Hands.withConn rfl rfl) fun _ => Within.pure _
  · exact Within.bind (fun w' => Hands.withConn rfl rfl) fun _ => Within.pure _

theorem allows_hands : Allows env (Hands env c) where
  useDb := fun _ _ => .of_same rfl rfl rfl
  random := fun _ _ => .of_same rfl rfl rfl
  push := fun port k proto method params _ => sendRequest_hands env c port k proto method params
  modifyLobby := fun _ _ => .of_same rfl rfl rfl
  event := fun port k _ _ _ _ _ _ _ => sendRequest_hands env c port k _ _ _
  received := fun w w' hr => by
    refine .of_silent (Nat.le_of_eq hr.nextConn.symm) (fun _ => hr.localPort c)
      (fun _ => (congrArg Connection.outgoingReliableSeq (hr.session c) :)) (hr.packets.mono ?_)
    intro e he
    cases e <;> first | rfl | exact he.elim
  logged := fun _ _ he => Hands.logged (bodyTo_of_not_message he)
  withConn := fun _ _ _ hconn => Hands.withConn (congrArg Connection.localPort hconn :)
    (congrArg Connection.outgoingReliableSeq hconn :)
  evicted := fun w port remote => by
    refine .of_silent (Nat.le_refl _) (fun _ => rfl) (fun _ => rfl) ⟨[_], rfl, ?_⟩
    intro e he
    rw [List.mem_singleton.mp he]
    rfl
  opened := fun w port remote => by
    have hself : c < w.nextConn → (w.synReceived env port remote).heap c = w.heap c := fun hc =>
      Function.update_of_ne (Nat.ne_of_lt hc) _ _
    exact .of_silent (Nat.le_succ _) (fun hc => by rw [hself hc]) (fun hc => by rw [hself hc])
      (.of_same rfl)
  answer := fun port k msg _ => send_hands env c port k msg
  register := registerEx_hands env c

/-- **Every event.** -/
theorem step_hands (e : Event) (w : World) : Hands env c w (step env e w) :=
  (allows_hands env c).step_all (fun _ _ _ _ _ _ => .of_same rfl rfl rfl) (sendRequest_hands env c)
    (fun _ _ => .of_same rfl rfl rfl) e w

theorem runs_hands (es : List Event) (w : World) : Hands env c w (runs (step env) es w) :=
  runs_rel (refl_of (Hands env c)) (fun _ _ _ => trans_of (Hands env c)) (step_hands env c) es w

/-- A connection that a SYN opens has sent nothing yet. -/
theorem opened {w : World} {port : Port} {remote : Remote} {pkt : PRUDPPacket} (ht : pkt.type = .syn) :
    w.nextConn < (step env (.packet port remote pkt) w).nextConn ∧
      ((step env (.packet port remote pkt) w).heap w.nextConn).outgoingReliableSeq = 1 := by
  have hrun : step env (.packet port remote pkt) w =
      (sendSynAck env w.nextConn).after (w.synReceived env port remote) := by
    unfold step handleEvent PRUDPServer.handle after
    rw [run_get_bind, ht]
    rfl
  have hsend : ∀ pkt, Within (Fixes fun w : World => (w.nextConn, w.heap))
      (sendPacket env w.nextConn pkt) := by
    intro pkt
    refine Within.bind (conn_within _) fun conn => ?_
    split
    · exact Within.modify fun _ => rfl
    · exact Within.raise _
  have hsame : Within (Fixes fun w : World => (w.nextConn, w.heap)) (sendSynAck env w.nextConn) :=
    Within.bind (conn_within _) fun conn => hsend _
  have hafter := hsame (w.synReceived env port remote)
  rw [hrun]
  rw [show ((sendSynAck env w.nextConn).after (w.synReceived env port remote)).nextConn = _ from
    congrArg Prod.fst hafter, show ((sendSynAck env w.nextConn).after
      (w.synReceived env port remote)).heap = _ from congrArg Prod.snd hafter]
  refine ⟨Nat.lt_succ_self _, ?_⟩
  show (Function.update w.heap w.nextConn _ w.nextConn).outgoingReliableSeq = 1
  rw [Function.update_self]
  rfl

end

/-! ## What can be encoded -/

/-- Ids that count from 1 modulo 65536, in fields that have room for them and for the size. -/
def Encodable (pkts : List PRUDPPacket) : Prop :=
  (∀ pkt ∈ pkts, pkt.packetId < 2 ^ 16 ∧ pkt.payload.length < 2 ^ 16) ∧
    pkts.map (·.packetId) = (List.range' 1 pkts.length).map fun n => n % 2 ^ 16

/-- The length of a body in its packet, behind the ratio byte: zlib packs it on the secure port
only. -/
def packedLength (port : Port) (body : Bytes) : Nat :=
  1 + if port = .secure then (env.zlibCompress body).length else body.length

theorem length_wrap (hcr : env.crypto.Lawful) (port : Port) (body : Bytes) :
    (Payload.wrap env body (port == .secure)).length = packedLength env port body := by
  have hlen : (Payload.packCompressed env body (port == .secure)).length =
      packedLength env port body := by
    cases port
    · exact Nat.add_comm _ _
    · exact Nat.add_comm _ _
  exact (hcr.encrypt_length _ _).trans hlen

/-- **Every reliable packet of a connection** from its first on: their ids count up from 1, and
all of them can be encoded exactly as long as there are fewer than 65536 and every body fits. -/
theorem reliable_iff (hcr : env.crypto.Lawful) {c : ConnId} {w : World} (hc : c < w.nextConn)
    (hseq : (w.heap c).outgoingReliableSeq = 1) (es : List Event) :
    ∃ new pkts, (runs (step env) es w).trace = w.trace ++ new ∧
      Carries env c (w.heap c).localPort new pkts ∧
      pkts.map (·.packetId) = List.range' 1 pkts.length ∧
      (Encodable pkts ↔ (bodiesTo c new).length < 2 ^ 16 ∧
        ∀ body ∈ bodiesTo c new, packedLength env (w.heap c).localPort body < 2 ^ 16) := by
  obtain ⟨pkts, hpkts⟩ := (runs_hands env c es w).2 hc
  obtain ⟨new, hnew, hcarries⟩ := hpkts.log
  have hids := hpkts.ids
  rw [hseq] at hids
  have hpayloads := hcarries.payloads
  have hcount : pkts.length = (bodiesTo c new).length := by
    have h := congrArg List.length hpayloads
    rwa [List.length_map, List.length_map] at h
  refine ⟨new, pkts, hnew, hcarries, hids, ?_⟩
  rw [← hcount]
  constructor
  · rintro ⟨hfit, -⟩
    constructor
    · rcases Nat.eq_zero_or_pos pkts.length with h0 | hpos
      · rw [h0]
        decide
      · have hlast : pkts.length ∈ pkts.map (·.packetId) := by
          rw [hids, List.mem_range'_1]
          omega
        obtain ⟨pkt, hpkt, hid⟩ := List.mem_map.mp hlast
        rw [← hid]
        exact (hfit pkt hpkt).1
    · intro body hbody
      have hmem : Payload.wrap env body ((w.heap c).localPort == .secure) ∈ pkts.map (·.payload) := by
        rw [hpayloads]
        exact List.mem_map_of_mem hbody
      obtain ⟨pkt, hpkt, hpayload⟩ := List.mem_map.mp hmem
      rw [← length_wrap env hcr, ← hpayload]
      exact (hfit pkt hpkt).2
  · rintro ⟨hlt, hbodies⟩
    have hid : ∀ n ∈ List.range' 1 pkts.length, n < 2 ^ 16 := by
      intro n hn
      rw [List.mem_range'_1] at hn
      omega
    refine ⟨fun pkt hpkt => ⟨?_, ?_⟩, ?_⟩
    · have hmem : pkt.packetId ∈ pkts.map (·.packetId) := List.mem_map_of_mem hpkt
      rw [hids] at hmem
      exact hid _ hmem
    · have hmem : pkt.payload ∈ pkts.map (·.payload) := List.mem_map_of_mem hpkt
      rw [hpayloads] at hmem
      obtain ⟨body, hbody, hpayload⟩ := List.mem_map.mp hmem
      rw [← hpayload, length_wrap env hcr]
      exact hbodies body hbody
    · rw [hids]
      exact ((List.map_congr_left fun n hn => Nat.mod_eq_of_lt (hid n hn)).trans (List.map_id _)).symm

/-- A client opens a connection to the auth port. -/
def accepted : World := step Sample.env (.packet .auth (Sample.remote 1) Sample.syn) World.initial

/-- It is established, and asks for its account. -/
def asking : List Event :=
  [.packet .auth (Sample.remote 1) (Sample.connect []),
   .packet .auth (Sample.remote 1) (Sample.data 1 25 9 (wU32 0))]

theorem reliable_iff_asking : ∃ new pkts,
    (runs (step Sample.env) asking accepted).trace = accepted.trace ++ new ∧
      Carries Sample.env 0 (accepted.heap 0).localPort new pkts ∧
      pkts.map (·.packetId) = List.range' 1 pkts.length ∧
      (Encodable pkts ↔ (bodiesTo 0 new).length < 2 ^ 16 ∧
        ∀ body ∈ bodiesTo 0 new, packedLength Sample.env (accepted.heap 0).localPort body < 2 ^ 16) := by
  obtain ⟨hc, hseq⟩ := @opened Sample.env World.initial .auth (Sample.remote 1) Sample.syn rfl
  exact reliable_iff Sample.env Sample.env_lawful hc hseq asking

/-- **Past the last id** nothing goes out to a connection any more, with a codec that packs the
id into 16 bits. -/
theorem exhausted (hcodec : ∀ pkt, env.packetEncodes pkt = true → pkt.packetId < 2 ^ 16) {c : ConnId}
    {w : World} (hc : c < w.nextConn) (hseq : 2 ^ 16 ≤ (w.heap c).outgoingReliableSeq)
    (es : List Event) (port : Port) (msg : Message) :
    ∃ e w', (RMCDispatcher.send env port c msg).run (runs (step env) es w) = (.error e, w') := by
  obtain ⟨pkts, hpkts⟩ := (runs_hands env c es w).2 hc
  have hlater : 2 ^ 16 ≤ ((runs (step env) es w).heap c).outgoingReliableSeq := by
    rw [hpkts.seq]
    exact Nat.le_add_right_of_le hseq
  generalize runs (step env) es w = w' at hlater
  rw [send_run]
  cases hb : Rmc.encode msg with
  | error e =>
    unfold RMCDispatcher.sendMessage
    rw [hb]
    exact ⟨e, _, rfl⟩
  | ok body =>
    have hrefused : ¬ env.packetEncodes (dataPacket env (w'.heap c) body) = true := fun henc =>
      Nat.not_lt.mpr hlater (hcodec _ henc)
    rw [sendMessage_run env c w' hb, if_neg hrefused]
    exact ⟨_, _, rfl⟩

/-! ## A request for the stats of many players -/

/-- The answer that says nothing of each of some players. -/
def blankStats (pids : List Nat) : Bytes :=
  wU32 pids.length ++
    pids.flatMap fun pid => Game.sparkstatsEntry pid Game.noSlots Game.noSlots 0 0 []

/-- ReadStats of a category below the careers. -/
theorem userStats_blank {req : Request} (hcat : Game.paramU32 req.params 0 < 101) (w : World) :
    (Game.userStats env req).run w = (.ok (Game.ok req (blankStats (Game.parseM9Pids req.params))), w) := by
  have hentries : ∀ pids : List Nat,
      (Act.mapEach pids (Game.statsEntry fun _ => pure Game.noSlots)).run w =
        (.ok (pids.map fun pid => Game.sparkstatsEntry pid Game.noSlots Game.noSlots 0 0 []), w) := by
    intro pids
    induction pids with
    | nil => rfl
    | cons pid pids ih =>
      have hone : (Game.statsEntry (fun _ => pure Game.noSlots) pid).run w =
          (.ok (Game.sparkstatsEntry pid Game.noSlots Game.noSlots 0 0 []), w) := rfl
      unfold Act.mapEach
      rw [run_bind_ok hone, run_bind_ok ih]
      rfl
  unfold Game.userStats Game.statsReply
  dsimp only
  rw [if_neg (by omega), if_neg (by omega), if_neg (by omega)]
  have hreply : (do
      let entries ← Act.mapEach (Game.parseM9Pids req.params)
        (Game.statsEntry fun _ => pure Game.noSlots)
      return wU32 (Game.parseM9Pids req.params).length ++ entries.flatten : Srv Bytes).run w =
        (.ok (blankStats (Game.parseM9Pids req.params)), w) := by
    rw [run_bind_ok (hentries _), run_pure]
    rfl
  rw [run_bind_ok hreply]
  rfl

/-- A request for player 1, 73 times, in category 0. -/
def manyParams : Bytes := wU32 0 ++ wU32 73 ++ (List.replicate 73 (wU32 1)).flatten

def manyRequest : Request := { proto := 60, method := 9, callId := 1, params := manyParams }

/-- It comes in on the port that does not compress. -/
def many : Event := .packet .auth (Sample.remote 1) (Sample.data 1 60 9 manyParams)

def start : World := Sample.world [Sample.connection .auth 1 10000]

theorem requestOf_many : requestOf Sample.env start many = some (.auth, 0, manyRequest) := by
  decide +kernel

theorem many_pids : Game.parseM9Pids manyParams = List.replicate 73 1 := by
  decide +kernel

theorem length_blankStats_many : (blankStats (Game.parseM9Pids manyParams)).length = 65631 := by
  have hentry : (Game.sparkstatsEntry 1 Game.noSlots Game.noSlots 0 0 []).length = 899 := by
    decide +kernel
  unfold blankStats
  rw [many_pids, List.length_append, wU32_length, List.length_flatMap, List.map_replicate,
    hentry]
  rfl

/-- The answer to a request, encoded, if it has a handler that returns. -/
theorem answer_body {port : Port} {c : ConnId} {req : Request} {h : Handler} {r : ResponseOK}
    {body : Bytes} {e : Event} {w : World} (hreq : requestOf env w e = some (port, c, req))
    (hh : RMCDispatcher.handlerFor env req = some h)
    (hret : ∀ w, (h port c req).run w = (.ok (.ok r), w)) (hb : Rmc.encode (.ok r) = .ok body) :
    ∃ entry ∈ (step env e w).trace, bodyTo c entry = some body := by
  obtain ⟨b, w1, hr, hstep⟩ := step_request env hreq
  have hresp := @respond_run env port c _ _ hh (w1.logged (.onPayload port c b))
  unfold after at hresp
  rw [hret] at hresp
  have hafter : step env e w =
      (RMCDispatcher.send env port c (.ok r)).after (w1.logged (.onPayload port c b)) := by
    rw [hstep]
    unfold after
    rw [run_bind_ok hresp]
    rfl
  obtain ⟨packets, -, htrace⟩ := send_trace env port c (.ok r) (w1.logged (.onPayload port c b))
  rw [hafter]
  rcases htrace with h | h
  · refine ⟨.sent port c (.ok r), ?_, (bodyTo_own port hb).1⟩
    rw [h]
    simp
  · refine ⟨.sendFailed port c (.ok r), ?_, (bodyTo_own port hb).2⟩
    rw [h]
    simp

theorem encode_ok_length {r : ResponseOK} (hp : r.proto < 128) (hc : r.callId < 2 ^ 32)
    (hm : r.method < 2 ^ 32) (hlen : r.ret.length < 2 ^ 31) :
    ∃ body, Rmc.encode (.ok r) = .ok body ∧ r.ret.length ≤ body.length := by
  have hbody := Rmc.encode_ok r hp hc hm
  rw [Rmc.frame_fits (by simp only [List.length_cons, List.length_append, leBytes_length]; omega)]
    at hbody
  refine ⟨_, hbody, ?_⟩
  simp only [List.length_cons, List.length_append]
  omega

/-- One request in one packet is answered with a body that no packet has room for. -/
theorem oversized : ∃ new pkts, (step Sample.env many start).trace = start.trace ++ new ∧
    Carries Sample.env 0 .auth new pkts ∧ ∃ pkt ∈ pkts, 2 ^ 16 ≤ pkt.payload.length := by
  obtain ⟨pkts, hpkts⟩ := (step_hands Sample.env 0 many start).2 (by decide)
  obtain ⟨new, hnew, hcarries⟩ := hpkts.log
  refine ⟨new, pkts, hnew, hcarries, ?_⟩
  obtain ⟨body, hbody, hlen⟩ : ∃ body, Rmc.encode (Game.ok manyRequest
      (blankStats (Game.parseM9Pids manyParams))) = .ok body ∧ 65631 ≤ body.length := by
    have hlen := length_blankStats_many
    generalize blankStats (Game.parseM9Pids manyParams) = ret at hlen
    rw [← hlen]
    refine @encode_ok_length ⟨60, 9, 1, ret⟩ (show 60 < 128 by decide) (show 1 < 2 ^ 32 by decide)
      (show 9 < 2 ^ 32 by decide) ?_
    show ret.length < 2 ^ 31
    omega
  obtain ⟨entry, hentry, hto⟩ := @answer_body Sample.env .auth 0 manyRequest _ _ body many start
    requestOf_many (RMCDispatcher.handlerFor_eq Sample.env rfl rfl rfl)
    (userStats_blank Sample.env (by decide +kernel)) hbody
  have hin : body ∈ bodiesTo 0 new := by
    refine List.mem_filterMap.mpr ⟨entry, ?_, hto⟩
    rw [hnew] at hentry
    exact hentry
  have hmem : Payload.wrap Sample.env body ((start.heap 0).localPort == .secure) ∈
      pkts.map (·.payload) := by
    rw [hcarries.payloads]
    exact List.mem_map_of_mem hin
  obtain ⟨pkt, hpkt, hpayload⟩ := List.mem_map.mp hmem
  refine ⟨pkt, hpkt, ?_⟩
  rw [hpayload, length_wrap Sample.env Sample.env_lawful]
  show 2 ^ 16 ≤ 1 + body.length
  omega

end Reliable
end Ghostbusters
