import GhostbustersServer.Guarantees.Sample

/-!
# A session and the packets of the one before it

Only CONNECT looks at the signature a packet carries.  A late packet of the previous
session is therefore handled as one of the new session:

    Stale e w       DATA, PING or DISCONNECT without the signature of the session
    Harmless e w    nothing in the packet would have touched the session anyway
    a run keeps its session to itself exactly when its stale packets are harmless
                                                                    (isolated_iff)
-/

namespace Ghostbusters

open Py Act PRUDPServer

namespace Isolation

variable (env : Env)

/-- What the server has done since it was in `w`. -/
def news (w w' : World) : List TraceEntry := w'.trace.drop w.trace.length

/-- The session of `c` is as it was: no body, no fragment and no close hook. -/
structure NoEffect (port : Port) (remote : Remote) (c : ConnId) (w w' : World) : Prop where
  undelivered : ∀ port' k body, .onPayload port' k body ∉ news w w'
  unbuffered : (w'.heap c).fragmentBuffer = (w.heap c).fragmentBuffer
  unclosed : ∀ port' remote', .closeHooks port' remote' ∉ news w w'
  listed : (w'.connections port).get? remote = some c
  state : (w'.heap c).state = (w.heap c).state

/-- A packet for the session of `c` that does not carry its signature. -/
structure Stale (port : Port) (remote : Remote) (c : ConnId) (pkt : PRUDPPacket) (w : World) :
    Prop where
  type : pkt.type = .data ∨ pkt.type = .ping ∨ pkt.type = .disconnect
  current : (w.connections port).get? remote = some c
  signature : pkt.signature ≠ (w.heap c).serverConnSig

/-- The acknowledgment the server would send cannot be encoded. -/
def AckFails (conn : Connection) (type : PacketType) (pkt : PRUDPPacket) : Prop :=
  ¬ env.packetEncodes (ackPacket conn type pkt.packetId)

/-- Changes nothing that `NoEffect` is about: a PING, DATA that is not let in or brings nothing,
a DISCONNECT that raises.  `lastActivity` and `lastClientPid` may change all the same, and an
acknowledgment go out. -/
def Harmless (conn : Connection) (pkt : PRUDPPacket) : Prop :=
  match pkt.type with
  | .data =>
    conn.state ≠ .established ∨ pkt.payload = [] ∨
      (pkt.flags.reliable ∧ AckFails env conn .data pkt) ∨
      Payload.open? env pkt.payload = none ∨
      (Payload.open? env pkt.payload = some [] ∧ 0 < pkt.fragmentId)
  | .disconnect => AckFails env conn .disconnect pkt
  | _ => True

/-! ## One packet -/

theorem news_of_grows {K : TraceEntry → Prop} {w w' : World} (h : LogGrows K w w') :
    ∀ e ∈ news w w', K e := by
  obtain ⟨new, hnew, hall⟩ := h
  unfold news
  rw [hnew, List.drop_left]
  exact hall

theorem noEffect_of_received {port : Port} {remote : Remote} {c : ConnId} {w w' : World}
    (hc : (w.connections port).get? remote = some c) (hr : Received w w')
    (hb : (w'.heap c).fragmentBuffer = (w.heap c).fragmentBuffer) :
    NoEffect port remote c w w' where
  undelivered := fun _ _ _ hm => news_of_grows hr.packets _ hm
  unbuffered := hb
  unclosed := fun _ _ hm => news_of_grows hr.packets _ hm
  listed := by rw [hr.connections]; exact hc
  state := hr.state c

/-- DATA leaves nothing behind exactly when it is not let in, or is an empty fragment. -/
theorem reassemble_eq_iff (conn : Connection) (pkt : PRUDPPacket) :
    reassemble env conn pkt = (none, conn.fragmentBuffer) ↔
      pkt.payload = [] ∨ (pkt.flags.reliable ∧ AckFails env conn .data pkt) ∨
        Payload.open? env pkt.payload = none ∨
        (Payload.open? env pkt.payload = some [] ∧ 0 < pkt.fragmentId) := by
  unfold reassemble AckFails
  by_cases h1 : pkt.payload = [] ∨
      (pkt.flags.reliable ∧ ¬ env.packetEncodes (ackPacket conn .data pkt.packetId))
  · rw [if_pos h1]
    exact iff_of_true rfl (h1.imp_right Or.inl)
  · rw [if_neg h1]
    rw [not_or] at h1
    rw [or_iff_right h1.1, or_iff_right h1.2]
    cases ho : Payload.open? env pkt.payload with
    | none => exact iff_of_true rfl (.inl rfl)
    | some body => by_cases hf : 0 < pkt.fragmentId <;> simp [hf]

/-- What is logged after a body has been handed over comes behind it. -/
theorem deliver_grows (port : Port) (c : ConnId) (body : Bytes) (w : World)
    (hw : w.lobby.registry.WellIndexed) :
    LogGrows (fun _ => True) (w.logged (.onPayload port c body))
      ((deliver env port c body).after w) := by
  show LogGrows _ _ ((RMCDispatcher.onPayload env port c body).after
    (w.logged (.onPayload port c body)))
  unfold RMCDispatcher.onPayload
  split
  · next req _ =>
    have h := (respond_handled env (w.logged (.onPayload port c body)) port c req hw).trans_quiet
      env (respond_send_after env port c req _).toQuiet
    exact h.log.mono fun _ _ => trivial
  · exact .refl _ _

/-- **DATA.** -/
theorem noEffect_data {port : Port} {remote : Remote} {c : ConnId} {pkt : PRUDPPacket} {w : World}
    (hw : w.lobby.registry.WellIndexed) (hc : (w.connections port).get? remote = some c)
    (ht : pkt.type = .data) :
    NoEffect port remote c w (step env (.packet port remote pkt) w) ↔
      Harmless env (w.heap c) pkt := by
  have hstep := step_packet env hc pkt
  rw [ht] at hstep
  simp only at hstep
  unfold Harmless
  rw [hstep, ht]
  simp only
  by_cases hs : (w.heap c).state = .established
  swap
  · have hw' : (handleData env port pkt c).after w = w := by
      unfold handleData Srv.conn after
      simp only [run_bind, run_get, run_pure]
      rw [if_pos hs]
      rfl
    rw [hw']
    exact iff_of_true (noEffect_of_received hc (Received.refl w) rfl) (.inl hs)
  rw [← reassemble_eq_iff env (w.heap c) pkt]
  obtain ⟨w1, hr, hbuf, hafter⟩ := handleData_spec env port pkt c w hs
  rw [hafter]
  generalize reassemble env (w.heap c) pkt = out at hbuf ⊢
  obtain ⟨body?, buf⟩ := out
  simp only [hs, ne_eq, not_true_eq_false, false_or, Prod.mk.injEq]
  cases body? with
  | none =>
    constructor
    · intro h
      exact ⟨rfl, hbuf.symm.trans h.unbuffered⟩
    · rintro ⟨-, hb⟩
      exact noEffect_of_received hc hr (hbuf.trans hb)
  | some body =>
    refine iff_of_false ?_ fun h => Option.some_ne_none body h.1
    intro h
    -- the body is in the log, and stays there
    obtain ⟨new, hnew, -⟩ := hr.packets
    have hgrows := deliver_grows env port c body w1 (by rw [hr.lobby]; exact hw)
    obtain ⟨more, hmore, -⟩ := hgrows
    apply h.undelivered port c body
    unfold news
    rw [hmore]
    show _ ∈ (w1.trace ++ [TraceEntry.onPayload port c body] ++ more).drop w.trace.length
    rw [hnew, List.append_assoc, List.append_assoc, List.drop_left]
    simp

/-- **DISCONNECT.** -/
theorem noEffect_disconnect {port : Port} {remote : Remote} {c : ConnId} {pkt : PRUDPPacket}
    {w : World} (hc : (w.connections port).get? remote = some c) (ht : pkt.type = .disconnect) :
    NoEffect port remote c w (step env (.packet port remote pkt) w) ↔
      Harmless env (w.heap c) pkt := by
  have hstep := step_packet env hc pkt
  rw [ht] at hstep
  simp only at hstep
  unfold Harmless
  rw [hstep, ht]
  simp only
  unfold AckFails
  rw [handleDisconnect_spec]
  split
  · next he =>
    refine iff_of_false ?_ (not_not_intro he)
    intro h
    have hlisted := h.listed
    simp [World.evicted] at hlisted
  · next he => exact iff_of_true (noEffect_of_received hc (Received.refl w) rfl) he

theorem handlePing_buffer (pkt : PRUDPPacket) (c : ConnId) (w : World) :
    (((handlePing env pkt c).after w).heap c).fragmentBuffer = (w.heap c).fragmentBuffer := by
  let w0 := w.withConn c { w.heap c with lastActivity := w.now }
  have hb : (w0.heap c).fragmentBuffer = (w.heap c).fragmentBuffer := by
    simp only [w0, World.heap_withConn, if_pos]
  have hack : (((sendPingAck env c pkt.packetId).after w0).heap c) = w0.heap c := by
    unfold sendPingAck after
    rw [sendAck_run]
    split <;> rfl
  show (((if pkt.flags.needAck then sendPingAck env c pkt.packetId else pure () :
    Srv Unit).after w0).heap c).fragmentBuffer = _
  split
  · rw [hack, hb]
  · exact hb

/-- **Every packet without the signature of the session.** -/
theorem noEffect_iff {port : Port} {remote : Remote} {c : ConnId} {pkt : PRUDPPacket} {w : World}
    (hw : w.lobby.registry.WellIndexed) (h : Stale port remote c pkt w) :
    NoEffect port remote c w (step env (.packet port remote pkt) w) ↔
      Harmless env (w.heap c) pkt := by
  rcases h.type with ht | ht | ht
  · exact noEffect_data env hw h.current ht
  · have hstep := step_packet env h.current pkt
    rw [ht] at hstep
    simp only at hstep
    unfold Harmless
    rw [hstep, ht]
    exact iff_of_true (noEffect_of_received h.current (handlePing_received env pkt c w)
      (handlePing_buffer env pkt c w)) trivial
  · exact noEffect_disconnect env h.current ht

/-! ## Every run -/

/-- An event that brings such a packet does nothing to the session. -/
def Isolated (port : Port) (remote : Remote) (c : ConnId) (e : Event) (w : World) : Prop :=
  ∀ pkt, e = .packet port remote pkt → Stale port remote c pkt w →
    NoEffect port remote c w (step env e w)

/-- It brings one that is harmless. -/
def Spared (port : Port) (remote : Remote) (c : ConnId) (e : Event) (w : World) : Prop :=
  ∀ pkt, e = .packet port remote pkt → Stale port remote c pkt w → Harmless env (w.heap c) pkt

theorem isolated_step_iff {port : Port} {remote : Remote} {c : ConnId} {e : Event} {w : World}
    (hw : w.lobby.registry.WellIndexed) :
    Isolated env port remote c e w ↔ Spared env port remote c e w := by
  constructor
  · rintro h pkt rfl hstale
    exact (noEffect_iff env hw hstale).mp (h pkt rfl hstale)
  · rintro h pkt rfl hstale
    exact (noEffect_iff env hw hstale).mpr (h pkt rfl hstale)

/-- A SYN opens a session with a signature of its own. -/
theorem step_syn (w : World) (port : Port) (remote : Remote) {syn : PRUDPPacket}
    (ht : syn.type = .syn) :
    ((step env (.packet port remote syn) w).connections port).get? remote = some w.nextConn ∧
      ((step env (.packet port remote syn) w).heap w.nextConn).serverConnSig =
        urandom (fun i => env.random (w.randomPos + i)) 0 4 := by
  have hq := (handleSyn_spec env port remote w).toQuiet
  have hstep : step env (.packet port remote syn) w = (handleSyn env port remote).after w := by
    unfold step handleEvent handle after
    rw [run_get_bind]
    dsimp only
    rw [ht]
  rw [hstep]
  constructor
  · rw [hq.connections]
    simp [World.synReceived]
  · refine (congrArg Connection.serverConnSig (hq.core w.nextConn) :).trans ?_
    show ((w.synReceived env port remote).heap w.nextConn).serverConnSig = _
    simp [World.synReceived, Connection.new]

/-- **A session is isolated exactly as long as the packets that are not its own are
harmless.**  Over every run behind the SYN that opened it. -/
theorem isolated_iff (w : World) (hs : Sound w) (port : Port) (remote : Remote) (syn : PRUDPPacket)
    (ht : syn.type = .syn) (es : List Event) :
    (((step env (.packet port remote syn) w).connections port).get? remote = some w.nextConn ∧
      ((step env (.packet port remote syn) w).heap w.nextConn).serverConnSig =
        urandom (fun i => env.random (w.randomPos + i)) 0 4) ∧
    (Guarded (step env) (Isolated env port remote w.nextConn) es
        (step env (.packet port remote syn) w) ↔
      Guarded (step env) (Spared env port remote w.nextConn) es
        (step env (.packet port remote syn) w)) := by
  refine ⟨step_syn env w port remote ht, ?_⟩
  refine guarded_congr (fun e w h => step_sound env e h) (fun e w h => ?_) es _
    (step_sound env _ hs)
  exact isolated_step_iff env h.indexed

/-- A host that has created a lobby. -/
def firstSession : List Event :=
  [.packet .secure (Sample.remote 1) Sample.syn,
   .packet .secure (Sample.remote 1) (Sample.connect []),
   .packet .secure (Sample.remote 1) (Sample.data 1 60 4 [])]

def connectAgain : Event :=
  .packet .secure (Sample.remote 1) { Sample.connect [] with signature := [5, 6, 7, 8] }

def lateDisconnect : PRUDPPacket where
  type := .disconnect
  signature := [0, 1, 2, 3]

/-- It starts again; then the DISCONNECT of its first session comes in. -/
def secondSession : List Event :=
  [connectAgain, .packet .secure (Sample.remote 1) lateDisconnect]

/-- The host, with its second session opened. -/
def restarted : World :=
  step Sample.env (.packet .secure (Sample.remote 1) Sample.syn)
    (runs (step Sample.env) firstSession (Sample.world []))

theorem isolated_iff_restarted :
    Guarded (step Sample.env) (Isolated Sample.env .secure (Sample.remote 1)
        (runs (step Sample.env) firstSession (Sample.world [])).nextConn) secondSession restarted ↔
      Guarded (step Sample.env) (Spared Sample.env .secure (Sample.remote 1)
        (runs (step Sample.env) firstSession (Sample.world [])).nextConn) secondSession restarted :=
  (isolated_iff Sample.env _ (runs_preserves (fun e _ h => step_sound Sample.env e h) firstSession _
    (Sample.world_sound [])) .secure (Sample.remote 1) Sample.syn rfl secondSession).2

/-- The late DISCONNECT ends the second session and takes the lobby with it. -/
theorem not_isolated_late_disconnect :
    ¬ Guarded (step Sample.env) (Isolated Sample.env .secure (Sample.remote 1) 1) secondSession
        restarted ∧
      (restarted.lobby.get 10000).isSome ∧
      (runs (step Sample.env) secondSession restarted).lobby.get 10000 = none := by
  have hbefore : ((step Sample.env connectAgain restarted).connections .secure).get?
        (Sample.remote 1) = some 1 ∧
      ((step Sample.env connectAgain restarted).heap 1).serverConnSig = [5, 6, 7, 8] := by
    decide +kernel
  have hafter : ((step Sample.env (.packet .secure (Sample.remote 1) lateDisconnect)
      (step Sample.env connectAgain restarted)).connections .secure).get? (Sample.remote 1) =
        none := by
    decide +kernel
  refine ⟨?_, by decide +kernel, by decide +kernel⟩
  rintro ⟨-, h, -⟩
  have hstale : Stale .secure (Sample.remote 1) 1 lateDisconnect
      (step Sample.env connectAgain restarted) := by
    refine ⟨.inr (.inr rfl), hbefore.1, ?_⟩
    rw [hbefore.2]
    decide
  exact Option.some_ne_none 1 ((h lateDisconnect rfl hstale).listed.symm.trans hafter)

end Isolation
end Ghostbusters
