import GhostbustersServer.Guarantees.Sample

/-!
# The gate of the secure port

CONNECT establishes a connection before the connect-ack handler is called, and
whether or not it returns.  So the gate holds as long as every CONNECT that is taken
proves its ticket, and a CONNECT without a payload walks through it.

    Gated trace     whoever gets a body to the payload handler has been acknowledged
-/

namespace Ghostbusters

open Py PRUDPServer

namespace Gate

variable (env : Env)

/-- `on_payload(conn, body)` is called on the secure port only after the connect-ack
handler has returned for the connection. -/
def Gated (trace : List TraceEntry) : Prop :=
  ∀ before c body rest, trace = before ++ .onPayload .secure c body :: rest →
    .connectAck c ∈ before

/-- Every CONNECT that the secure port takes proves its ticket. -/
def Proves (e : Event) (w : World) : Prop :=
  ∀ remote pkt c, e = .packet .secure remote pkt → Connects w .secure remote pkt c →
    proven env .secure pkt ≠ none

theorem Gated.nil : Gated [] := by
  intro before c body rest h
  cases before <;> cases h

/-- Entries that hand no body over, or only one of an acknowledged connection. -/
theorem Gated.append {trace new : List TraceEntry} (h : Gated trace)
    (hn : ∀ c body, .onPayload .secure c body ∈ new → .connectAck c ∈ trace) :
    Gated (trace ++ new) := by
  intro before c body rest he
  rcases List.append_eq_append_iff.mp he with ⟨mid, hb, hnew⟩ | ⟨mid, htrace, hr⟩
  · rw [hb]
    apply List.mem_append_left
    apply hn c body
    rw [hnew]
    exact List.mem_append_right _ List.mem_cons_self
  · cases mid with
    | nil =>
      have hc : .connectAck c ∈ trace := by
        apply hn c body
        rw [List.nil_append] at hr
        rw [← hr]
        exact List.mem_cons_self
      rw [htrace, List.append_nil] at hc
      exact hc
    | cons e mid =>
      have hhead : TraceEntry.onPayload .secure c body = e := by
        injection hr
      rw [← hhead] at htrace
      exact h before c body mid htrace

/-- **The invariant**: who is established on the secure port has been acknowledged. -/
structure Holds (w : World) : Prop where
  sound : Sound w
  gated : Gated w.trace
  acked : ∀ remote c, (w.connections .secure).get? remote = some c →
    (w.heap c).state = .established → .connectAck c ∈ w.trace

/-- No connection becomes established, and no body is handed over but on an
acknowledged one. -/
theorem Holds.of_grows {w w' : World} (h : Holds w) (hs : Sound w') {K : TraceEntry → Prop}
    (hl : LogGrows K w w')
    (hK : ∀ c body, K (.onPayload .secure c body) → .connectAck c ∈ w.trace)
    (hc : ∀ remote c, (w'.connections .secure).get? remote = some c →
      (w'.heap c).state = .established →
      (w.connections .secure).get? remote = some c ∧ (w.heap c).state = .established) :
    Holds w' where
  sound := hs
  gated := by
    obtain ⟨new, hnew, hall⟩ := hl
    rw [hnew]
    exact h.gated.append fun c body hm => hK c body (hall _ hm)
  acked := by
    intro remote c hm he
    obtain ⟨h1, h2⟩ := hc remote c hm he
    exact hl.mem (h.acked remote c h1 h2)

theorem not_onPayload {K : Prop} {port : Port} {c : ConnId} {body : Bytes}
    (h : TraceEntry.IsSend (.onPayload port c body)) : K := h.elim

theorem not_fromHandler {K : Prop} {port : Port} {c : ConnId} {body : Bytes}
    (h : TraceEntry.FromHandler (.onPayload port c body)) : K := by
  rcases h with (h | ⟨pid, vec0, rows, h⟩) | ⟨gid, reason, roster, h⟩
  · exact h.elim
  · cases h
  · cases h

theorem Holds.quiet {w w' : World} (h : Holds w) (hq : Quiet w w') : Holds w' := by
  refine h.of_grows (h.sound.quiet hq) hq.sends (fun _ _ => not_onPayload) ?_
  intro remote c hm he
  rw [hq.connections] at hm
  exact ⟨hm, (congrArg Connection.state (hq.core c) :) ▸ he⟩

theorem Holds.received {w w' : World} (h : Holds w) (hr : Received w w') : Holds w' := by
  refine h.of_grows (h.sound.received hr) hr.sends (fun _ _ => not_onPayload) ?_
  intro remote c hm he
  rw [hr.connections] at hm
  exact ⟨hm, (hr.state c) ▸ he⟩

theorem Holds.evicted {w : World} (h : Holds w) (port : Port) (remote : Remote) :
    Holds (w.evicted port remote) := by
  have hl : LogGrows (fun e => e = .closeHooks port remote) w (w.evicted port remote) :=
    ⟨[_], rfl, by simp⟩
  refine h.of_grows (h.sound.evicted port remote) hl (fun _ _ he => by cases he) ?_
  intro remote' c hm he
  exact ⟨World.of_get?_evicted hm, he⟩

theorem Holds.synReceived {w : World} (h : Holds w) (port : Port) (remote : Remote) :
    Holds (w.synReceived env port remote) := by
  refine h.of_grows (h.sound.synReceived env port remote) (.refl (fun _ => False) w)
    (fun _ _ he => he.elim) ?_
  intro remote' c hm he
  have hne : c ≠ w.nextConn := by
    rintro rfl
    simp [World.synReceived] at he
  simp only [World.synReceived, Function.update_of_ne hne] at he
  rcases World.of_get?_synReceived hm with ⟨-, -, hc⟩ | hm
  · exact absurd hc hne
  · exact ⟨hm, he⟩

/-- One connection object changes; if it is established after it, it is on the other
port or has been acknowledged. -/
theorem Holds.withConn {w : World} (h : Holds w) (c : ConnId) (conn : Connection)
    (hs : conn.localPort = (w.heap c).localPort ∧ conn.remote = (w.heap c).remote)
    (hc : conn.state = .established → conn.localPort = .secure → .connectAck c ∈ w.trace) :
    Holds (w.withConn c conn) := by
  have hs' := h.sound.withConn c conn hs
  refine ⟨hs', h.gated, ?_⟩
  intro remote c' hm he
  rw [World.heap_withConn] at he
  split at he
  · next heq =>
    subst heq
    refine hc he ?_
    rw [hs.1]
    exact (h.sound.home .secure remote c' hm).1
  · exact h.acked remote c' hm he

theorem Holds.logged {w : World} (h : Holds w) (e : TraceEntry)
    (he : ∀ c body, e = .onPayload .secure c body → .connectAck c ∈ w.trace) :
    Holds (w.logged e) := by
  have hl : LogGrows (fun x => x = e) w (w.logged e) := ⟨[e], rfl, by simp⟩
  exact h.of_grows (h.sound.logged e) hl (fun c body hx => he c body hx.symm)
    fun _ _ hm hst => ⟨hm, hst⟩

/-- **One event.** -/
theorem step_holds (e : Event) {w : World} (hp : Proves env e w) (h : Holds w) :
    Holds (step env e w) := by
  have hdelivered : ∀ {port c body}, bodyOf env w e = some (port, c, body) → ∀ c' body',
      TraceEntry.onPayload port c body = .onPayload .secure c' body' → .connectAck c' ∈ w.trace := by
    intro port c body hb c' body' he
    cases he
    obtain ⟨remote, pkt, -, -, hc, hst, -⟩ := bodyOf_eq_some env hb
    exact h.acked remote c hc hst
  generalize hw' : step env e w = w'
  have hstep := step_cases env e w
  have hsound := step_sound env e h.sound
  rw [hw'] at hstep hsound
  cases hstep with
  | still hb hr => exact h.received hr
  | syn ht hq => exact (h.synReceived env _ _).quiet hq.toQuiet
  | @connect port remote pkt c _ hc hn hq =>
    refine (h.withConn c (w.established c pkt) ⟨rfl, rfl⟩ ?_).quiet hq.toQuiet
    intro _ hport
    have hsec : port = .secure := (h.sound.home port remote c hc.2.1).1.symm.trans hport
    subst hsec
    exact absurd hn (hp remote pkt c rfl hc)
  | @connectAck port remote pkt c sessionKey pid check _ hc hn hq =>
    refine Holds.quiet ?_ hq.toQuiet
    -- the acknowledgment is logged with the connection
    have hl := h.logged (.connectAck c) fun _ _ he => by cases he
    exact hl.withConn c { w.established c pkt with sessionKey := sessionKey, userPid := pid }
      ⟨rfl, rfl⟩ fun _ _ => List.mem_append_right _ List.mem_cons_self
  | unhandled hb hn hr =>
    refine (h.received hr).logged _ ?_
    intro c' body' he
    exact hr.sends.mem (hdelivered hb c' body' he)
  | @request _ port c body req w1 hb hreq hr =>
    have ha := request_answered env h.sound.indexed hr port c body req
    refine h.of_grows hsound ha.log ?_ ?_
    · rintro c' body' ((hcalm | ⟨-, -, -, hcalm | ⟨g, -, -, he⟩⟩) | he)
      · exact not_fromHandler (.inl hcalm)
      · exact not_fromHandler (.inl hcalm)
      · cases he
      · exact hdelivered hb c' body' he.symm
    · intro remote' c' hm he
      rw [ha.connections] at hm
      exact ⟨hm, (congrArg Connection.state (ha.identity c') :) ▸ he⟩
  | strayDisconnect ht hc => exact h.evicted _ _
  | @disconnect port remote pkt c w1 ht hc hr =>
    refine ((h.received hr).withConn c { w1.heap c with state := .closed } ⟨rfl, rfl⟩ ?_).evicted _ _
    intro he
    cases he
  | @reap port timeout =>
    generalize staleRemotes w port timeout = remotes
    clear hw' hsound hdelivered hp
    induction remotes generalizing w with
    | nil => exact h
    | cons remote remotes ih => exact ih (h.evicted port remote)
  | @timer id =>
    have hx := expire_spec env id w
    refine h.of_grows hsound hx.log ?_ ?_
    · rintro c' body' (hcalm | ⟨gid, roster, he⟩)
      · exact not_fromHandler (.inl hcalm)
      · cases he
    · intro remote' c' hm he
      rw [hx.framed.connections] at hm
      exact ⟨hm, (congrArg Connection.state (hx.framed.core c') :) ▸ he⟩

/-- **The gate holds** in every state of a run, from a server nobody is connected to,
whose CONNECTs prove their tickets. -/
theorem gate_holds (w : World) (hs : Sound w) (hc : w.connections .secure = Dict.empty)
    (ht : w.trace = []) (es : List Event) (hp : Guarded (step env) (Proves env) es w) :
    Gated (runs (step env) es w).trace := by
  have hstart : Holds w := by
    refine ⟨hs, by rw [ht]; exact Gated.nil, ?_⟩
    intro remote c hm
    rw [hc] at hm
    cases hm
  exact (runs_invariant (fun e w hp h => step_holds env e hp h) es w hp hstart).gated

/-- A client with a ticket, and its first body. -/
def withTicket : List Event :=
  [.packet .secure (Sample.remote 1) Sample.syn,
   .packet .secure (Sample.remote 1) (Sample.connect Sample.ticketPayload),
   .packet .secure (Sample.remote 1) (Sample.data 1 60 4 [])]

theorem gate_holds_with_ticket :
    Gated (runs (step Sample.env) withTicket (Sample.world [])).trace := by
  refine gate_holds Sample.env _ (Sample.world_sound []) rfl rfl withTicket ⟨?_, ?_, ?_, trivial⟩
  · rintro remote pkt c he ⟨ht, -⟩
    cases he
    cases ht
  · rintro remote pkt c he -
    cases he
    rw [Sample.proven_ticketPayload]
    exact Option.some_ne_none _
  · rintro remote pkt c he ⟨ht, -⟩
    cases he
    cases ht

/-- The same client without a payload in its CONNECT. -/
def withoutTicket : List Event :=
  [.packet .secure (Sample.remote 1) Sample.syn,
   .packet .secure (Sample.remote 1) (Sample.connect []),
   .packet .secure (Sample.remote 1) (Sample.data 1 60 4 [])]

/-- It creates a lobby all the same. -/
theorem not_gated_without_ticket :
    ¬ Gated (runs (step Sample.env) withoutTicket (Sample.world [])).trace := by
  intro h
  have hrun : TraceEntry.onPayload .secure 0 (Sample.body 60 4 []) ∈
        (runs (step Sample.env) withoutTicket (Sample.world [])).trace ∧
      TraceEntry.connectAck 0 ∉ (runs (step Sample.env) withoutTicket (Sample.world [])).trace := by
    decide +kernel
  obtain ⟨before, rest, hsplit⟩ := List.append_of_mem hrun.1
  apply hrun.2
  rw [hsplit]
  exact List.mem_append_left _ (h before 0 _ rest hsplit)

end Gate
end Ghostbusters
