import GhostbustersServer.Effects.Refinement

/-!
# What an event does to sessions

    step_sessions    Sessions env w e (step env e w)

Whatever an event delivers, at most one connection object changes in a way that matters
to its session: it is opened by a SYN, established by a CONNECT or closed by a
DISCONNECT.
-/

namespace Ghostbusters

open Py Act PRUDPServer

section
variable {conn conn' : Connection} (h : conn'.identity = conn.identity)
include h

theorem localPort_of_identity : conn'.localPort = conn.localPort :=
  (congrArg Connection.localPort h :)

theorem state_of_identity : conn'.state = conn.state := (congrArg Connection.state h :)

theorem userPid_of_identity : conn'.userPid = conn.userPid := (congrArg Connection.userPid h :)

end

/-- The connections whose connect-ack handler has returned. -/
def World.Acknowledged (w : World) (c : ConnId) : Prop := .connectAck c ∈ w.trace

/-- The tables lose entries at most. -/
def Fewer (w w' : World) : Prop :=
  ∀ port remote c, (w'.connections port).get? remote = some c →
    (w.connections port).get? remote = some c

/-- All sessions but that of `c` are as they were. -/
def OthersSame (c : ConnId) (w w' : World) : Prop :=
  ∀ k ≠ c, (w'.heap k).identity = (w.heap k).identity

variable (env : Env)

inductive Sessions (w : World) : Event → World → Prop where
  | same {e w'} : w'.nextConn = w.nextConn →
      (∀ k, (w'.heap k).identity = (w.heap k).identity) → Fewer w w' →
      (∀ k, w'.Acknowledged k ↔ w.Acknowledged k) → Sessions w e w'
  | opened {port remote pkt w'} : pkt.type = .syn → w'.nextConn = w.nextConn + 1 →
      OthersSame w.nextConn w w' →
      (w'.heap w.nextConn).identity = ((w.synReceived env port remote).heap w.nextConn).identity →
      w'.connections = (w.synReceived env port remote).connections →
      (∀ k, w'.Acknowledged k ↔ w.Acknowledged k) → Sessions w (.packet port remote pkt) w'
  | established {port remote pkt c w'} : Connects w port remote pkt c → proven env port pkt = none →
      w'.nextConn = w.nextConn → OthersSame c w w' →
      (w'.heap c).identity = (w.established c pkt).identity → w'.connections = w.connections →
      (∀ k, w'.Acknowledged k ↔ w.Acknowledged k) → Sessions w (.packet port remote pkt) w'
  | proved {port remote pkt c sessionKey pid check w'} : Connects w port remote pkt c →
      proven env port pkt = some (sessionKey, pid, check) → w'.nextConn = w.nextConn →
      OthersSame c w w' →
      (w'.heap c).identity =
        { w.established c pkt with sessionKey := sessionKey, userPid := pid }.identity →
      w'.connections = w.connections →
      (∀ k, w'.Acknowledged k ↔ w.Acknowledged k ∨ k = c) → Sessions w (.packet port remote pkt) w'
  | closed {port remote pkt c w'} : pkt.type = .disconnect →
      (w.connections port).get? remote = some c → w'.nextConn = w.nextConn → OthersSame c w w' →
      (w'.heap c).identity = { w.heap c with state := .closed }.identity → Fewer w w' →
      (∀ k, w'.Acknowledged k ↔ w.Acknowledged k) → Sessions w (.packet port remote pkt) w'

/-! ## Every event -/

theorem acknowledged_iff_of_grows {K : TraceEntry → Prop} {w w' : World} (h : LogGrows K w w')
    (hK : ∀ k, ¬ K (.connectAck k)) (k : ConnId) : w'.Acknowledged k ↔ w.Acknowledged k :=
  ⟨fun hm => h.of_mem hm (hK k), h.mem⟩

theorem Quiet.acknowledged {w w' : World} (h : Quiet w w') (k : ConnId) :
    w'.Acknowledged k ↔ w.Acknowledged k :=
  acknowledged_iff_of_grows h.sends (fun _ => id) k

theorem Quiet.identity {w w' : World} (h : Quiet w w') (k : ConnId) :
    (w'.heap k).identity = (w.heap k).identity := congrArg Connection.session (h.core k)

theorem Received.identity {w w' : World} (h : Received w w') (k : ConnId) :
    (w'.heap k).identity = (w.heap k).identity := congrArg Connection.core (h.session k)

theorem Received.acknowledged {w w' : World} (h : Received w w') (k : ConnId) :
    w'.Acknowledged k ↔ w.Acknowledged k :=
  acknowledged_iff_of_grows h.sends (fun _ => id) k

theorem acknowledged_logged {w : World} {e : TraceEntry} (he : ∀ k, e ≠ .connectAck k) (k : ConnId) :
    (w.logged e).Acknowledged k ↔ w.Acknowledged k :=
  acknowledged_iff_of_grows (K := fun x => x = e) ⟨[e], rfl, by simp⟩ (fun k h => he k h.symm) k

theorem othersSame_withConn (w : World) (c : ConnId) (conn : Connection) :
    OthersSame c w (w.withConn c conn) := by
  intro k hk
  rw [World.heap_withConn, if_neg hk]

theorem fewer_evicted (w : World) (port : Port) (remote : Remote) :
    Fewer w (w.evicted port remote) := fun _ _ _ h => World.of_get?_evicted h

/-- The reaper takes entries out of a table, and nothing else. -/
theorem foldl_evicted_sessions (port : Port) (remotes : List Remote) (w : World) :
    let w' := remotes.foldl (fun w remote => w.evicted port remote) w
    w'.nextConn = w.nextConn ∧ w'.heap = w.heap ∧ Fewer w w' ∧
      ∀ k, w'.Acknowledged k ↔ w.Acknowledged k := by
  induction remotes generalizing w with
  | nil => exact ⟨rfl, rfl, fun _ _ _ h => h, fun _ => Iff.rfl⟩
  | cons remote remotes ih =>
    obtain ⟨h1, h2, h3, h4⟩ := ih (w.evicted port remote)
    refine ⟨h1, h2, fun p r c h => fewer_evicted w port remote p r c (h3 p r c h), fun k => ?_⟩
    exact (h4 k).trans (acknowledged_logged (w := w) (e := .closeHooks port remote) (by simp) k)

theorem step_sessions (e : Event) {w : World} (hw : w.lobby.registry.WellIndexed) :
    Sessions env w e (step env e w) := by
  generalize hw' : step env e w = w'
  have hstep := step_cases env e w
  rw [hw'] at hstep
  cases hstep with
  | still hb hr =>
    exact .same hr.nextConn hr.identity (fun _ _ _ h => by rwa [hr.connections] at h)
      hr.acknowledged
  | @syn port remote pkt _ ht hq =>
    have hq := hq.toQuiet
    refine .opened ht hq.nextConn ?_ (hq.identity _) hq.connections hq.acknowledged
    intro k hk
    rw [hq.identity k]
    simp only [World.synReceived, Function.update_of_ne hk]
  | @connect port remote pkt c _ hc hn hq =>
    have hq := hq.toQuiet
    refine .established hc hn hq.nextConn ?_ ?_ hq.connections hq.acknowledged
    · intro k hk
      rw [hq.identity k]
      exact othersSame_withConn w c _ k hk
    · rw [hq.identity c, World.heap_withConn, if_pos rfl]
  | @connectAck port remote pkt c sessionKey pid check _ hc hn hq =>
    have hq := hq.toQuiet
    refine .proved hc hn hq.nextConn ?_ ?_ hq.connections ?_
    · intro k hk
      rw [hq.identity k]
      exact othersSame_withConn w c _ k hk
    · rw [hq.identity c]
      show (((w.withConn c _).heap c)).identity = _
      rw [World.heap_withConn, if_pos rfl]
    · intro k
      rw [hq.acknowledged k]
      show _ ∈ w.trace ++ [TraceEntry.connectAck c] ↔ _
      simp [World.Acknowledged]
  | unhandled hb hn hr =>
    refine .same hr.nextConn hr.identity (fun _ _ _ h => ?_) fun k => ?_
    · have hc := hr.connections
      exact hc ▸ h
    · exact (acknowledged_logged (by simp) k).trans (hr.acknowledged k)
  | @request _ port c body req w1 hb hreq hr =>
    have ha := request_answered env hw hr port c body req
    refine .same ha.nextConn ha.identity (fun _ _ _ h => by rwa [ha.connections] at h) ?_
    refine acknowledged_iff_of_grows ha.log fun k => ?_
    rintro ((hcalm | ⟨-, -, -, hcalm | ⟨g, -, -, he⟩⟩) | he)
    · rcases hcalm with hsend | ⟨pid, vec0, rows, he⟩
      · exact hsend
      · cases he
    · rcases hcalm with hsend | ⟨pid, vec0, rows, he⟩
      · exact hsend
      · cases he
    · cases he
    · cases he
  | strayDisconnect ht hc =>
    exact .same rfl (fun _ => rfl) (fewer_evicted w _ _) (acknowledged_logged (by simp))
  | @disconnect port remote pkt c w1 ht hc hr =>
    refine .closed ht hc hr.nextConn ?_ ?_ ?_ fun k => ?_
    · intro k hk
      refine Eq.trans ?_ (hr.identity k)
      exact othersSame_withConn w1 c _ k hk
    · show ((w1.withConn c _).heap c).identity = _
      rw [World.heap_withConn, if_pos rfl]
      exact congrArg (fun conn : Connection => { conn with state := .closed }) (hr.identity c)
    · intro p r k h
      have hold := World.of_get?_evicted h
      exact hr.connections ▸ hold
    · refine Iff.trans ?_ (hr.acknowledged k)
      exact acknowledged_logged (w := w1.withConn c _) (by simp) k
  | @reap port timeout =>
    obtain ⟨h1, h2, h3, h4⟩ := foldl_evicted_sessions port (staleRemotes w port timeout) w
    exact .same h1 (fun k => by rw [h2]) h3 h4
  | @timer id =>
    have hx := expire_spec env id w
    refine .same hx.framed.nextConn (fun k => congrArg Connection.session (hx.framed.core k))
      (fun _ _ _ h => by rwa [hx.framed.connections] at h) ?_
    refine acknowledged_iff_of_grows hx.log fun k => ?_
    rintro ((hsend | ⟨pid, vec0, rows, he⟩) | ⟨gid, roster, he⟩)
    · exact hsend
    · cases he
    · cases he

end Ghostbusters
