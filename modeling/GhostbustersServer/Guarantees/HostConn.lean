import GhostbustersServer.Guarantees.Sample

/-!
# A lobby and its host's connection

The close hooks run wherever a table entry is removed; a SYN replaces an entry and
runs none.

    Hosted w      the table leads from the owner's remote of each lobby to its host
    a run keeps it in every state exactly when no host of a live lobby starts again
    with a SYN                                                        (hosted_iff)
-/

namespace Ghostbusters

open Py PRUDPServer

namespace HostConn

variable (env : Env)

/-- A lobby whose host is connected to the secure port has that very connection in the
table of the port. -/
def Hosted (w : World) : Prop :=
  ∀ gid g, w.lobby.get gid = some g → ∃ c, g.hostConn = some c ∧
    ((w.heap c).localPort = .secure → (w.connections .secure).get? g.ownerRemote = some c)

/-- No SYN reaches the secure port from where the host of a live lobby is connected. -/
def NoRestart (e : Event) (w : World) : Prop :=
  ∀ remote pkt, e = .packet .secure remote pkt → pkt.type = .syn →
    ∀ gid g c, w.lobby.get gid = some g → g.hostConn = some c →
      (w.heap c).localPort = .secure → g.ownerRemote ≠ remote

/-- The invariant of a run; the hosts are connections there have been. -/
structure Inv (w : World) : Prop where
  sound : Sound w
  known : ∀ gid g c, w.lobby.get gid = some g → g.hostConn = some c → c < w.nextConn
  hosted : Hosted w

/-- Nothing changes in the table of the secure port or in who hosts the lobbies. -/
theorem Inv.of_same {w w' : World} (h : Inv w) (hs : Sound w') (hn : w.nextConn ≤ w'.nextConn)
    (hc : w'.connections .secure = w.connections .secure)
    (hp : ∀ c < w.nextConn, (w'.heap c).localPort = (w.heap c).localPort)
    (hl : ∀ gid g', w'.lobby.get gid = some g' →
      ∃ g, w.lobby.get gid = some g ∧ g'.origin = g.origin) : Inv w' := by
  have hback : ∀ gid g', w'.lobby.get gid = some g' → ∃ g, w.lobby.get gid = some g ∧
      g'.hostConn = g.hostConn ∧ g'.ownerRemote = g.ownerRemote := by
    intro gid g' hg'
    obtain ⟨g, hg, ho⟩ := hl gid g' hg'
    exact ⟨g, hg, (congrArg Gathering.hostConn ho :), (congrArg Gathering.ownerRemote ho :)⟩
  refine ⟨hs, ?_, ?_⟩
  · intro gid g' c hg' hh
    obtain ⟨g, hg, he, -⟩ := hback gid g' hg'
    exact (h.known gid g c hg (he ▸ hh)).trans_le hn
  · intro gid g' hg'
    obtain ⟨g, hg, he, hr⟩ := hback gid g' hg'
    obtain ⟨c, hh, hconn⟩ := h.hosted gid g hg
    refine ⟨c, he.trans hh, ?_⟩
    rw [hp c (h.known gid g c hg hh), hc, hr]
    exact hconn

theorem Inv.quiet {w w' : World} (h : Inv w) (hq : Quiet w w') : Inv w' :=
  h.of_same (h.sound.quiet hq) (Nat.le_of_eq hq.nextConn.symm) (by rw [hq.connections])
    (fun c _ => (congrArg Connection.localPort (hq.core c) :))
    (by rw [hq.lobby]; exact fun gid g hg => ⟨g, hg, rfl⟩)

theorem Inv.received {w w' : World} (h : Inv w) (hr : Received w w') : Inv w' :=
  h.of_same (h.sound.received hr) (Nat.le_of_eq hr.nextConn.symm) (by rw [hr.connections])
    (fun c _ => hr.localPort c) (by rw [hr.lobby]; exact fun gid g hg => ⟨g, hg, rfl⟩)

theorem Inv.withConn {w : World} (h : Inv w) (c : ConnId) (conn : Connection)
    (hc : conn.localPort = (w.heap c).localPort ∧ conn.remote = (w.heap c).remote) :
    Inv (w.withConn c conn) := by
  refine h.of_same (h.sound.withConn c conn hc) (Nat.le_refl _) rfl ?_ fun gid g hg => ⟨g, hg, rfl⟩
  intro k _
  rw [World.heap_withConn]
  split
  · next hk => rw [hk]; exact hc.1
  · rfl

theorem Inv.logged {w : World} (h : Inv w) (e : TraceEntry) : Inv (w.logged e) :=
  h.of_same (h.sound.logged e) (Nat.le_refl _) rfl (fun _ _ => rfl) fun _ g hg => ⟨g, hg, rfl⟩

/-- An entry goes with the lobbies of its remote. -/
theorem Inv.evicted {w : World} (h : Inv w) (port : Port) (remote : Remote) :
    Inv (w.evicted port remote) := by
  have hback : ∀ gid g', (w.evicted port remote).lobby.get gid = some g' →
      ∃ g, w.lobby.get gid = some g ∧ g.ownerRemote ≠ remote ∧ g'.hostConn = g.hostConn ∧
        g'.ownerRemote = g.ownerRemote := by
    intro gid g' hg'
    obtain ⟨g, hg, hne, rfl⟩ := (Lobby.get_closeRemote h.sound.indexed remote gid g').mp hg'
    exact ⟨g, hg, hne, rfl, rfl⟩
  refine ⟨h.sound.evicted port remote, ?_, ?_⟩
  · intro gid g' c hg' hh
    obtain ⟨g, hg, -, he, -⟩ := hback gid g' hg'
    exact h.known gid g c hg (he ▸ hh)
  · intro gid g' hg'
    obtain ⟨g, hg, hne, he, hr⟩ := hback gid g' hg'
    obtain ⟨c, hh, hconn⟩ := h.hosted gid g hg
    refine ⟨c, he.trans hh, ?_⟩
    intro hport
    rw [hr]
    simp only [World.evicted, Function.update_apply]
    split
    · next hp =>
      rw [Dict.get?_erase, if_neg hne, ← hp]
      exact hconn hport
    · exact hconn hport

theorem Inv.synReceived {w : World} (h : Inv w) (port : Port) (remote : Remote)
    (hn : port = .secure → ∀ gid g c, w.lobby.get gid = some g → g.hostConn = some c →
      (w.heap c).localPort = .secure → g.ownerRemote ≠ remote) :
    Inv (w.synReceived env port remote) := by
  have hheap : ∀ c < w.nextConn, (w.synReceived env port remote).heap c = w.heap c := by
    intro c hc
    simp only [World.synReceived, Function.update_of_ne (Nat.ne_of_lt hc)]
  refine ⟨h.sound.synReceived env port remote, ?_, ?_⟩
  · intro gid g c hg hh
    exact Nat.lt_succ_of_lt (h.known gid g c hg hh)
  · intro gid g hg
    obtain ⟨c, hh, hconn⟩ := h.hosted gid g hg
    refine ⟨c, hh, ?_⟩
    rw [hheap c (h.known gid g c hg hh)]
    intro hport
    simp only [World.synReceived, Function.update_apply]
    split
    · next hp =>
      rw [Dict.get?_set, if_neg (hn hp.symm gid g c hg hh hport), ← hp]
      exact hconn hport
    · exact hconn hport

/-- A request; a new lobby is hosted by the connection it came in on. -/
theorem Inv.request {w w' : World} (h : Inv w) (hs : Sound w') {e : Event} {port : Port} {c : ConnId}
    {body : Bytes} {req : Request} (hb : bodyOf env w e = some (port, c, body))
    (ha : Answered env w port c body req w') : Inv w' := by
  obtain ⟨remote, pkt, -, -, hc, -⟩ := bodyOf_eq_some env hb
  obtain ⟨op, hp, hop⟩ := ha.lobby
  have hheap : ∀ k, (w'.heap k).localPort = (w.heap k).localPort := fun k =>
    (congrArg Connection.localPort (ha.identity k) :)
  have hcases : ∀ gid g', w'.lobby.get gid = some g' →
      (∃ g, w.lobby.get gid = some g ∧ g'.hostConn = g.hostConn ∧
        g'.ownerRemote = g.ownerRemote) ∨ (g'.hostConn = some c ∧ g'.ownerRemote = remote) := by
    intro gid g' hg'
    rw [hop] at hg'
    rcases op.origin_back h.sound.indexed hg' with ⟨g, hg, ho⟩ | ⟨pid, r, raw, k, hop', -, hnew⟩
    · exact .inl ⟨g, hg, (congrArg Gathering.hostConn ho :), (congrArg Gathering.ownerRemote ho :)⟩
    · subst hop'
      cases hp
      right
      rw [hnew]
      exact ⟨rfl, (h.sound.home port remote c hc).2⟩
  refine ⟨hs, ?_, ?_⟩
  · intro gid g' k hg' hh
    rw [ha.nextConn]
    rcases hcases gid g' hg' with ⟨g, hg, he, -⟩ | ⟨he, -⟩
    · exact h.known gid g k hg (he ▸ hh)
    · cases he.symm.trans hh
      exact h.sound.lt port remote c hc
  · intro gid g' hg'
    rw [ha.connections]
    rcases hcases gid g' hg' with ⟨g, hg, he, hr⟩ | ⟨he, hr⟩
    · obtain ⟨k, hh, hconn⟩ := h.hosted gid g hg
      refine ⟨k, he.trans hh, ?_⟩
      rw [hheap, hr]
      exact hconn
    · refine ⟨c, he, ?_⟩
      rw [hheap, hr]
      intro hport
      have hsec : port = .secure := (h.sound.home port remote c hc).1.symm.trans hport
      rw [← hsec]
      exact hc

/-- **One event.** -/
theorem step_inv (e : Event) {w : World} (hn : NoRestart e w) (h : Inv w) : Inv (step env e w) := by
  generalize hw' : step env e w = w'
  have hstep := step_cases env e w
  have hsound := step_sound env e h.sound
  rw [hw'] at hstep hsound
  cases hstep with
  | still hb hr => exact h.received hr
  | @syn port remote pkt _ ht hq =>
    refine (h.synReceived env port remote ?_).quiet hq.toQuiet
    rintro rfl
    exact hn remote pkt rfl ht
  | @connect port remote pkt c _ hc hp hq =>
    exact (h.withConn c (w.established c pkt) ⟨rfl, rfl⟩).quiet hq.toQuiet
  | @connectAck port remote pkt c sessionKey pid check _ hc hp hq =>
    have h1 := h.withConn c { w.established c pkt with sessionKey := sessionKey, userPid := pid }
      ⟨rfl, rfl⟩
    exact (h1.logged _).quiet hq.toQuiet
  | unhandled hb hr' hr => exact (h.received hr).logged _
  | @request _ port c body req w1 hb hreq hr =>
    exact h.request env hsound hb (request_answered env h.sound.indexed hr port c body req)
  | strayDisconnect ht hc => exact h.evicted _ _
  | @disconnect port remote pkt c w1 ht hc hr =>
    have h1 := (h.received hr).withConn c { w1.heap c with state := .closed } ⟨rfl, rfl⟩
    exact h1.evicted port remote
  | @reap port timeout =>
    generalize staleRemotes w port timeout = remotes
    clear hw' hsound hn
    induction remotes generalizing w with
    | nil => exact h
    | cons remote remotes ih => exact ih (h.evicted port remote)
  | @timer id =>
    have hx := expire_spec env id w
    obtain ⟨clear, hl, -⟩ := hx.lobby
    refine h.of_same hsound (Nat.le_of_eq hx.framed.nextConn.symm) (by rw [hx.framed.connections])
      (fun c _ => (congrArg Connection.localPort (hx.framed.core c) :)) ?_
    intro gid g' hg'
    rw [hl] at hg'
    rcases (LobbyOp.expire id clear).origin_back h.sound.indexed hg' with hback | ⟨_, _, _, _, he, -⟩
    · exact hback
    · cases he

/-- **The SYN that breaks it.** -/
theorem not_hosted_of_restart (e : Event) {w : World} (h : Inv w) (hn : ¬ NoRestart e w) :
    ¬ Hosted (step env e w) := by
  unfold NoRestart at hn
  push Not at hn
  obtain ⟨remote, pkt, rfl, ht, gid, g, c, hg, hh, hport, hr⟩ := hn
  have hlt := h.known gid g c hg hh
  have hq : Quiet (w.synReceived env .secure remote) (step env (.packet .secure remote pkt) w) := by
    have := handleSyn_spec env .secure remote w
    unfold step handleEvent handle Act.after
    rw [Act.run_get_bind]
    dsimp only
    rw [ht]
    exact this.toQuiet
  have hport' : ((step env (.packet .secure remote pkt) w).heap c).localPort = .secure := by
    have hsame := congrArg Connection.localPort (hq.core c)
    refine Eq.trans hsame ?_
    show ((w.synReceived env .secure remote).heap c).localPort = .secure
    simp only [World.synReceived, Function.update_of_ne (Nat.ne_of_lt hlt)]
    exact hport
  intro hosted
  rw [Hosted, hq.lobby, hq.connections] at hosted
  obtain ⟨c', hh', hconn⟩ := hosted gid g hg
  cases hh.symm.trans hh'
  -- the table leads to the new connection
  have hnew : ((w.synReceived env .secure remote).connections .secure).get? g.ownerRemote =
      some w.nextConn := by
    simp [World.synReceived, hr]
  rw [hnew] at hconn
  exact Nat.lt_irrefl _ ((Option.some.inj (hconn hport')) ▸ hlt)

/-- **No lobby outlives its host's connection exactly as long as no host starts again.**
Over every run from a server without lobbies. -/
theorem hosted_throughout_iff (w : World) (hs : Sound w) (hl : w.lobby = Lobby.empty)
    (es : List Event) :
    (∀ n, Hosted (runs (step env) (es.take n) w)) ↔ Guarded (step env) NoRestart es w := by
  have hnone : ∀ gid g, w.lobby.get gid ≠ some g := by
    intro gid g hg
    rw [hl] at hg
    cases hg
  have hstart : Inv w := ⟨hs, fun gid g _ hg => absurd hg (hnone gid g),
    fun gid g hg => absurd hg (hnone gid g)⟩
  exact throughout_iff_guarded (fun _ h => h.hosted) (fun e _ h hn => step_inv env e hn h)
    (fun e _ h hn => not_hosted_of_restart env e h hn) es w hstart

/-- A host creates a lobby and starts again from the same address and port. -/
def restart : List Event :=
  [.packet .secure (Sample.remote 1) (Sample.data 1 60 4 []),
   .packet .secure (Sample.remote 1) Sample.syn]

theorem hosted_throughout_iff_restart :
    (∀ n, Hosted (runs (step Sample.env) (restart.take n)
        (Sample.world [Sample.connection .secure 1 10000]))) ↔
      Guarded (step Sample.env) NoRestart restart (Sample.world [Sample.connection .secure 1 10000]) :=
  hosted_throughout_iff Sample.env _ (Sample.world_sound _) rfl restart

/-- Its lobby stays, and its owner's remote leads to another connection. -/
theorem not_hosted_after_restart :
    ¬ Hosted (runs (step Sample.env) restart (Sample.world [Sample.connection .secure 1 10000])) := by
  intro h
  have hrun : ((runs (step Sample.env) restart
        (Sample.world [Sample.connection .secure 1 10000])).lobby.get 10000).map
          (fun g => (g.hostConn, g.ownerRemote)) = some (some 0, Sample.remote 1) ∧
      ((runs (step Sample.env) restart
        (Sample.world [Sample.connection .secure 1 10000])).heap 0).localPort = .secure ∧
      ((runs (step Sample.env) restart
        (Sample.world [Sample.connection .secure 1 10000])).connections .secure).get?
          (Sample.remote 1) = some 1 := by
    decide +kernel
  obtain ⟨g, hg, he⟩ := Option.map_eq_some_iff.mp hrun.1
  rw [Prod.mk.injEq] at he
  obtain ⟨c, hh, hconn⟩ := h 10000 g hg
  cases he.1.symm.trans hh
  rw [he.2] at hconn
  cases (hconn hrun.2.1).symm.trans hrun.2.2

end HostConn
end Ghostbusters
