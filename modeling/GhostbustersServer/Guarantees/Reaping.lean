import GhostbustersServer.Effects.Refinement

/-!
# The idle reaper

    evicts w port timeout remote    the connection at `remote` is idle for longer than the timeout
    Reaped                          what `reap_idle` does: the table, the lobbies, the index, the rest
    reap_exact                      after every run, at every time and for every timeout
-/

namespace Ghostbusters

open Py PRUDPServer

variable (env : Env)

namespace Reaping

def idle (w : World) (c : ConnId) : Nat := w.now - (w.heap c).lastActivity

def evicts (w : World) (port : Port) (timeout : Nat) (remote : Remote) : Bool :=
  ((w.connections port).get? remote).any fun c => timeout < idle w c

/-- A lobby without the players at evicted remotes. -/
def reseat (w : World) (port : Port) (timeout : Nat) (g : Gathering) : Gathering :=
  { g with participants := g.participants.filter fun p => !evicts w port timeout p.remote }

structure Reaped (port : Port) (timeout : Nat) (w w' : World) : Prop where
  table : ∀ remote c, (w'.connections port).get? remote = some c ↔
    (w.connections port).get? remote = some c ∧ idle w c ≤ timeout
  gone : ∀ remote, evicts w port timeout remote → ∀ g ∈ w'.lobby.registry.allGatherings,
    g.ownerRemote ≠ remote ∧ ∀ p ∈ g.participants, p.remote ≠ remote
  /-- the lobbies of the other hosts, and no others -/
  lobbies : ∀ gid g', w'.lobby.get gid = some g' ↔
    ∃ g, w.lobby.get gid = some g ∧ ¬ evicts w port timeout g.ownerRemote ∧
      g' = reseat w port timeout g
  index : ∀ pid gid, w'.lobby.registry.ownerPidToId.get? pid = some gid ↔
    w'.lobby.registry.ownerOf gid = some pid
  others : ∀ p, p ≠ port → w'.connections p = w.connections p
  rest : w' = { w with
    connections := w'.connections
    lobby := { w.lobby with registry := w'.lobby.registry }
    trace := w.trace ++ (staleRemotes w port timeout).map (.closeHooks port) }

/-! ## The stale connections -/

theorem evicts_iff (w : World) (port : Port) (timeout : Nat) (remote : Remote) :
    evicts w port timeout remote ↔
      ∃ c, (w.connections port).get? remote = some c ∧ timeout < idle w c := by
  unfold evicts
  rw [Option.any_eq_true]
  simp only [decide_eq_true_eq]

/-- A connection is in the table under its own remote. -/
theorem mem_staleRemotes {w : World} (hw : Sound w) (port : Port) (timeout : Nat) (remote : Remote) :
    remote ∈ staleRemotes w port timeout ↔ evicts w port timeout remote := by
  rw [evicts_iff]
  unfold staleRemotes
  simp only [List.mem_map, List.mem_filter, Dict.mem_values_iff, decide_eq_true_eq]
  constructor
  · rintro ⟨c, ⟨⟨r, hc⟩, hidle⟩, rfl⟩
    rw [(hw.home port r c hc).2]
    exact ⟨c, hc, hidle⟩
  · rintro ⟨c, hc, hidle⟩
    exact ⟨c, ⟨⟨remote, hc⟩, hidle⟩, (hw.home port remote c hc).2⟩

/-! ## One eviction after the other -/

theorem connections_foldl_evicted (port : Port) (remotes : List Remote) (w : World) :
    (∀ remote, ((remotes.foldl (fun w remote => w.evicted port remote) w).connections port).get? remote =
      if remote ∈ remotes then none else (w.connections port).get? remote) ∧
    ∀ p, p ≠ port →
      (remotes.foldl (fun w remote => w.evicted port remote) w).connections p = w.connections p := by
  induction remotes generalizing w with
  | nil => exact ⟨fun _ => rfl, fun _ _ => rfl⟩
  | cons r remotes ih =>
    obtain ⟨hport, hother⟩ := ih (w.evicted port r)
    refine ⟨fun remote => ?_, fun p hp => ?_⟩
    · rw [List.foldl_cons, hport remote]
      unfold World.evicted
      simp only [Function.update_self, Dict.get?_erase, List.mem_cons]
      by_cases hr : remote = r
      · simp [hr]
      · simp [hr]
    · rw [List.foldl_cons, hother p hp]
      exact Function.update_of_ne hp _ _

theorem foldl_evicted_rest (port : Port) (remotes : List Remote) (w : World) :
    remotes.foldl (fun w remote => w.evicted port remote) w =
      { w with
        connections := (remotes.foldl (fun w remote => w.evicted port remote) w).connections
        lobby := { w.lobby with
          registry := (remotes.foldl (fun w remote => w.evicted port remote) w).lobby.registry }
        trace := w.trace ++ remotes.map (.closeHooks port) } := by
  induction remotes generalizing w with
  | nil => simp
  | cons r remotes ih =>
    rw [List.foldl_cons]
    conv_lhs => rw [ih (w.evicted port r)]
    simp [World.evicted, Lobby.closeRemote, Lobby.mapRegistry]

end Reaping

open Reaping

/-- A visit of the reaper. -/
theorem Sound.reap {w : World} (hw : Sound w) (port : Port) (timeout : Nat) :
    Reaped port timeout w (step env (.reap port timeout) w) := by
  have hstep : step env (.reap port timeout) w =
      (staleRemotes w port timeout).foldl (fun w remote => w.evicted port remote) w :=
    reapIdle_spec port timeout w
  have hstale := mem_staleRemotes hw port timeout
  have hlobbies : ∀ gid g', (step env (.reap port timeout) w).lobby.get gid = some g' ↔
      ∃ g, w.lobby.get gid = some g ∧ ¬ evicts w port timeout g.ownerRemote ∧
        g' = reseat w port timeout g := by
    intro gid g'
    rw [hstep, lobby_foldl_evicted, Lobby.get_gone hw.indexed]
    simp only [hstale, reseat, Bool.decide_eq_true, decide_not]
  refine ⟨fun remote c => ?_, fun remote he g hg => ?_, hlobbies, (step_indexed env _ hw.indexed).index,
    ?_, ?_⟩
  · rw [hstep, (connections_foldl_evicted port _ w).1 remote]
    simp only [hstale, evicts_iff]
    split
    · next h =>
      obtain ⟨c', hc', hidle⟩ := h
      refine iff_of_false (fun h => Option.some_ne_none c h.symm) ?_
      rintro ⟨hc, hle⟩
      rw [hc'] at hc
      cases hc
      omega
    · next h =>
      refine (and_iff_left_of_imp fun hc => ?_).symm
      by_contra hle
      exact h ⟨c, hc, Nat.not_le.mp hle⟩
  · obtain ⟨gid, hg⟩ := (GatheringRegistry.mem_allGatherings_iff _ g).mp hg
    obtain ⟨g0, -, howner, rfl⟩ := (hlobbies gid g).mp hg
    refine ⟨fun h => howner (h ▸ he), fun p hp h => ?_⟩
    have hout := (List.mem_filter.mp hp).2
    rw [h, he] at hout
    cases hout
  · rw [hstep]
    exact (connections_foldl_evicted port _ w).2
  · rw [hstep]
    exact foldl_evicted_rest port _ w

theorem World.initial_sound : Sound World.initial where
  lt := fun _ _ _ h => nomatch h
  home := fun _ _ _ h => nomatch h
  indexed := GatheringRegistry.WellIndexed.empty

/-- **Reaping is complete and touches nothing else**, after every run. -/
theorem reap_exact (es : List Event) (port : Port) (timeout : Nat) :
    Reaped port timeout (runs (step env) es World.initial)
      (step env (.reap port timeout) (runs (step env) es World.initial)) :=
  Sound.reap env (runs_preserves (fun e _ h => step_sound env e h) es _ World.initial_sound) port timeout

end Ghostbusters
