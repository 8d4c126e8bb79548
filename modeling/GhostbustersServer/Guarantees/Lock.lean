import GhostbustersServer.Effects.Moves
import GhostbustersServer.Guarantees.Sample

/-!
# The lock of a lobby

CloseParticipation locks a lobby.  A locked lobby is in no browse list, but JoinGathering
does not look at the lock: whoever has a list from before still gets in.

    Within gid roster w        the players of the lobby are among those of the roster
    locked_iff                 until it is unlocked, a lobby stays within the roster of the
                               lock exactly when no join by anyone else is let in
-/

namespace Ghostbusters

open Py PRUDPServer

namespace Lock

variable (env : Env)

/-- The event is a request to one method of protocol 60 about lobby `gid`. -/
def Asks (method gid : Nat) (e : Event) (w : World) : Prop :=
  ∃ r ∈ requestOf env w e, r.2.2.proto = 60 ∧ r.2.2.method = method ∧ leadingGid r.2.2 = gid

/-- A CloseParticipation that sets the flag of the lobby. -/
structure Locks (gid : Nat) (g : Gathering) (e : Event) (w : World) : Prop where
  asks : Asks env 19 gid e w
  named : gid ≠ 0
  live : w.lobby.get gid = some g
  unlocked : g.closed = false

def NoReopen (gid : Nat) (e : Event) (w : World) : Prop := ¬ Asks env 23 gid e w

/-- A join that is let into the lobby is by a player of the roster. -/
def OnlyRoster (gid : Nat) (roster : List Nat) (e : Event) (w : World) : Prop :=
  ∀ r ∈ requestOf env w e, r.2.2.proto = 60 → r.2.2.method = 5 → leadingGid r.2.2 = gid →
    (Game.admitted w (w.heap r.2.1).userPid r.2.2).isSome → (w.heap r.2.1).userPid ∈ roster

instance (gid : Nat) (roster : List Nat) (e : Event) (w : World) :
    Decidable (OnlyRoster env gid roster e w) := by
  unfold OnlyRoster
  infer_instance

/-- The players of the lobby, if it is still there, are among those of the roster. -/
def Within (gid : Nat) (roster : List Nat) (w : World) : Prop :=
  ∀ g ∈ w.lobby.get gid, ∀ pid ∈ g.pids, pid ∈ roster

def Closed (gid : Nat) (w : World) : Prop := ∀ g ∈ w.lobby.get gid, g.closed = true

/-- **The invariant of a locked lobby.**  Its id is not given to another one. -/
structure Locked (gid : Nat) (w : World) : Prop where
  indexed : w.lobby.registry.WellIndexed
  old : gid < w.lobby.registry.gatheringIdSeq
  closed : Closed gid w

/-- A locked lobby that has not grown. -/
structure Kept (gid : Nat) (roster : List Nat) (w : World) : Prop extends Locked gid w where
  within : Within gid roster w

theorem step_old (gid : Nat) (e : Event) {w : World} (hw : w.lobby.registry.WellIndexed)
    (h : gid < w.lobby.registry.gatheringIdSeq) :
    gid < (step env e w).lobby.registry.gatheringIdSeq := by
  obtain ⟨op, -, hop⟩ := step_lobby env e hw
  rw [hop]
  exact Nat.lt_of_lt_of_le h (op.seq_le_apply _)

/-- **The lock holds** in every step but a reopen. -/
theorem step_locked {gid : Nat} {e : Event} {w : World} (hn : NoReopen env gid e w)
    (h : Locked gid w) : Locked gid (step env e w) := by
  refine ⟨step_indexed env e h.indexed, step_old env gid e h.indexed h.old, ?_⟩
  obtain ⟨op, hp, hop⟩ := step_lobby env e h.indexed
  intro g' hg'
  rw [hop] at hg'
  refine op.closed_apply h.indexed h.old (fun g hg => h.closed g hg) ?_ hg'
  rintro rfl
  cases hp with
  | request hreq hperf =>
    cases hperf with
    | reopen h1 h2 h0 => exact hn ⟨_, hreq, h1, h2, rfl⟩

/-- The roster that a step keeps to. -/
theorem step_kept {gid : Nat} {roster : List Nat} {e : Event} {w : World}
    (hn : NoReopen env gid e w) (h : Kept gid roster w) (ho : OnlyRoster env gid roster e w) :
    Kept gid roster (step env e w) := by
  refine ⟨step_locked env hn h.toLocked, ?_⟩
  obtain ⟨op, hp, hop⟩ := step_lobby env e h.indexed
  intro g' hg' pid hin
  rw [hop] at hg'
  rcases op.back h.indexed hg' with ⟨g, hg, -, hps⟩ | ⟨_, _, _, _, -, hk, -⟩
  swap
  · exact absurd h.old (by omega)
  obtain ⟨p, hp', rfl⟩ := List.mem_map.mp hin
  have hold : p ∈ g.participants → p.pid ∈ roster := fun hpin =>
    h.within g hg p.pid (List.mem_map.mpr ⟨p, hpin, rfl⟩)
  generalize g'.participants = qs at hps hp'
  cases hps with
  | kept hsub => exact hold (hsub.subset hp')
  | @joined _ _ _ c hj =>
    subst hj
    cases hp with
    | request hreq hperf =>
      cases hperf with
      | join g1 h1 h2 hadm =>
        rcases GatheringRegistry.mem_joined hp' with hpin | ⟨hpid, -, -⟩
        · exact hold hpin
        · rw [hpid]
          have hid := h.indexed.ids _ _ (Game.admitted_eq_some hadm).1
          exact ho _ hreq h1 h2 hid.symm (by rw [hadm]; rfl)

/-- **The join that breaks it.** -/
theorem not_within_of_join {gid : Nat} {roster : List Nat} {e : Event} {w : World}
    (h : Kept gid roster w) (ho : ¬ OnlyRoster env gid roster e w) :
    ¬ Within gid roster (step env e w) := by
  unfold OnlyRoster at ho
  push Not at ho
  obtain ⟨⟨port, c, req⟩, hreq, h1, h2, rfl, hadm, hnot⟩ := ho
  obtain ⟨g, hadm⟩ := Option.isSome_iff_exists.mp hadm
  have hid : g.id = leadingGid req := h.indexed.ids _ _ (Game.admitted_eq_some hadm).1
  have hnew := get_step_join env hreq h.indexed h1 h2 hadm
  rw [hid] at hnew
  obtain ⟨p, hp, hpid, -⟩ := GatheringRegistry.exists_joined g.participants
    (w.heap c).userPid (pidName (w.heap c).userPid) (w.heap c).remote c
  intro hall
  exact hnot (hall _ hnew _ (List.mem_map.mpr ⟨p, hp, hpid⟩))

/-- The lobby right after the lock. -/
theorem step_locks {gid : Nat} {g : Gathering} {e : Event} {w : World}
    (hw : w.lobby.registry.WellIndexed) (h : Locks env gid g e w) :
    Kept gid g.pids (step env e w) := by
  obtain ⟨⟨⟨port, c, req⟩, hreq, h1, h2, rfl⟩, h0, hg, -⟩ := h
  have hget : (step env e w).lobby.get (leadingGid req) =
      some (Game.snapshot { g with closed := true }) := by
    rw [step_close env hreq h1 h2 h0, Lobby.get_close, if_pos rfl, hg]
    rfl
  refine ⟨⟨step_indexed env e hw, step_old env _ e hw (hw.lt hg), ?_⟩, ?_⟩
  · intro g' hg'
    cases hget.symm.trans hg'
    exact Game.snapshot_closed _
  · intro g' hg' pid hin
    cases hget.symm.trans hg'
    rw [Game.snapshot_pids] at hin
    exact hin

/-- **A locked lobby does not grow exactly as long as nobody from outside is let in.**
Whatever has happened before the lock, and whatever follows it but a reopen. -/
theorem locked_iff (w : World) (hl : w.lobby = Lobby.empty) (es : List Event) (e : Event)
    (gid : Nat) (g : Gathering) (hlock : Locks env gid g e (runs (step env) es w))
    (fs : List Event)
    (hn : Guarded (step env) (NoReopen env gid) fs (runs (step env) (es ++ [e]) w)) :
    (∀ n, Closed gid (runs (step env) (es ++ e :: fs.take n) w)) ∧
      ((∀ n, Within gid g.pids (runs (step env) (es ++ e :: fs.take n) w)) ↔
        Guarded (step env) (OnlyRoster env gid g.pids) fs (runs (step env) (es ++ [e]) w)) := by
  have hindexed : (runs (step env) es w).lobby.registry.WellIndexed := by
    refine runs_preserves (I := fun w => w.lobby.registry.WellIndexed)
      (fun e _ h => step_indexed env e h) es w ?_
    rw [hl]
    exact GatheringRegistry.WellIndexed.empty
  have hstart : Kept gid g.pids (runs (step env) (es ++ [e]) w) := by
    rw [runs_append]
    exact step_locks env hindexed hlock
  have hcut : ∀ n, runs (step env) (es ++ e :: fs.take n) w =
      runs (step env) (fs.take n) (runs (step env) (es ++ [e]) w) := by
    intro n
    rw [runs_append, runs_append]
    rfl
  simp only [hcut]
  constructor
  · intro n
    exact (runs_invariant (fun _ _ hn h => step_locked env hn h) _ _
      (guarded_take (step env) _ n hn) hstart.toLocked).closed
  · exact throughout_iff_guarded_of (fun _ h => h.within)
      (fun _ _ hn h ho => step_kept env hn h ho)
      (fun _ _ _ h ho => not_within_of_join env h ho) fs _ hn hstart

/-! ## A join from a stale list -/

/-- A host and a guest, both with a URL. -/
def start : World :=
  Sample.world [Sample.connection .secure 1 10000, Sample.connection .secure 2 10001]

/-- The host creates a lobby and the guest lists it. -/
def listed : List Event :=
  [.packet .secure (Sample.remote 1) (Sample.data 1 60 4 []),
   .packet .secure (Sample.remote 2) (Sample.data 1 60 20 [])]

/-- The host locks the lobby. -/
def lock : Event := .packet .secure (Sample.remote 1) (Sample.data 2 60 19 (wU32 10000))

/-- The guest joins from its list. -/
def lateJoin : List Event :=
  [.packet .secure (Sample.remote 2) (Sample.data 2 60 5 (wU32 10000))]

theorem locks_lock : ∃ g, Locks Sample.env 10000 g lock (runs (step Sample.env) listed start) ∧
    g.pids = [10000] := by
  have hg : ((runs (step Sample.env) listed start).lobby.get 10000).map
      (fun g => (g.closed, g.pids)) = some (false, [10000]) := by
    decide +kernel
  obtain ⟨g, hget, hp⟩ := Option.map_eq_some_iff.mp hg
  rw [Prod.mk.injEq] at hp
  refine ⟨g, ⟨?_, by decide, hget, hp.1⟩, hp.2⟩
  have hreq : ((requestOf Sample.env (runs (step Sample.env) listed start) lock).map fun r =>
      (r.2.2.proto, r.2.2.method, leadingGid r.2.2)) = some (60, 19, 10000) := by
    decide +kernel
  obtain ⟨r, hr, he⟩ := Option.map_eq_some_iff.mp hreq
  rw [Prod.mk.injEq, Prod.mk.injEq] at he
  exact ⟨r, hr, he⟩

theorem noReopen_lateJoin : Guarded (step Sample.env) (NoReopen Sample.env 10000) lateJoin
    (runs (step Sample.env) (listed ++ [lock]) start) := by
  refine ⟨?_, trivial⟩
  rintro ⟨r, hr, h1, h2, h3⟩
  have hreq : ((requestOf Sample.env (runs (step Sample.env) (listed ++ [lock]) start)
      (.packet .secure (Sample.remote 2) (Sample.data 2 60 5 (wU32 10000)))).map fun r =>
        r.2.2.method) = some 5 := by
    decide +kernel
  rw [hr, Option.map_some, h2] at hreq
  exact absurd hreq (by decide)

theorem locked_iff_lateJoin :
    ∃ g, Locks Sample.env 10000 g lock (runs (step Sample.env) listed start) ∧
    (∀ n, Closed 10000 (runs (step Sample.env) (listed ++ lock :: lateJoin.take n) start)) ∧
      ((∀ n, Within 10000 g.pids (runs (step Sample.env) (listed ++ lock :: lateJoin.take n) start)) ↔
        Guarded (step Sample.env) (OnlyRoster Sample.env 10000 g.pids) lateJoin
          (runs (step Sample.env) (listed ++ [lock]) start)) := by
  obtain ⟨g, hlock, -⟩ := locks_lock
  exact ⟨g, hlock, locked_iff Sample.env start rfl listed lock 10000 g hlock lateJoin
    noReopen_lateJoin⟩

/-- The guest is in the locked lobby. -/
theorem not_within_lateJoin :
    ∃ g, Locks Sample.env 10000 g lock (runs (step Sample.env) listed start) ∧
    Guarded (step Sample.env) (NoReopen Sample.env 10000) lateJoin
      (runs (step Sample.env) (listed ++ [lock]) start) ∧
    ¬ Within 10000 g.pids (runs (step Sample.env) (listed ++ lock :: lateJoin) start) := by
  obtain ⟨g, hlock, hpids⟩ := locks_lock
  refine ⟨g, hlock, noReopen_lateJoin, ?_⟩
  have hafter : ((runs (step Sample.env) (listed ++ lock :: lateJoin) start).lobby.get 10000).map
      Gathering.pids = some [10000, 10001] := by
    decide +kernel
  obtain ⟨g', hg', hp'⟩ := Option.map_eq_some_iff.mp hafter
  intro hall
  have hin := hall g' hg' 10001 (by rw [hp']; decide)
  rw [hpids] at hin
  exact absurd hin (by decide)

end Lock
end Ghostbusters
