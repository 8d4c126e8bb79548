import GhostbustersServer.Guarantees.Capacity

/-!
# The host is participant 0

Nothing but the host's own LeaveGathering takes the first entry out of a lobby: joins go to
the end, and a close at another remote than the host's cannot reach an entry at the host's.

    Led g           the first entry is the owner's, at the owner's remote
    hostLeaves      a LeaveGathering of the owner
    host_first      so the host of a lobby it has not left is participant 0
-/

namespace Ghostbusters

open Py PRUDPServer

variable (env : Env)

namespace HostFirst

/-- **The invariant of one lobby.** -/
def Led (g : Gathering) : Prop :=
  ∃ p ps, g.participants = p :: ps ∧ p.pid = g.ownerPid ∧ p.remote = g.ownerRemote

theorem led_newGathering (gid pid : Nat) (remote : Remote) (raw : Bytes) (conn : Option ConnId) :
    Led (GatheringRegistry.newGathering gid pid remote raw conn) :=
  ⟨_, [], rfl, rfl, rfl⟩

section
variable {g : Gathering} (h : Led g)
include h

/-- A join keeps the first entry or refreshes its connection. -/
theorem Led.join (pid : Nat) (name : Str) (remote : Remote) (conn : ConnId) :
    Led { g with
      participants := GatheringRegistry.joined g.participants pid name remote (some conn) } := by
  obtain ⟨p, ps, hps, hpid, hremote⟩ := h
  unfold Led GatheringRegistry.joined
  dsimp only
  rw [hps]
  split
  · unfold GatheringRegistry.joined.refresh
    split
    · exact ⟨_, _, rfl, hpid, hremote⟩
    · exact ⟨_, _, rfl, hpid, hremote⟩
  · exact ⟨p, ps ++ [_], rfl, hpid, hremote⟩

theorem Led.filter {keep : Participant → Bool}
    (hkeep : ∀ p, p.pid = g.ownerPid → p.remote = g.ownerRemote → keep p = true) :
    Led { g with participants := g.participants.filter keep } := by
  obtain ⟨p, ps, hps, hpid, hremote⟩ := h
  refine ⟨p, ps.filter keep, ?_, hpid, hremote⟩
  show g.participants.filter keep = _
  rw [hps, List.filter_cons_of_pos (hkeep p hpid hremote)]

end

theorem Led.of_membership {g g' : Gathering} (h : Led g) (hm : g.membership = g'.membership) :
    Led g' := by
  obtain ⟨p, ps, hps, hpid, hremote⟩ := h
  have h1 : g.participants = g'.participants := (congrArg Gathering.participants hm :)
  have h2 : g.ownerPid = g'.ownerPid := (congrArg Gathering.ownerPid hm :)
  have h3 : g.ownerRemote = g'.ownerRemote := (congrArg Gathering.ownerRemote hm :)
  exact ⟨p, ps, h1 ▸ hps, hpid.trans h2, hremote.trans h3⟩

def LedAt (l : Lobby) (k : Nat) : Prop := ∀ g, l.get k = some g → Led g

/-- **Every move** but a leave of the owner. -/
theorem ledAt_apply {op : LobbyOp} {l : Lobby} (hi : l.registry.WellIndexed) {k : Nat}
    (h : LedAt l k) (hstays : ∀ pid, op = .leave k pid → l.registry.ownerOf k ≠ some pid) :
    LedAt (op.apply l) k := by
  intro g' hk
  cases hkeep : op.keepsMembers with
  | true =>
    obtain ⟨g, hg, hm⟩ := (op.sameMembers hkeep l).back hk
    exact (h g hg).of_membership hm
  | false =>
    cases op with
    | idle => cases hkeep
    | close => cases hkeep
    | reopen => cases hkeep
    | report => cases hkeep
    | cancel => cases hkeep
    | expire => cases hkeep
    | create pid remote raw conn =>
      change (l.registry.create pid remote raw (some conn)).2.get k = some g' at hk
      rw [GatheringRegistry.get_create _ hi] at hk
      split at hk
      · cases hk
        exact led_newGathering _ _ _ _ _
      · split at hk
        · cases hk
        · exact h g' hk
    | join gid pid name remote conn =>
      change (l.registry.addParticipant gid pid name remote (some conn)).2.get k = some g' at hk
      rw [GatheringRegistry.get_addParticipant] at hk
      split at hk
      · next he =>
        subst he
        obtain ⟨g, hg, rfl⟩ := Option.map_eq_some_iff.mp hk
        exact (h g hg).join pid name remote conn
      · exact h g' hk
    | leave gid pid =>
      change (l.registry.removeParticipant gid pid).2.get k = some g' at hk
      rw [GatheringRegistry.get_removeParticipant] at hk
      split at hk
      · next he =>
        subst he
        obtain ⟨g, hg, rfl⟩ := Option.map_eq_some_iff.mp hk
        refine (h g hg).filter fun p hpid _ => bne_iff_ne.mpr fun heq => ?_
        exact hstays pid rfl ((l.registry.ownerOf_eq_some_iff _ _).mpr ⟨g, hg, hpid.symm.trans heq⟩)
      · exact h g' hk
    | destroy gid =>
      change (l.registry.destroy gid).2.get k = some g' at hk
      rw [GatheringRegistry.get_destroy] at hk
      split at hk
      · cases hk
      · exact h g' hk
    | gone remotes =>
      -- the host's entry is at the remote whose close would have taken the lobby
      obtain ⟨g, hg, howner, rfl⟩ := (Lobby.get_gone hi remotes k g').mp hk
      exact (h g hg).filter fun p _ hremote => decide_eq_true (hremote ▸ howner)

/-- The event is a LeaveGathering for lobby `k` by its owner. -/
def hostLeaves (k : Nat) (e : Event) (w : World) : Bool :=
  (requestOf env w e).any fun (_, c, req) => req.proto == 60 && req.method == 16 &&
    leadingGid req == k && w.lobby.registry.ownerOf k == some (w.heap c).userPid

theorem step_ledAt {k : Nat} {e : Event} {w : World} (hw : w.lobby.registry.WellIndexed)
    (hstays : hostLeaves env k e w = false) (h : LedAt w.lobby k) : LedAt (step env e w).lobby k := by
  obtain ⟨op, hp, hl⟩ := step_lobby env e hw
  rw [hl]
  refine ledAt_apply hw h fun pid hop howner => ?_
  subst hop
  cases hp with
  | @request port c req _ hreq hperf =>
    cases hperf with
    | leave h1 h2 =>
      unfold hostLeaves at hstays
      rw [hreq] at hstays
      simp [h1, h2, howner] at hstays

/-- **The host is participant 0** of every live lobby that it has not left, in every state of
every run from a server without lobbies. -/
theorem host_first (w0 : World) (hl : w0.lobby = Lobby.empty) (es : List Event) (k : Nat)
    (hstays : Guarded (step env) (fun e w => hostLeaves env k e w = false) es w0) (g : Gathering)
    (hg : (runs (step env) es w0).lobby.get k = some g) :
    ∃ p ps, g.participants = p :: ps ∧ p.pid = g.ownerPid := by
  have hrun := runs_invariant (I := fun w => w.lobby.registry.WellIndexed ∧ LedAt w.lobby k)
    (fun e w hs h => ⟨step_indexed env e h.1, step_ledAt env h.1 hs h.2⟩) es w0 hstays (by
      rw [hl]
      exact ⟨GatheringRegistry.WellIndexed.empty, fun _ hg => nomatch hg⟩)
  obtain ⟨p, ps, hps, hpid, -⟩ := hrun.2 g hg
  exact ⟨p, ps, hps, hpid⟩

/-! ## A host and a guest -/

def connected : World :=
  Sample.world [{ Sample.connection .secure 1 10000 with
      stationUrls := ["prudp:/address=10.0.0.1".toList] }, Sample.connection .secure 2 10001]

/-- The host creates a lobby, the guest joins it and leaves it. -/
def guestLeaves : List Event :=
  [.packet .secure (Sample.remote 1) (Sample.data 1 60 4 []),
   .packet .secure (Sample.remote 2) (Sample.data 1 60 5 (wU32 10000)),
   .packet .secure (Sample.remote 2) (Sample.data 2 60 16 (wU32 10000))]

theorem host_first_guestLeaves : ∃ g, (runs (step Sample.env) guestLeaves connected).lobby.get 10000 =
    some g ∧ ∃ p ps, g.participants = p :: ps ∧ p.pid = g.ownerPid := by
  have hlive : ((runs (step Sample.env) guestLeaves connected).lobby.get 10000).isSome = true := by
    decide +kernel
  obtain ⟨g, hg⟩ := Option.isSome_iff_exists.mp hlive
  exact ⟨g, hg, host_first Sample.env connected rfl guestLeaves 10000 (by decide +kernel) g hg⟩

/-- The guest joins and the host leaves, without destroying the lobby. -/
def hostLeavesOnly : List Event :=
  [.packet .secure (Sample.remote 1) (Sample.data 1 60 4 []),
   .packet .secure (Sample.remote 2) (Sample.data 1 60 5 (wU32 10000)),
   .packet .secure (Sample.remote 1) (Sample.data 2 60 16 (wU32 10000))]

theorem not_host_first_hostLeavesOnly :
    ∃ g, (runs (step Sample.env) hostLeavesOnly connected).lobby.get 10000 = some g ∧
      g.ownerPid = 10000 ∧ g.pids = [10001] := by
  have hview : ((runs (step Sample.env) hostLeavesOnly connected).lobby.get 10000).map
      (fun g => (g.ownerPid, g.pids)) = some (10000, [10001]) := by
    decide +kernel
  obtain ⟨g, hg, hv⟩ := Option.map_eq_some_iff.mp hview
  rw [Prod.mk.injEq] at hv
  exact ⟨g, hg, hv⟩

end HostFirst
end Ghostbusters
