import GhostbustersServer.Effects.Moves
import GhostbustersServer.Guarantees.Sample

/-!
# The capacity of a lobby

`add_participant` checks nothing; what bounds a lobby is the test JoinGathering makes
before it.  The owner is not counted against the public slots, and may leave the lobby
and come back to it like a guest.

    Capped g      distinct players, at most four, at most public_slots of them guests
-/

namespace Ghostbusters

open Py

namespace Capacity

/-- **The invariant of one lobby.** -/
structure Capped (g : Gathering) : Prop where
  distinct : g.pids.Nodup
  four : g.participants.length ≤ maxParticipantsPerGathering
  slots : (g.participants.countP fun p => p.pid != g.ownerPid) ≤ g.publicSlots
  uninvited : g.invitedPids = ∅

theorem capped_newGathering (gid pid : Nat) (remote : Remote) (raw : Bytes)
    (conn : Option ConnId) : Capped (GatheringRegistry.newGathering gid pid remote raw conn) where
  distinct := by simp [GatheringRegistry.newGathering, Gathering.pids]
  four := by simp [GatheringRegistry.newGathering, maxParticipantsPerGathering]
  slots := by simp [GatheringRegistry.newGathering]
  uninvited := rfl

theorem countP_eq_of_pids {ps qs : List Participant} (h : ps.map (·.pid) = qs.map (·.pid))
    (f : Nat → Bool) : (ps.countP fun p => f p.pid) = qs.countP fun p => f p.pid := by
  have hcount : ∀ rs : List Participant,
      (rs.countP fun p => f p.pid) = (rs.map (·.pid)).countP f := by
    intro rs
    rw [List.countP_map]
    rfl
  rw [hcount, hcount, h]

/-- **A join that is let in.** -/
theorem Capped.join {g : Gathering} (h : Capped g) {pid : Nat} (name : Str) (remote : Remote)
    (conn : ConnId) (hfull : g.isFull = false) (hslot : 0 < g.publicRemaining) :
    Capped { g with
      participants := GatheringRegistry.joined g.participants pid name remote (some conn) } := by
  have hpids := GatheringRegistry.pids_joined g.participants pid name remote conn
  have hlen : ∀ ps : List Participant, ps.length = (ps.map (·.pid)).length := fun ps => by simp
  have hcount : (g.participants.countP fun p => p.pid != g.ownerPid) < g.publicSlots := by
    unfold Gathering.publicRemaining Gathering.nonInvitedJoiners at hslot
    rw [h.uninvited] at hslot
    simp only [Finset.notMem_empty, not_false_eq_true, decide_true, Bool.and_true] at hslot
    omega
  have hroom : g.participants.length < maxParticipantsPerGathering := by
    unfold Gathering.isFull at hfull
    simpa using hfull
  by_cases hin : pid ∈ g.participants.map (·.pid)
  · rw [if_pos hin] at hpids
    refine ⟨?_, ?_, ?_, h.uninvited⟩
    · unfold Gathering.pids
      rw [hpids]
      exact h.distinct
    · show (GatheringRegistry.joined _ _ _ _ _).length ≤ _
      rw [hlen, hpids, ← hlen]
      exact h.four
    · show (GatheringRegistry.joined _ _ _ _ _).countP _ ≤ _
      rw [countP_eq_of_pids hpids fun k => k != g.ownerPid]
      exact h.slots
  · rw [if_neg hin] at hpids
    refine ⟨?_, ?_, ?_, h.uninvited⟩
    · unfold Gathering.pids
      rw [hpids]
      refine List.Nodup.append h.distinct (List.nodup_singleton pid) ?_
      intro k hk hk'
      rw [List.mem_singleton.mp hk'] at hk
      exact hin hk
    · show (GatheringRegistry.joined _ _ _ _ _).length ≤ _
      rw [hlen, hpids, List.length_append, ← hlen]
      exact hroom
    · show (GatheringRegistry.joined _ _ _ _ _).countP _ ≤ _
      let newcomer : Participant := { pid, displayName := name, remote }
      have hps : (GatheringRegistry.joined g.participants pid name remote (some conn)).map (·.pid) =
          (g.participants ++ [newcomer]).map (·.pid) := by
        rw [hpids, List.map_append]
        rfl
      rw [countP_eq_of_pids hps fun k => k != g.ownerPid, List.countP_append]
      have : [newcomer].countP (fun p => p.pid != g.ownerPid) ≤ 1 := List.countP_le_length
      show _ ≤ g.publicSlots
      omega

/-! ## Every move -/

def AllCapped (l : Lobby) : Prop := ∀ k g, l.get k = some g → Capped g

variable (env : Env)

/-- Whose lobbies have the same origin and fewer players. -/
theorem Capped.of_origin {g g' : Gathering} (h : Capped g) (ho : g'.origin = g.origin)
    (hs : g'.participants.Sublist g.participants) : Capped g' := by
  have h2 : g'.ownerPid = g.ownerPid := (congrArg Gathering.ownerPid ho :)
  have h3 : g'.publicSlots = g.publicSlots := (congrArg Gathering.publicSlots ho :)
  have h4 : g'.invitedPids = g.invitedPids := (congrArg Gathering.invitedPids ho :)
  refine ⟨h.distinct.sublist (hs.map _), hs.length_le.trans h.four, ?_, h4.trans h.uninvited⟩
  rw [h2, h3]
  exact hs.countP_le.trans h.slots

theorem allCapped_apply {w w' : World} {e : Event} {op : LobbyOp}
    (hw : w.lobby.registry.WellIndexed) (hp : StepPerforms env w e w' op)
    (h : AllCapped w.lobby) : AllCapped (op.apply w.lobby) := by
  intro k g' hg'
  rcases op.back hw hg' with ⟨g, hg, ho, hps⟩ | ⟨pid, remote, raw, conn, -, -, rfl⟩
  swap
  · exact capped_newGathering _ _ _ _ _
  generalize hqs : g'.participants = qs at hps
  cases hps with
  | kept hs => exact (h k g hg).of_origin ho (by rw [hqs]; exact hs)
  | @joined _ _ _ c hop =>
    subst hop
    cases hp with
    | request hreq hperf =>
      cases hperf with
      | join g1 h1 h2 hadm =>
        obtain ⟨-, -, hfull, hslot⟩ := Game.admitted_eq_some hadm
        cases hg.symm.trans (Game.get_of_admitted hw hadm)
        have hcapped := h _ _ hg
        rw [hcapped.uninvited] at hslot
        have hjoin := @Capped.join g hcapped (w.heap c).userPid (pidName (w.heap c).userPid)
          (w.heap c).remote c hfull (hslot.resolve_left (Finset.notMem_empty _))
        exact hjoin.of_origin ho (by rw [hqs])

/-- **Lobby capacity**, over every run from a server without lobbies. -/
theorem lobby_capped (w : World) (hw : w.lobby = Lobby.empty) (es : List Event) (gid : Nat)
    (g : Gathering) (hg : (runs (step env) es w).lobby.get gid = some g) :
    g.pids.Nodup ∧ g.participants.length ≤ 4 ∧
      (g.participants.countP fun p => p.pid != g.ownerPid) ≤ g.publicSlots ∧ g.invitedPids = ∅ := by
  have hindexed : w.lobby.registry.WellIndexed := by
    rw [hw]
    exact GatheringRegistry.WellIndexed.empty
  have hstart : AllCapped w.lobby := by
    rw [hw]
    intro k g hg
    cases hg
  have hrun := runs_lobby env (fun w e w' op hi hp h => allCapped_apply env hi hp h) es w hindexed
    hstart
  obtain ⟨h1, h2, h3, h4⟩ := hrun.2 gid g hg
  exact ⟨h1, h2, h3, h4⟩

/-- A host creates a lobby and a guest joins it. -/
def hostAndGuest : List Event :=
  [.packet .auth (Sample.remote 1) (Sample.data 1 60 4 []),
   .packet .auth (Sample.remote 2) (Sample.data 1 60 5 (wU32 10000))]

theorem lobby_capped_joined :
    ∃ g, (runs (step Sample.env) hostAndGuest (Sample.world
        [Sample.connection .auth 1 10000, Sample.connection .auth 2 10001])).lobby.get 10000 = some g ∧
      g.pids = [10000, 10001] ∧ g.pids.Nodup ∧ g.participants.length ≤ 4 ∧
      (g.participants.countP fun p => p.pid != g.ownerPid) ≤ g.publicSlots ∧ g.invitedPids = ∅ := by
  have hpids : ((runs (step Sample.env) hostAndGuest (Sample.world
      [Sample.connection .auth 1 10000, Sample.connection .auth 2 10001])).lobby.get 10000).map
        Gathering.pids = some [10000, 10001] := by
    decide +kernel
  obtain ⟨g, hg, hp⟩ := Option.map_eq_some_iff.mp hpids
  exact ⟨g, hg, hp, lobby_capped Sample.env _ rfl hostAndGuest 10000 g hg⟩

end Capacity
end Ghostbusters
