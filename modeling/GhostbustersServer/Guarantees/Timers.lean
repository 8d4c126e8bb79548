import GhostbustersServer.Guarantees.Sample

/-!
# The timer of a pending batch

    Waiting g     the timer of a lobby is armed while reports are in, and then one is missing
    Clock l       the event loop holds one timer for each armed lobby, and no other for it

Both are kept by every move of the lobbies, as long as no batch is broken off by an
exception; so a timer that expires always finds a batch to fire.
-/

namespace Ghostbusters

open Py

namespace Timers

/-! ## One lobby -/

structure Waiting (g : Gathering) : Prop where
  armed : g.m12TimeoutHandle.isSome = true ↔ g.receivedM12Pids ≠ ∅
  missing : g.receivedM12Pids ≠ ∅ → ¬ g.expectedM12Pids ⊆ g.receivedM12Pids

def AllWaiting (l : Lobby) : Prop := ∀ k g, l.get k = some g → Waiting g

theorem waiting_cleared {g : Gathering} (h1 : g.m12TimeoutHandle = none)
    (h2 : g.receivedM12Pids = ∅) : Waiting g where
  armed := by simp [h1, h2]
  missing := fun h => absurd h2 h

/-- A lobby that expects nobody has no report. -/
theorem Waiting.received_empty {g : Gathering} (h : Waiting g) (he : g.expectedM12Pids = ∅) :
    g.receivedM12Pids = ∅ := by
  by_contra hr
  apply h.missing hr
  rw [he]
  exact Finset.empty_subset _

theorem Waiting.snapshot {g : Gathering} (h : Waiting g) : Waiting (Game.snapshot g) := by
  unfold Game.snapshot
  split
  · next he =>
    have hr := h.received_empty he
    have hn : ¬ g.m12TimeoutHandle.isSome = true := fun hs => h.armed.mp hs hr
    exact waiting_cleared (by simpa using hn) rfl
  · exact h

theorem Waiting.of_batch {g g' : Gathering} (h : Waiting g)
    (he : g'.expectedM12Pids = g.expectedM12Pids) (hr : g'.receivedM12Pids = g.receivedM12Pids)
    (ht : g'.m12TimeoutHandle = g.m12TimeoutHandle) : Waiting g' := by
  obtain ⟨h1, h2⟩ := h
  exact ⟨by rw [ht, hr]; exact h1, by rw [hr, he]; exact h2⟩

/-! ## The event loop -/

structure Clock (l : Lobby) : Prop where
  armed : ∀ k g id, l.get k = some g → g.m12TimeoutHandle = some id →
    ∃ t ∈ l.timers, t.id = id ∧ t.gatheringId = k
  owned : ∀ t ∈ l.timers, ∀ g, l.get t.gatheringId = some g → g.m12TimeoutHandle = some t.id
  ids : (l.timers.map (·.id)).Nodup
  single : (l.timers.map (·.gatheringId)).Nodup
  bound : ∀ t ∈ l.timers, t.id < l.nextTimer
  known : ∀ t ∈ l.timers, t.gatheringId < l.registry.gatheringIdSeq

namespace Clock

theorem empty : Clock Lobby.empty where
  armed := by intro k g id h; cases h
  owned := by intro t h; cases h
  ids := List.nodup_nil
  single := List.nodup_nil
  bound := by intro t h; cases h
  known := by intro t h; cases h

/-- Two timers of one id are one. -/
theorem eq_of_id {l : Lobby} (h : Clock l) {t t' : Timer} (ht : t ∈ l.timers) (ht' : t' ∈ l.timers)
    (he : t.id = t'.id) : t = t' := List.inj_on_of_nodup_map h.ids ht ht' he

theorem eq_of_gathering {l : Lobby} (h : Clock l) {t t' : Timer} (ht : t ∈ l.timers)
    (ht' : t' ∈ l.timers) (he : t.gatheringId = t'.gatheringId) : t = t' :=
  List.inj_on_of_nodup_map h.single ht ht' he

/-- A move that touches no timer and no handle; new lobbies come under new ids. -/
theorem of_same {l l' : Lobby} (h : Clock l) (ht : l'.timers = l.timers)
    (hn : l'.nextTimer = l.nextTimer)
    (hs : l.registry.gatheringIdSeq ≤ l'.registry.gatheringIdSeq)
    (hg : ∀ k g', l'.get k = some g' →
      (∃ g, l.get k = some g ∧ g'.m12TimeoutHandle = g.m12TimeoutHandle) ∨
      (g'.m12TimeoutHandle = none ∧ l.registry.gatheringIdSeq ≤ k)) : Clock l' where
  armed := by
    intro k g' id hk hid
    rw [ht]
    rcases hg k g' hk with ⟨g, hg, he⟩ | ⟨hnone, -⟩
    · exact h.armed k g id hg (he ▸ hid)
    · rw [hnone] at hid
      cases hid
  owned := by
    intro t hm g' hk
    rw [ht] at hm
    rcases hg _ g' hk with ⟨g, hg, he⟩ | ⟨-, hlt⟩
    · rw [he]
      exact h.owned t hm g hg
    · exact absurd (h.known t hm) (Nat.not_lt.mpr hlt)
  ids := by rw [ht]; exact h.ids
  single := by rw [ht]; exact h.single
  bound := by rw [ht, hn]; exact h.bound
  known := by
    rw [ht]
    exact fun t hm => (h.known t hm).trans_le hs

/-- Timers that no live lobby holds may go. -/
theorem of_sublist {l l' : Lobby} (h : Clock l) (ht : l'.timers.Sublist l.timers)
    (hn : l'.nextTimer = l.nextTimer)
    (hs : l'.registry.gatheringIdSeq = l.registry.gatheringIdSeq)
    (ha : ∀ k g id, l'.get k = some g → g.m12TimeoutHandle = some id →
      ∃ t ∈ l'.timers, t.id = id ∧ t.gatheringId = k)
    (ho : ∀ t ∈ l'.timers, ∀ g, l'.get t.gatheringId = some g → g.m12TimeoutHandle = some t.id) :
    Clock l' where
  armed := ha
  owned := ho
  ids := h.ids.sublist (ht.map _)
  single := h.single.sublist (ht.map _)
  bound := by
    rw [hn]
    exact fun t hm => h.bound t (ht.subset hm)
  known := by
    rw [hs]
    exact fun t hm => h.known t (ht.subset hm)

theorem update {l : Lobby} (h : Clock l) (gid : Nat) (f : Gathering → Gathering)
    (hf : ∀ g, (f g).m12TimeoutHandle = g.m12TimeoutHandle) : Clock (l.update gid f) := by
  refine h.of_same rfl rfl (Nat.le_refl _) ?_
  intro k g' hk
  rw [Lobby.get_update] at hk
  split at hk
  · next he =>
    obtain ⟨g, hg, rfl⟩ := Option.map_eq_some_iff.mp hk
    exact .inl ⟨g, by rw [he]; exact hg, hf g⟩
  · exact .inl ⟨g', hk, rfl⟩

theorem disarm {l : Lobby} (h : Clock l) (gid : Nat) : Clock (l.disarm gid) := by
  have hget := l.get_disarm gid
  unfold Lobby.disarm at hget ⊢
  cases hgid : l.get gid with
  | none => exact h
  | some g =>
    rw [hgid] at hget
    dsimp only at hget ⊢
    refine h.of_sublist List.filter_sublist rfl rfl ?_ ?_
    · intro k g' id hk hid
      rw [hget] at hk
      split at hk
      · cases hk
        cases hid
      · next hne =>
        obtain ⟨t, ht, rfl, rfl⟩ := h.armed k g' id hk hid
        refine ⟨t, List.mem_filter.mpr ⟨ht, bne_iff_ne.mpr fun he => ?_⟩, rfl, rfl⟩
        -- the timer that goes is the one of this lobby
        obtain ⟨t', ht', hid', hg'⟩ := h.armed gid g t.id hgid he
        rw [h.eq_of_id ht' ht hid'] at hg'
        exact hne hg'
    · intro t ht g' hk
      obtain ⟨hold, hkept⟩ := List.mem_filter.mp ht
      rw [hget] at hk
      split at hk
      · next he =>
        exact absurd (h.owned t hold g (by rw [he]; exact hgid)) (bne_iff_ne.mp hkept)
      · exact h.owned t hold g' hk

/-- A timer is added for a lobby that had none. -/
theorem of_added {l l' : Lobby} (h : Clock l) {t : Timer} (ht : l'.timers = l.timers ++ [t])
    (hid : t.id = l.nextTimer) (hn : l'.nextTimer = l.nextTimer + 1)
    (hs : l'.registry.gatheringIdSeq = l.registry.gatheringIdSeq)
    (hk : t.gatheringId < l.registry.gatheringIdSeq)
    (hnew : ∀ t' ∈ l.timers, t'.gatheringId ≠ t.gatheringId)
    (hheld : ∃ g, l'.get t.gatheringId = some g ∧ g.m12TimeoutHandle = some t.id)
    (hother : ∀ k, k ≠ t.gatheringId → l'.get k = l.get k) : Clock l' where
  armed := by
    intro k g id hg hh
    rw [ht]
    by_cases he : k = t.gatheringId
    · obtain ⟨g', hg', hh'⟩ := hheld
      rw [← he, hg] at hg'
      cases hg'
      cases hh.symm.trans hh'
      exact ⟨t, List.mem_append_right _ (List.mem_singleton_self t), rfl, he.symm⟩
    · rw [hother k he] at hg
      obtain ⟨t', ht', h1, h2⟩ := h.armed k g id hg hh
      exact ⟨t', List.mem_append_left _ ht', h1, h2⟩
  owned := by
    intro t' ht' g hg
    rw [ht] at ht'
    rcases List.mem_append.mp ht' with ht' | ht'
    · rw [hother _ (hnew t' ht')] at hg
      exact h.owned t' ht' g hg
    · cases List.mem_singleton.mp ht'
      obtain ⟨g', hg', hh'⟩ := hheld
      cases hg.symm.trans hg'
      exact hh'
  ids := by
    rw [ht, List.map_append]
    refine List.Nodup.append h.ids (List.nodup_singleton _) ?_
    intro id hold hmem
    obtain ⟨t', ht', rfl⟩ := List.mem_map.mp hold
    have heq : t'.id = l.nextTimer := (List.mem_singleton.mp hmem).trans hid
    exact Nat.lt_irrefl _ (heq ▸ h.bound t' ht')
  single := by
    rw [ht, List.map_append]
    refine List.Nodup.append h.single (List.nodup_singleton _) ?_
    intro k hold hmem
    obtain ⟨t', ht', rfl⟩ := List.mem_map.mp hold
    exact hnew t' ht' (List.mem_singleton.mp hmem)
  bound := by
    intro t' ht'
    rw [ht] at ht'
    rw [hn]
    rcases List.mem_append.mp ht' with ht' | ht'
    · exact Nat.lt_succ_of_lt (h.bound t' ht')
    · rw [List.mem_singleton.mp ht', hid]
      exact Nat.lt_succ_self _
  known := by
    intro t' ht'
    rw [ht] at ht'
    rw [hs]
    rcases List.mem_append.mp ht' with ht' | ht'
    · exact h.known t' ht'
    · rw [List.mem_singleton.mp ht']
      exact hk

theorem arm {l : Lobby} (h : Clock l) (hi : l.registry.WellIndexed) (port : Port) (gid : Nat) :
    Clock (l.arm port gid) := by
  have hget := l.get_arm port gid
  unfold Lobby.arm at hget ⊢
  cases hgid : l.get gid with
  | none => exact h
  | some g =>
    rw [hgid] at hget
    by_cases hs : g.m12TimeoutHandle.isSome = true
    · simp only [if_pos hs]
      exact h
    · simp only [if_neg hs, Option.map_some] at hget ⊢
      have hnone : g.m12TimeoutHandle = none := by simpa using hs
      refine h.of_added rfl rfl rfl rfl (hi.lt hgid) ?_ ?_ ?_
      · intro t ht he
        have hheld := h.owned t ht g (by rw [he]; exact hgid)
        rw [hnone] at hheld
        cases hheld
      · exact ⟨_, (hget gid).trans (if_pos rfl), rfl⟩
      · exact fun k hne => (hget k).trans (if_neg hne)

theorem fire {l : Lobby} (h : Clock l) (gid : Nat) (clear : Bool) : Clock (l.fire gid clear) := by
  unfold Lobby.fire
  split
  · exact (h.disarm gid).update gid _ fun _ => rfl
  · exact h.disarm gid

/-- The timer of a lobby that is gone. -/
theorem forget {l : Lobby} (h : Clock l) {t : Timer} (ht : t ∈ l.timers)
    (hg : l.get t.gatheringId = none) : Clock (l.forget t.id) := by
  refine h.of_sublist List.filter_sublist rfl rfl ?_ ?_
  · intro k g id hk hid
    obtain ⟨t', ht', rfl, rfl⟩ := h.armed k g id hk hid
    refine ⟨t', ?_, rfl, rfl⟩
    refine List.mem_filter.mpr ⟨ht', ?_⟩
    rw [bne_iff_ne]
    intro he
    have hgone : (l.forget t.id).get t.gatheringId = none := hg
    rw [h.eq_of_id ht' ht he, hgone] at hk
    cases hk
  · intro t' ht' g hk
    exact h.owned t' (List.mem_filter.mp ht').1 g hk

theorem holds_bne {g : Gathering} {id : TimerId} (hh : g.m12TimeoutHandle = some id) (t : Timer) :
    (g.m12TimeoutHandle != some t.id) = (t.id != id) := by
  rw [hh]
  by_cases he : t.id = id
  · rw [he, bne_self_eq_false, bne_self_eq_false]
  · have hne : id ≠ t.id := fun h => he h.symm
    rw [bne_iff_ne.mpr he, bne_iff_ne.mpr fun h => hne (Option.some.inj h)]

/-- An expired timer is off the list once its lobby has let go of it. -/
theorem forget_fire {l : Lobby} {t : Timer} {g : Gathering} (hg : l.get t.gatheringId = some g)
    (hh : g.m12TimeoutHandle = some t.id) (clear : Bool) :
    (l.forget t.id).fire t.gatheringId clear = l.fire t.gatheringId clear := by
  have hd : (l.forget t.id).disarm t.gatheringId = l.disarm t.gatheringId := by
    unfold Lobby.disarm
    rw [show (l.forget t.id).get t.gatheringId = some g from hg, hg]
    simp only [Lobby.forget, Lobby.update, List.filter_filter, Lobby.mk.injEq, true_and, and_true]
    refine List.filter_congr fun t' _ => ?_
    rw [holds_bne hh]
    cases t'.id != t.id <;> rfl
  unfold Lobby.fire
  rw [hd]

/-- A timer that expires after its batch has been fired. -/
theorem forget_eq_disarm {l : Lobby} {t : Timer} {g : Gathering}
    (hg : l.get t.gatheringId = some g) (hh : g.m12TimeoutHandle = some t.id) :
    (l.forget t.id).update t.gatheringId (fun g => { g with m12TimeoutHandle := none }) =
      l.disarm t.gatheringId := by
  unfold Lobby.disarm
  rw [hg]
  simp only [Lobby.forget, Lobby.update, Lobby.mk.injEq, true_and, and_true]
  exact List.filter_congr fun t' _ => (holds_bne hh t').symm

theorem of_sameBatches {l l' : Lobby} (h : Clock l) (hb : Lobby.SameBatches l l')
    (hs : l.registry.gatheringIdSeq ≤ l'.registry.gatheringIdSeq) : Clock l' := by
  refine h.of_same hb.timers hb.nextTimer hs fun k g' hk => ?_
  rcases hb.back k g' hk with ⟨g, hg, he⟩ | ⟨he, hlt⟩
  · exact .inl ⟨g, hg, (congrArg (·.2.2) he :)⟩
  · exact .inr ⟨(congrArg (·.2.2) he :), hlt⟩

theorem addReport {l : Lobby} (h : Clock l) (gid pid : Nat) : Clock (l.addReport gid pid) := by
  refine (h.update gid _ ?_).update gid _ fun _ => rfl
  intro g
  unfold Game.snapshot
  split <;> rfl

theorem report {l : Lobby} (h : Clock l) (hi : l.registry.WellIndexed) (port : Port) (pid : Nat)
    (arm clear : Bool) : Clock (l.report port pid arm clear) := by
  unfold Lobby.report
  split
  · exact h
  · next g _ =>
    have hreport := h.addReport g.id pid
    split
    · exact hreport
    · split
      · exact hreport.fire g.id clear
      · split
        · exact hreport.arm (Lobby.WellIndexed.addReport hi g.id pid) port g.id
        · exact hreport

theorem expire {l : Lobby} (h : Clock l) (id : TimerId) (clear : Bool) :
    Clock (l.expire id clear) := by
  unfold Lobby.expire
  split
  · exact h
  · next t ht =>
    have hmem : t ∈ l.timers := List.mem_of_find?_eq_some ht
    have hid : t.id = id := by simpa using List.find?_some ht
    subst hid
    unfold Lobby.timedOut
    split
    · next hnone => exact h.forget hmem hnone
    · next g hg =>
      have hg' : l.get t.gatheringId = some g := hg
      have hh := h.owned t hmem g hg'
      split
      · rw [forget_eq_disarm hg' hh]
        exact h.disarm t.gatheringId
      · rw [forget_fire hg' hh]
        exact h.fire t.gatheringId clear

/-- **Every move** keeps the clock. -/
theorem apply {l : Lobby} (h : Clock l) (op : LobbyOp) (hi : l.registry.WellIndexed) :
    Clock (op.apply l) := by
  cases hkeep : op.keepsBatches with
  | true => exact h.of_sameBatches (op.sameBatches hkeep hi) (op.seq_le_apply l)
  | false =>
    cases op with
    | idle => cases hkeep
    | create => cases hkeep
    | join => cases hkeep
    | leave => cases hkeep
    | destroy => cases hkeep
    | reopen => cases hkeep
    | gone => cases hkeep
    | close gid =>
      have hset : Clock (l.mapRegistry fun reg => (reg.setClosed gid true).2) :=
        h.of_sameBatches (.of_edit rfl rfl gid _
          (GatheringRegistry.get_setClosed l.registry gid true) fun _ => rfl)
          (RegistryOp.seq_apply (.setClosed gid true) _)
      refine hset.update gid _ ?_
      intro g
      unfold Game.snapshot
      split <;> rfl
    | report port pid arm clear => exact h.report hi port pid arm clear
    | cancel gid => exact (h.disarm gid).update gid _ fun _ => rfl
    | expire id clear => exact h.expire id clear

end Clock

/-! ## Every move -/

/-- Every report that is in is on its way out. -/
def Unstuck (l : Lobby) : Prop := Clock l ∧ AllWaiting l

/-- A move that touches no batch. -/
theorem Unstuck.of_same {l l' : Lobby} (h : Unstuck l) (hb : Lobby.SameBatches l l')
    (hs : l.registry.gatheringIdSeq ≤ l'.registry.gatheringIdSeq) : Unstuck l' := by
  refine ⟨h.1.of_sameBatches hb hs, fun k g' hk => ?_⟩
  rcases hb.back k g' hk with ⟨g, hg, he⟩ | ⟨he, -⟩
  · unfold Gathering.batch at he
    rw [Prod.mk.injEq, Prod.mk.injEq] at he
    obtain ⟨h1, h2, h3⟩ := he
    exact (h.2 k g hg).of_batch h1 h2 h3
  · exact waiting_cleared (congrArg (·.2.2) he :) (congrArg (·.2.1) he :)

theorem Unstuck.fire {l : Lobby} (h : Clock l) (gid : Nat)
    (hw : ∀ k g, k ≠ gid → l.get k = some g → Waiting g) : Unstuck (l.fire gid true) := by
  refine ⟨h.fire gid true, ?_⟩
  intro k g' hk
  rw [Lobby.get_fire] at hk
  split at hk
  · obtain ⟨g, -, rfl⟩ := Option.map_eq_some_iff.mp hk
    exact waiting_cleared rfl rfl
  · next hne => exact hw k g' hne hk

theorem Unstuck.report {l : Lobby} (h : Unstuck l) (hi : l.registry.WellIndexed) (port : Port)
    (pid : Nat) : Unstuck (l.report port pid true true) := by
  unfold Lobby.report
  split
  · exact h
  · next g hs =>
    have hg : l.get g.id = some g := Game.get_of_senderGathering hi hs
    have hget : ∀ k, (l.addReport g.id pid).get k =
        if k = g.id then some (Game.reported g pid) else l.get k := by
      intro k
      rw [Game.get_addReport, hg, Option.map_some]
    have hclock : Clock (l.addReport g.id pid) := h.1.addReport g.id pid
    have hother : ∀ k g', k ≠ g.id → (l.addReport g.id pid).get k = some g' → Waiting g' := by
      intro k g' hne hk
      rw [hget, if_neg hne] at hk
      exact h.2 k g' hk
    rw [hget, if_pos rfl]
    simp only
    split
    · exact Unstuck.fire hclock g.id hother
    · next hsub =>
      -- one more report, and one still missing
      refine ⟨hclock.arm (Lobby.WellIndexed.addReport hi g.id pid) port g.id, ?_⟩
      intro k g' hk
      rw [if_pos trivial, Lobby.get_arm, hget g.id, if_pos rfl] at hk
      split at hk
      · rw [Option.map_some, Option.some.injEq] at hk
        have hne : (Game.reported g pid).receivedM12Pids ≠ ∅ :=
          Finset.ne_empty_of_mem (Game.mem_received_reported g pid)
        split at hk
        · next hsome =>
          subst hk
          exact ⟨⟨fun _ => hne, fun _ => hsome⟩, fun _ => hsub⟩
        · subst hk
          exact ⟨⟨fun _ => hne, fun _ => rfl⟩, fun _ => hsub⟩
      · next hne => exact hother k g' hne hk

theorem Unstuck.expire {l : Lobby} (h : Unstuck l) (id : TimerId) : Unstuck (l.expire id true) := by
  unfold Lobby.expire
  split
  · exact h
  · next t ht =>
    have hmem : t ∈ l.timers := List.mem_of_find?_eq_some ht
    have hid : t.id = id := by simpa using List.find?_some ht
    subst hid
    unfold Lobby.timedOut
    split
    · next hnone => exact ⟨h.1.forget hmem hnone, h.2⟩
    · next g hg =>
      have hg' : l.get t.gatheringId = some g := hg
      have hh := h.1.owned t hmem g hg'
      have hw := h.2 _ g hg'
      have hr : g.receivedM12Pids ≠ ∅ := hw.armed.mp (by rw [hh]; rfl)
      rw [if_neg (not_or.mpr ⟨hr, hw.missing hr⟩), Clock.forget_fire hg' hh]
      exact Unstuck.fire h.1 t.gatheringId fun k g' _ hk => h.2 k g' hk

theorem unstuck_apply {op : LobbyOp} {l : Lobby} (hi : l.registry.WellIndexed)
    (harm : ∀ port pid arm clear, op = .report port pid arm clear → arm = true ∧ clear = true)
    (hexp : ∀ id clear, op = .expire id clear → clear = true) (h : Unstuck l) :
    Unstuck (op.apply l) := by
  by_cases hkeep : op.keepsBatches = true
  · exact h.of_same (op.sameBatches hkeep hi) (op.seq_le_apply l)
  cases op with
  | idle => exact absurd rfl hkeep
  | create => exact absurd rfl hkeep
  | join => exact absurd rfl hkeep
  | leave => exact absurd rfl hkeep
  | destroy => exact absurd rfl hkeep
  | reopen => exact absurd rfl hkeep
  | gone => exact absurd rfl hkeep
  | close gid =>
    have hset : Unstuck (l.mapRegistry fun reg => (reg.setClosed gid true).2) :=
      h.of_same (.of_edit rfl rfl gid _ (GatheringRegistry.get_setClosed l.registry gid true)
        fun _ => rfl) (RegistryOp.seq_apply (.setClosed gid true) _)
    refine ⟨hset.1.update gid _ ?_, ?_⟩
    · intro g
      unfold Game.snapshot
      split <;> rfl
    · intro k g' hk
      rw [LobbyOp.apply, Lobby.get_update] at hk
      split at hk
      · obtain ⟨g, hg, rfl⟩ := Option.map_eq_some_iff.mp hk
        exact (hset.2 gid g hg).snapshot
      · exact hset.2 k g' hk
  | report port pid arm clear =>
    obtain ⟨rfl, rfl⟩ := harm port pid arm clear rfl
    exact h.report hi port pid
  | cancel gid => exact Unstuck.fire h.1 gid fun k g' _ hk => h.2 k g' hk
  | expire id clear =>
    obtain rfl := hexp id clear rfl
    exact h.expire id

/-! ## Every run -/

variable (env : Env)

theorem step_unstuck (hloop : env.loopRunning = true) (e : Event) {w : World}
    (hi : w.lobby.registry.WellIndexed) (h : Failed env w ∨ Unstuck w.lobby) :
    Failed env (step env e w) ∨ Unstuck (step env e w).lobby := by
  rcases h with h | h
  · exact .inl (h.mono env (step_grows env e hi))
  by_cases hf : Failed env (step env e w)
  · exact .inl hf
  right
  obtain ⟨op, hp, hop⟩ := step_lobby env e hi
  rw [hop]
  refine unstuck_apply hi ?_ ?_ h
  · rintro port pid arm clear rfl
    cases hp with
    | request hreq hperf =>
      cases hperf with
      | report _ h1 h2 h3 hc => exact ⟨hloop, hc.resolve_right hf⟩
  · rintro id clear rfl
    cases hp with
    | request hreq hperf => cases hperf
    | expire he hc => exact hc.resolve_right hf

theorem runs_unstuck (hloop : env.loopRunning = true) (es : List Event) (w : World)
    (hw : w.lobby = Lobby.empty) :
    (runs (step env) es w).lobby.registry.WellIndexed ∧
      (Failed env (runs (step env) es w) ∨ Unstuck (runs (step env) es w).lobby) := by
  refine runs_preserves
    (I := fun w => w.lobby.registry.WellIndexed ∧ (Failed env w ∨ Unstuck w.lobby)) ?_ es w ?_
  · rintro e w ⟨hi, h⟩
    exact ⟨step_indexed env e hi, step_unstuck env hloop e hi h⟩
  · rw [hw]
    refine ⟨GatheringRegistry.WellIndexed.empty, .inr ⟨Clock.empty, ?_⟩⟩
    intro k g hg
    cases hg

/-- **No stats batch is ever stuck**: in every state of a run in which the event loop
runs, the database can be read and no push raises. -/
theorem no_batch_stuck (hloop : env.loopRunning = true) (hread : ∀ n, env.readFails n = false)
    (w : World) (hw : w.lobby = Lobby.empty) (es : List Event)
    (hpush : ∀ port c r, .sendFailed port c (.request r) ∉ (runs (step env) es w).trace) :
    (∀ gid g, (runs (step env) es w).lobby.get gid = some g →
      (g.m12TimeoutHandle.isSome = true ↔ g.receivedM12Pids ≠ ∅) ∧
      (g.receivedM12Pids ≠ ∅ → ∃ pid ∈ g.expectedM12Pids, pid ∉ g.receivedM12Pids)) ∧
    (∀ t ∈ (runs (step env) es w).lobby.timers, ∀ t' ∈ (runs (step env) es w).lobby.timers,
      t.gatheringId = t'.gatheringId → t = t') ∧
    (∀ gid g id, (runs (step env) es w).lobby.get gid = some g →
      (g.m12TimeoutHandle = some id ↔
        ∃ t ∈ (runs (step env) es w).lobby.timers, t.id = id ∧ t.gatheringId = gid)) ∧
    (∀ t ∈ (runs (step env) es w).lobby.timers, ∀ g,
      (runs (step env) es w).lobby.get t.gatheringId = some g →
      ¬ (g.receivedM12Pids = ∅ ∨ g.expectedM12Pids ⊆ g.receivedM12Pids) ∧
      ∃ rest, (step env (.timer t.id) (runs (step env) es w)).trace =
        (runs (step env) es w).trace ++ .statsBatch t.gatheringId .timeout g.pids :: rest) := by
  obtain ⟨hi, h⟩ := runs_unstuck env hloop es w hw
  generalize runs (step env) es w = w' at hi h hpush
  have hfail : ¬ Failed env w' := by
    rintro (⟨port, c, r, hm⟩ | ⟨n, hn⟩)
    · exact hpush port c r hm
    · rw [hread] at hn
      cases hn
  obtain ⟨hclock, hwait⟩ := h.resolve_left hfail
  refine ⟨?_, ?_, ?_, ?_⟩
  · intro gid g hg
    have hgw := hwait gid g hg
    refine ⟨hgw.armed, fun hr => ?_⟩
    obtain ⟨pid, h1, h2⟩ := Finset.not_subset.mp (hgw.missing hr)
    exact ⟨pid, h1, h2⟩
  · intro t ht t' ht' he
    exact hclock.eq_of_gathering ht ht' he
  · intro gid g id hg
    constructor
    · exact hclock.armed gid g id hg
    · rintro ⟨t, ht, rfl, rfl⟩
      exact hclock.owned t ht g hg
  · intro t ht g hg
    have hgw := hwait _ g hg
    have hr : g.receivedM12Pids ≠ ∅ := hgw.armed.mp (by rw [hclock.owned t ht g hg]; rfl)
    have hearly := not_or.mpr ⟨hr, hgw.missing hr⟩
    refine ⟨hearly, ?_⟩
    have hfind : (w'.lobby.timers.find? fun t' => t'.id == t.id) = some t := by
      cases hf : w'.lobby.timers.find? fun t' => t'.id == t.id with
      | none =>
        have := List.find?_eq_none.mp hf t ht
        simp at this
      | some t' =>
        have hid : t'.id = t.id := by simpa using List.find?_some hf
        rw [hclock.eq_of_id (List.mem_of_find?_eq_some hf) ht hid]
    exact (expire_spec env t.id w').fires t g hfind hg hearly

/-- A host and a guest, and the host's report. -/
def oneReport : List Event :=
  [.packet .auth (Sample.remote 1) (Sample.data 1 60 4 []),
   .packet .auth (Sample.remote 2) (Sample.data 1 60 5 (wU32 10000)),
   .packet .auth (Sample.remote 1) (Sample.data 2 60 12 [0])]

def isPushFailure : TraceEntry → Bool
  | .sendFailed _ _ (.request _) => true
  | _ => false

theorem no_batch_stuck_after_report :
    ∃ g, (runs (step Sample.env) oneReport (Sample.world
        [Sample.connection .auth 1 10000, Sample.connection .auth 2 10001])).lobby.get 10000 =
          some g ∧ g.receivedM12Pids = {10000} ∧ g.m12TimeoutHandle.isSome = true ∧
      ∃ pid ∈ g.expectedM12Pids, pid ∉ g.receivedM12Pids := by
  have hrun : ((runs (step Sample.env) oneReport (Sample.world
      [Sample.connection .auth 1 10000, Sample.connection .auth 2 10001])).lobby.get 10000).map
        Gathering.receivedM12Pids = some {10000} ∧
      (runs (step Sample.env) oneReport (Sample.world
        [Sample.connection .auth 1 10000, Sample.connection .auth 2 10001])).trace.all
          (fun e => !isPushFailure e) = true := by
    decide +kernel
  obtain ⟨g, hg, hr⟩ := Option.map_eq_some_iff.mp hrun.1
  have hpush : ∀ port c r, .sendFailed port c (.request r) ∉ (runs (step Sample.env) oneReport
      (Sample.world [Sample.connection .auth 1 10000, Sample.connection .auth 2 10001])).trace := by
    intro port c r hm
    have := List.all_eq_true.mp hrun.2 _ hm
    cases this
  have h := (no_batch_stuck Sample.env rfl (fun _ => rfl) _ rfl oneReport hpush).1 10000 g hg
  have hne : g.receivedM12Pids ≠ ∅ := by
    rw [hr]
    exact Finset.singleton_ne_empty _
  exact ⟨g, hg, hr, h.1.mpr hne, h.2 hne⟩

end Timers
end Ghostbusters
