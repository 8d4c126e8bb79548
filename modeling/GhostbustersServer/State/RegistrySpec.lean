import GhostbustersServer.Py.Runs
import GhostbustersServer.State.Gatherings

/-!
# The registry keeps its index

Over any run of registry operations from the empty registry:

    the index is the inverse of the lobby table     (wellIndexed_runs)
    an id that is no longer live never comes back   (dead_runs)

Every operation is described once by what `get` returns after it (`get_create`,
`get_destroy`, ..); the invariant and the run theorems use these only.
-/

namespace Ghostbusters

open Py

namespace GatheringRegistry

/-- The owner of the lobby stored under an id. -/
def ownerOf (reg : GatheringRegistry) (gid : Nat) : Option Nat := (reg.get gid).map (·.ownerPid)

/-- **The invariant.** -/
structure WellIndexed (reg : GatheringRegistry) : Prop where
  index : ∀ pid gid, reg.ownerPidToId.get? pid = some gid ↔ reg.ownerOf gid = some pid
  ids : ∀ gid g, reg.get gid = some g → g.id = gid
  fresh : ∀ gid ∈ reg.byId.keys, gid < reg.gatheringIdSeq
  sorted : reg.byId.keys.Pairwise (· < ·)

theorem mem_keys_iff (reg : GatheringRegistry) (gid : Nat) :
    gid ∈ reg.byId.keys ↔ reg.get gid ≠ none := by
  unfold get
  rw [ne_eq, Dict.get?_eq_none_iff, not_not]

theorem mem_allGatherings_iff (reg : GatheringRegistry) (g : Gathering) :
    g ∈ reg.allGatherings ↔ ∃ gid, reg.get gid = some g :=
  Dict.mem_values_iff reg.byId g

theorem ownerOf_eq_some_iff (reg : GatheringRegistry) (gid pid : Nat) :
    reg.ownerOf gid = some pid ↔ ∃ g, reg.get gid = some g ∧ g.ownerPid = pid := by
  unfold ownerOf
  rw [Option.map_eq_some_iff]

theorem WellIndexed.lt {reg : GatheringRegistry} (h : reg.WellIndexed) {gid : Nat} {g : Gathering}
    (hg : reg.get gid = some g) : gid < reg.gatheringIdSeq := by
  apply h.fresh
  rw [mem_keys_iff, hg]
  exact Option.some_ne_none g

theorem WellIndexed.get_seq {reg : GatheringRegistry} (h : reg.WellIndexed) :
    reg.get reg.gatheringIdSeq = none := by
  by_contra hne
  exact Nat.lt_irrefl _ (h.fresh _ ((mem_keys_iff _ _).mpr hne))

theorem WellIndexed.empty : empty.WellIndexed where
  index := by
    intro pid gid
    constructor <;> intro h <;> cases h
  ids := by intro gid g h; cases h
  fresh := by intro gid h; cases h
  sorted := List.Pairwise.nil

/-! ## What each operation does to the table -/

theorem get_update (reg : GatheringRegistry) (gid k : Nat) (f : Gathering → Gathering) :
    (reg.update gid f).get k = if k = gid then (reg.get gid).map f else reg.get k :=
  Dict.get?_modify reg.byId gid k f

theorem get_remove (reg : GatheringRegistry) (g : Gathering) (gid k : Nat) :
    (reg.remove g gid).get k = if k = gid then none else reg.get k :=
  Dict.get?_erase reg.byId gid k

/-- The table of `create`, before the new lobby is put into it. -/
def withoutOwned (reg : GatheringRegistry) (ownerPid : Nat) : Dict Nat Gathering :=
  match reg.ownerPidToId.get? ownerPid with
  | some existingId => reg.byId.erase existingId
  | none => reg.byId

theorem get?_withoutOwned (reg : GatheringRegistry) (h : reg.WellIndexed) (ownerPid k : Nat) :
    (reg.withoutOwned ownerPid).get? k =
      if reg.ownerOf k = some ownerPid then none else reg.get k := by
  have hidx := h.index ownerPid k
  unfold withoutOwned
  cases hi : reg.ownerPidToId.get? ownerPid with
  | none =>
    rw [if_neg]
    · rfl
    · rw [← hidx, hi]
      intro hc
      cases hc
  | some gid =>
    show (reg.byId.erase gid).get? k = _
    rw [Dict.get?_erase]
    rw [hi, Option.some.injEq] at hidx
    by_cases hk : k = gid
    · rw [if_pos hk, if_pos (hidx.mp hk.symm)]
    · rw [if_neg hk, if_neg (fun hc => hk (hidx.mpr hc).symm)]
      rfl

theorem fresh_withoutOwned (reg : GatheringRegistry) (h : reg.WellIndexed) (ownerPid : Nat) :
    reg.gatheringIdSeq ∉ (reg.withoutOwned ownerPid).keys := by
  rw [← Dict.get?_eq_none_iff, get?_withoutOwned reg h, h.get_seq]
  split <;> rfl

theorem byId_create (reg : GatheringRegistry) (ownerPid : Nat) (ownerRemote : Remote) (raw : Bytes)
    (hostConn : Option ConnId) :
    (reg.create ownerPid ownerRemote raw hostConn).2.byId =
      (reg.withoutOwned ownerPid).set reg.gatheringIdSeq
        (newGathering reg.gatheringIdSeq ownerPid ownerRemote raw hostConn) := rfl

/-- A new lobby under a fresh id; the one its owner had is gone. -/
theorem get_create (reg : GatheringRegistry) (h : reg.WellIndexed) (ownerPid : Nat)
    (ownerRemote : Remote) (raw : Bytes) (hostConn : Option ConnId) (k : Nat) :
    (reg.create ownerPid ownerRemote raw hostConn).2.get k =
      if k = reg.gatheringIdSeq then
        some (newGathering reg.gatheringIdSeq ownerPid ownerRemote raw hostConn)
      else if reg.ownerOf k = some ownerPid then none else reg.get k := by
  unfold get
  rw [byId_create, Dict.get?_set, get?_withoutOwned reg h]
  rfl

theorem get_addParticipant (reg : GatheringRegistry) (gid pid : Nat) (name : Str) (remote : Remote)
    (conn : Option ConnId) (k : Nat) :
    (reg.addParticipant gid pid name remote conn).2.get k =
      if k = gid then (reg.get gid).map fun g =>
        { g with participants := joined g.participants pid name remote conn }
      else reg.get k := by
  unfold addParticipant
  cases hg : reg.byId.get? gid with
  | none =>
    by_cases hk : k = gid
    · subst hk; simp [get, hg]
    · simp [hk]
  | some g =>
    have hg' : reg.get gid = some g := hg
    simp only [get_update, hg', Option.map_some]

theorem pids_refresh (pid : Nat) (conn : Option ConnId) (ps : List Participant) :
    (joined.refresh pid conn ps).map (·.pid) = ps.map (·.pid) := by
  induction ps with
  | nil => rfl
  | cons p ps ih =>
    unfold joined.refresh
    split
    · rfl
    · rw [List.map_cons, List.map_cons, ih]

/-- The players of a lobby that lets a player in: the same, or the player behind them. -/
theorem pids_joined (ps : List Participant) (pid : Nat) (name : Str) (remote : Remote)
    (conn : ConnId) :
    (joined ps pid name remote (some conn)).map (·.pid) =
      if pid ∈ ps.map (·.pid) then ps.map (·.pid) else ps.map (·.pid) ++ [pid] := by
  have hany : (ps.any fun p => p.pid == pid) = true ↔ pid ∈ ps.map (·.pid) := by
    rw [List.any_eq_true, List.mem_map]
    simp only [beq_iff_eq]
  unfold joined
  by_cases hin : pid ∈ ps.map (·.pid)
  · rw [if_pos (hany.mpr hin), if_pos hin]
    exact pids_refresh pid (some conn) ps
  · rw [if_neg fun h => hin (hany.mp h), if_neg hin, List.map_append]
    rfl

/-- The address that a player has in a list; a newcomer has its own. -/
def listedRemote (ps : List Participant) (pid : Nat) (remote : Remote) : Remote :=
  match ps.find? fun p => p.pid == pid with
  | some p => p.remote
  | none => remote

/-- A player whose entries are all at one address is listed there. -/
theorem listedRemote_of_home {ps : List Participant} {pid : Nat} {remote : Remote}
    (h : ∀ p ∈ ps, p.pid = pid → p.remote = remote) : listedRemote ps pid remote = remote := by
  unfold listedRemote
  split
  · next q hq => exact h q (List.mem_of_find?_eq_some hq) (beq_iff_eq.mp (List.find?_some hq :))
  · rfl

theorem mem_refresh {pid : Nat} {conn : Option ConnId} {ps : List Participant} {p : Participant}
    (h : p ∈ joined.refresh pid conn ps) :
    p ∈ ps ∨ ∃ q, (ps.find? fun p => p.pid == pid) = some q ∧ p = { q with conn := conn } := by
  induction ps with
  | nil => cases h
  | cons q ps ih =>
    unfold joined.refresh at h
    split at h
    · next hq =>
      rcases List.mem_cons.mp h with rfl | h
      · exact .inr ⟨q, List.find?_cons_of_pos (beq_iff_eq.mpr hq), rfl⟩
      · exact .inl (List.mem_cons_of_mem _ h)
    · next hq =>
      rcases List.mem_cons.mp h with rfl | h
      · exact .inl List.mem_cons_self
      · rcases ih h with h | ⟨q', hq', he⟩
        · exact .inl (List.mem_cons_of_mem _ h)
        · exact .inr ⟨q', (List.find?_cons_of_neg (by simpa using hq)).trans hq', he⟩

theorem refresh_mem {pid : Nat} {conn : Option ConnId} {ps : List Participant} {q : Participant}
    (h : (ps.find? fun p => p.pid == pid) = some q) :
    { q with conn := conn } ∈ joined.refresh pid conn ps := by
  induction ps with
  | nil => cases h
  | cons p ps ih =>
    unfold joined.refresh
    split
    · next hp =>
      have hhead : ((p :: ps).find? fun p => p.pid == pid) = some p :=
        List.find?_cons_of_pos (beq_iff_eq.mpr hp)
      cases hhead.symm.trans h
      exact List.mem_cons_self
    · next hp =>
      have htail : ((p :: ps).find? fun p => p.pid == pid) = ps.find? fun p => p.pid == pid :=
        List.find?_cons_of_neg (by simpa using hp)
      exact List.mem_cons_of_mem _ (ih (htail.symm.trans h))

theorem any_pid_iff (ps : List Participant) (pid : Nat) :
    (ps.any fun p => p.pid == pid) = (ps.find? fun p => p.pid == pid).isSome := by
  rw [List.isSome_find?]

/-- Who is in a lobby that lets a player in: someone who was, or the player on its
connection, under the address it is listed with. -/
theorem mem_joined {ps : List Participant} {pid : Nat} {name : Str} {remote : Remote}
    {conn : ConnId} {p : Participant} (h : p ∈ joined ps pid name remote (some conn)) :
    p ∈ ps ∨ (p.pid = pid ∧ p.conn = some conn ∧ p.remote = listedRemote ps pid remote) := by
  unfold listedRemote
  unfold joined at h
  split at h
  · rcases mem_refresh h with h | ⟨q, hq, rfl⟩
    · exact .inl h
    · rw [hq]
      exact .inr ⟨beq_iff_eq.mp (List.find?_some hq :), rfl, rfl⟩
  · next hn =>
    rcases List.mem_append.mp h with h | h
    · exact .inl h
    · rw [any_pid_iff, Bool.not_eq_true, Option.isSome_eq_false_iff, Option.isNone_iff_eq_none] at hn
      rw [List.mem_singleton.mp h, hn]
      exact .inr ⟨rfl, rfl, rfl⟩

/-- The player is in it. -/
theorem exists_joined (ps : List Participant) (pid : Nat) (name : Str) (remote : Remote)
    (conn : ConnId) :
    ∃ p ∈ joined ps pid name remote (some conn), p.pid = pid ∧ p.conn = some conn ∧
      p.remote = listedRemote ps pid remote := by
  unfold joined listedRemote
  rw [any_pid_iff]
  cases hq : ps.find? fun p => p.pid == pid with
  | none =>
    refine ⟨Participant.mk pid name remote (List.replicate 16 0) (some conn), ?_, rfl, rfl, rfl⟩
    exact List.mem_append_right _ (List.mem_singleton_self _)
  | some q =>
    exact ⟨{ q with conn := some conn }, refresh_mem hq, beq_iff_eq.mp (List.find?_some hq :), rfl, rfl⟩

theorem get_removeParticipant (reg : GatheringRegistry) (gid pid k : Nat) :
    (reg.removeParticipant gid pid).2.get k =
      if k = gid then (reg.get gid).map fun g =>
        { g with participants := g.participants.filter fun p => p.pid != pid }
      else reg.get k := by
  unfold removeParticipant
  cases hg : reg.byId.get? gid with
  | none =>
    by_cases hk : k = gid
    · subst hk; simp [get, hg]
    · simp [hk]
  | some g =>
    have hg' : reg.get gid = some g := hg
    simp only [get_update, hg', Option.map_some]

theorem get_setClosed (reg : GatheringRegistry) (gid : Nat) (value : Bool) (k : Nat) :
    (reg.setClosed gid value).2.get k =
      if k = gid then (reg.get gid).map fun g => { g with closed := value } else reg.get k := by
  unfold setClosed
  cases hg : reg.byId.get? gid with
  | none =>
    by_cases hk : k = gid
    · subst hk; simp [get, hg]
    · simp [hk]
  | some g =>
    by_cases hc : g.closed = value
    · by_cases hk : k = gid
      · subst hk; subst hc; simp [get, hg]
      · simp [hc, hk]
    · have hg' : reg.get gid = some g := hg
      simp only [if_neg hc, get_update, hg', Option.map_some]

theorem get_removeParticipantByRemote (reg : GatheringRegistry) (remote : Remote) (k : Nat) :
    (reg.removeParticipantByRemote remote).2.get k = (reg.get k).map (withoutRemote remote) :=
  Dict.get?_mapVals reg.byId (withoutRemote remote) k

theorem get_destroy (reg : GatheringRegistry) (gid k : Nat) :
    (reg.destroy gid).2.get k = if k = gid then none else reg.get k := by
  unfold destroy
  cases hg : reg.byId.get? gid with
  | none =>
    by_cases hk : k = gid
    · subst hk; simp [get, hg]
    · simp [hk]
  | some g => exact get_remove reg g gid k

theorem get_foldl_remove (gs : List Gathering) (reg : GatheringRegistry) (k : Nat) :
    (gs.foldl (fun reg g => reg.remove g g.id) reg).get k =
      if k ∈ gs.map (·.id) then none else reg.get k := by
  induction gs generalizing reg with
  | nil => simp
  | cons g gs ih =>
    rw [List.foldl_cons, ih, get_remove]
    by_cases h1 : k = g.id <;> by_cases h2 : k ∈ gs.map (·.id) <;> simp [h1, h2]

/-- Every lobby owned at the remote is gone, and no other. -/
theorem get_destroyByOwnerRemote (reg : GatheringRegistry) (h : reg.WellIndexed) (remote : Remote)
    (k : Nat) (g : Gathering) :
    (reg.destroyByOwnerRemote remote).2.get k = some g ↔
      reg.get k = some g ∧ g.ownerRemote ≠ remote := by
  have hmem : k ∈ (reg.byId.values.filter fun g => decide (g.ownerRemote = remote)).map (·.id) ↔
      ∃ g, reg.get k = some g ∧ g.ownerRemote = remote := by
    simp only [List.mem_map, List.mem_filter, decide_eq_true_eq]
    constructor
    · rintro ⟨g, ⟨hg, hr⟩, rfl⟩
      obtain ⟨gid, hgid⟩ := (mem_allGatherings_iff reg g).mp hg
      exact ⟨g, by rw [h.ids gid g hgid]; exact hgid, hr⟩
    · rintro ⟨g, hg, hr⟩
      exact ⟨g, ⟨(mem_allGatherings_iff reg g).mpr ⟨k, hg⟩, hr⟩, h.ids k g hg⟩
  unfold destroyByOwnerRemote
  simp only
  rw [get_foldl_remove]
  constructor
  · intro hg
    split at hg
    · cases hg
    · next hnot =>
      exact ⟨hg, fun hr => hnot (hmem.mpr ⟨g, hg, hr⟩)⟩
  · rintro ⟨hg, hr⟩
    rw [if_neg, hg]
    intro hk
    obtain ⟨g', hg', hr'⟩ := hmem.mp hk
    rw [hg] at hg'
    cases hg'
    exact hr hr'

/-! ## The invariant is kept -/

/-- An operation that touches neither an id nor an owner, in a table with the same keys. -/
theorem WellIndexed.of_same {reg reg' : GatheringRegistry} (h : reg.WellIndexed)
    (hkeys : reg'.byId.keys = reg.byId.keys) (hindex : reg'.ownerPidToId = reg.ownerPidToId)
    (hseq : reg'.gatheringIdSeq = reg.gatheringIdSeq)
    (hget : ∀ k, (reg'.get k).map (fun g => (g.id, g.ownerPid)) =
      (reg.get k).map fun g => (g.id, g.ownerPid)) : reg'.WellIndexed where
  index := by
    intro pid gid
    have ho : reg'.ownerOf gid = reg.ownerOf gid := by
      have := congrArg (Option.map Prod.snd) (hget gid)
      rw [Option.map_map, Option.map_map] at this
      exact this
    rw [hindex, ho]
    exact h.index pid gid
  ids := by
    intro gid g' hg'
    have := hget gid
    rw [hg'] at this
    obtain ⟨g, hg, he⟩ := Option.map_eq_some_iff.mp this.symm
    have := h.ids gid g hg
    simp only [Prod.mk.injEq] at he
    omega
  fresh := by rw [hkeys, hseq]; exact h.fresh
  sorted := by rw [hkeys]; exact h.sorted

theorem WellIndexed.update {reg : GatheringRegistry} (h : reg.WellIndexed) (gid : Nat)
    (f : Gathering → Gathering) (hf : ∀ g, (f g).id = g.id ∧ (f g).ownerPid = g.ownerPid) :
    (reg.update gid f).WellIndexed := by
  refine h.of_same (Dict.keys_modify _ _ _) rfl rfl ?_
  intro k
  rw [get_update]
  split
  · next hk =>
    subst hk
    rw [Option.map_map]
    congr 1
    funext g
    simp [hf g]
  · rfl

theorem ownerOf_remove (reg : GatheringRegistry) (g : Gathering) (gid k : Nat) :
    (reg.remove g gid).ownerOf k = if k = gid then none else reg.ownerOf k := by
  unfold ownerOf
  rw [get_remove]
  split <;> rfl

theorem get?_dropOwner (owners : Dict Nat Nat) (ownerPid gid pid : Nat) :
    (dropOwner owners ownerPid gid).get? pid =
      if owners.get? ownerPid = some gid ∧ pid = ownerPid then none else owners.get? pid := by
  unfold dropOwner
  by_cases hd : owners.get? ownerPid = some gid
  · simp [hd, Dict.get?_erase]
  · simp [hd]

theorem WellIndexed.remove {reg : GatheringRegistry} (h : reg.WellIndexed) (g : Gathering)
    (gid : Nat) (hg : ∀ g', reg.get gid = some g' → g'.ownerPid = g.ownerPid) :
    (reg.remove g gid).WellIndexed where
  index := by
    intro pid k
    show (dropOwner reg.ownerPidToId g.ownerPid gid).get? pid = some k ↔ _
    rw [ownerOf_remove, get?_dropOwner]
    by_cases hk : k = gid
    · -- nothing maps to the removed id any more
      subst hk
      rw [if_pos rfl]
      constructor
      · intro hpid
        exfalso
        split at hpid
        · cases hpid
        · next hnot =>
          obtain ⟨g', hg', hp⟩ := (ownerOf_eq_some_iff reg k pid).mp ((h.index pid k).mp hpid)
          have := hg g' hg'
          apply hnot
          rw [← this, hp]
          exact ⟨hpid, rfl⟩
      · intro hnone; cases hnone
    · rw [if_neg hk, ← h.index]
      split
      · next hd =>
        obtain ⟨hd1, rfl⟩ := hd
        rw [hd1]
        constructor
        · intro hnone; cases hnone
        · intro hsome
          exact absurd (Option.some.inj hsome).symm hk
      · rfl
  ids := by
    intro k g' hg'
    rw [get_remove] at hg'
    split at hg'
    · cases hg'
    · exact h.ids k g' hg'
  fresh := by
    intro k hk
    exact h.fresh k ((Dict.entries_erase_sublist reg.byId gid).map Prod.fst |>.subset hk)
  sorted := h.sorted.sublist ((Dict.entries_erase_sublist reg.byId gid).map Prod.fst)

theorem keys_withoutOwned_sublist (reg : GatheringRegistry) (ownerPid : Nat) :
    (reg.withoutOwned ownerPid).keys.Sublist reg.byId.keys := by
  unfold withoutOwned
  split
  · exact (Dict.entries_erase_sublist _ _).map Prod.fst
  · exact List.Sublist.refl _

theorem keys_create (reg : GatheringRegistry) (h : reg.WellIndexed) (ownerPid : Nat)
    (ownerRemote : Remote) (raw : Bytes) (hostConn : Option ConnId) :
    (reg.create ownerPid ownerRemote raw hostConn).2.byId.keys =
      (reg.withoutOwned ownerPid).keys ++ [reg.gatheringIdSeq] := by
  rw [byId_create, Dict.keys_set_of_fresh _ _ _ (fresh_withoutOwned reg h ownerPid)]

/-- The next id is nobody's yet. -/
theorem ownerOf_seq {reg : GatheringRegistry} (h : reg.WellIndexed) :
    reg.ownerOf reg.gatheringIdSeq = none := by
  unfold ownerOf
  rw [h.get_seq]
  rfl

theorem ownerOf_create (reg : GatheringRegistry) (h : reg.WellIndexed) (ownerPid : Nat)
    (ownerRemote : Remote) (raw : Bytes) (hostConn : Option ConnId) (k : Nat) :
    (reg.create ownerPid ownerRemote raw hostConn).2.ownerOf k =
      if k = reg.gatheringIdSeq then some ownerPid
      else if reg.ownerOf k = some ownerPid then none else reg.ownerOf k := by
  conv => lhs; unfold ownerOf
  rw [get_create reg h]
  by_cases h1 : k = reg.gatheringIdSeq
  · simp [h1, newGathering]
  · by_cases h2 : reg.ownerOf k = some ownerPid
    · simp [h1, h2]
    · rw [if_neg h1, if_neg h1, if_neg h2, if_neg h2]
      rfl

theorem WellIndexed.create {reg : GatheringRegistry} (h : reg.WellIndexed) (ownerPid : Nat)
    (ownerRemote : Remote) (raw : Bytes) (hostConn : Option ConnId) :
    (reg.create ownerPid ownerRemote raw hostConn).2.WellIndexed where
  index := by
    intro pid k
    have hi : (reg.create ownerPid ownerRemote raw hostConn).2.ownerPidToId.get? pid =
        if pid = ownerPid then some reg.gatheringIdSeq else reg.ownerPidToId.get? pid :=
      Dict.get?_set reg.ownerPidToId ownerPid pid reg.gatheringIdSeq
    rw [hi, ownerOf_create reg h]
    by_cases hp : pid = ownerPid <;> by_cases hk : k = reg.gatheringIdSeq
    · simp [hp, hk]
    · -- the new owner's only lobby is the new one
      rw [if_pos hp, if_neg hk]
      constructor
      · intro he; exact absurd (Option.some.inj he).symm hk
      · intro ho
        split at ho
        · cases ho
        · next hn => exact absurd (hp ▸ ho) hn
    · rw [if_neg hp, if_pos hk, hk, h.index, ownerOf_seq h]
      constructor
      · intro he; cases he
      · intro he; exact absurd (Option.some.inj he).symm hp
    · rw [if_neg hp, if_neg hk, h.index]
      split
      · next ho =>
        rw [ho]
        constructor
        · intro he; exact absurd (Option.some.inj he).symm hp
        · intro he; cases he
      · rfl
  ids := by
    intro k g hg
    rw [get_create reg h] at hg
    split at hg
    · next hk => cases hg; exact hk.symm
    · split at hg
      · cases hg
      · exact h.ids k g hg
  fresh := by
    intro k hk
    rw [keys_create reg h, List.mem_append, List.mem_singleton] at hk
    show k < reg.gatheringIdSeq + 1
    rcases hk with hk | hk
    · have := h.fresh k ((keys_withoutOwned_sublist reg ownerPid).subset hk)
      omega
    · omega
  sorted := by
    rw [keys_create reg h, List.pairwise_append]
    refine ⟨h.sorted.sublist (keys_withoutOwned_sublist reg ownerPid), List.pairwise_singleton _ _, ?_⟩
    intro a ha b hb
    rw [List.mem_singleton] at hb
    subst hb
    exact h.fresh a ((keys_withoutOwned_sublist reg ownerPid).subset ha)

theorem WellIndexed.addParticipant {reg : GatheringRegistry} (h : reg.WellIndexed) (gid pid : Nat)
    (name : Str) (remote : Remote) (conn : Option ConnId) :
    (reg.addParticipant gid pid name remote conn).2.WellIndexed := by
  unfold GatheringRegistry.addParticipant
  split
  · exact h
  · exact h.update gid _ fun g => ⟨rfl, rfl⟩

theorem WellIndexed.removeParticipant {reg : GatheringRegistry} (h : reg.WellIndexed)
    (gid pid : Nat) : (reg.removeParticipant gid pid).2.WellIndexed := by
  unfold GatheringRegistry.removeParticipant
  split
  · exact h
  · exact h.update gid _ fun g => ⟨rfl, rfl⟩

theorem WellIndexed.setClosed {reg : GatheringRegistry} (h : reg.WellIndexed) (gid : Nat)
    (value : Bool) : (reg.setClosed gid value).2.WellIndexed := by
  unfold GatheringRegistry.setClosed
  split
  · exact h
  · split
    · exact h
    · exact h.update gid _ fun g => ⟨rfl, rfl⟩

theorem withoutRemote_id (remote : Remote) (g : Gathering) :
    (withoutRemote remote g).id = g.id ∧ (withoutRemote remote g).ownerPid = g.ownerPid := by
  unfold withoutRemote
  split <;> exact ⟨rfl, rfl⟩

theorem WellIndexed.removeParticipantByRemote {reg : GatheringRegistry} (h : reg.WellIndexed)
    (remote : Remote) : (reg.removeParticipantByRemote remote).2.WellIndexed := by
  refine h.of_same (Dict.keys_mapVals _ _) rfl rfl ?_
  intro k
  rw [get_removeParticipantByRemote, Option.map_map]
  congr 1
  funext g
  obtain ⟨h1, h2⟩ := withoutRemote_id remote g
  simp [h1, h2]

theorem WellIndexed.destroy {reg : GatheringRegistry} (h : reg.WellIndexed) (gid : Nat) :
    (reg.destroy gid).2.WellIndexed := by
  unfold GatheringRegistry.destroy
  split
  · exact h
  · next g hg =>
    refine h.remove g gid ?_
    intro g' hg'
    have : some g' = some g := hg'.symm.trans hg
    rw [Option.some.inj this]

theorem WellIndexed.foldl_remove {reg : GatheringRegistry} (h : reg.WellIndexed)
    (gs : List Gathering)
    (hgs : ∀ g ∈ gs, ∀ g', reg.get g.id = some g' → g'.ownerPid = g.ownerPid) :
    (gs.foldl (fun reg g => reg.remove g g.id) reg).WellIndexed := by
  induction gs generalizing reg with
  | nil => exact h
  | cons g gs ih =>
    rw [List.foldl_cons]
    refine ih (h.remove g g.id (hgs g List.mem_cons_self)) ?_
    intro x hx g' hg'
    rw [get_remove] at hg'
    split at hg'
    · cases hg'
    · exact hgs x (List.mem_cons_of_mem _ hx) g' hg'

theorem WellIndexed.destroyByOwnerRemote {reg : GatheringRegistry} (h : reg.WellIndexed)
    (remote : Remote) : (reg.destroyByOwnerRemote remote).2.WellIndexed := by
  unfold GatheringRegistry.destroyByOwnerRemote
  refine h.foldl_remove _ ?_
  intro g hg g' hg'
  obtain ⟨gid, hgid⟩ := (mem_allGatherings_iff reg g).mp (List.mem_filter.mp hg).1
  rw [h.ids gid g hgid, hgid] at hg'
  rw [Option.some.inj hg']

theorem WellIndexed.reset {reg : GatheringRegistry} : reg.reset.WellIndexed where
  index := by
    intro pid gid
    constructor <;> intro h <;> cases h
  ids := by intro gid g h; cases h
  fresh := by intro gid h; cases h
  sorted := List.Pairwise.nil

/-! ## Reading through the index -/

theorem WellIndexed.findByOwnerPid_eq_some_iff {reg : GatheringRegistry} (h : reg.WellIndexed)
    (pid : Nat) (g : Gathering) :
    reg.findByOwnerPid pid = some g ↔ g ∈ reg.allGatherings ∧ g.ownerPid = pid := by
  unfold findByOwnerPid
  rw [mem_allGatherings_iff]
  cases hi : reg.ownerPidToId.get? pid with
  | none =>
    constructor
    · intro hc; cases hc
    · rintro ⟨⟨gid, hg⟩, hp⟩
      have := (h.index pid gid).mpr ((ownerOf_eq_some_iff reg gid pid).mpr ⟨g, hg, hp⟩)
      rw [hi] at this
      cases this
  | some gid =>
    obtain ⟨g', hg', hp'⟩ := (ownerOf_eq_some_iff reg gid pid).mp ((h.index pid gid).mp hi)
    show reg.get gid = some g ↔ _
    rw [hg']
    constructor
    · intro he
      cases he
      exact ⟨⟨gid, hg'⟩, hp'⟩
    · rintro ⟨⟨k, hg⟩, hp⟩
      have hk := (h.index pid k).mpr ((ownerOf_eq_some_iff reg k pid).mpr ⟨g, hg, hp⟩)
      rw [hi] at hk
      cases hk
      rw [← hg, hg']

theorem WellIndexed.ids_allGatherings {reg : GatheringRegistry} (h : reg.WellIndexed) :
    reg.allGatherings.map (·.id) = reg.byId.keys := by
  unfold allGatherings Dict.values Dict.keys
  rw [List.map_map]
  apply List.map_congr_left
  intro e he
  exact h.ids e.1 e.2 ((Dict.get?_eq_some_iff _ _ _).mpr he)

/-- An id that was handed out and is not live. -/
def Dead (reg : GatheringRegistry) (gid : Nat) : Prop :=
  gid < reg.gatheringIdSeq ∧ reg.get gid = none

theorem Dead.not_listed {reg : GatheringRegistry} (h : reg.WellIndexed) {gid : Nat}
    (hd : reg.Dead gid) : ∀ g ∈ reg.allGatherings, g.id ≠ gid := by
  rintro g hg rfl
  obtain ⟨k, hk⟩ := (mem_allGatherings_iff reg g).mp hg
  have := hd.2
  rw [h.ids k g hk, hk] at this
  cases this

end GatheringRegistry

/-! ## Runs of operations -/

open GatheringRegistry

inductive RegistryOp where
  | create (ownerPid : Nat) (ownerRemote : Remote) (rawParams : Bytes) (hostConn : Option ConnId)
  | addParticipant (gid pid : Nat) (displayName : Str) (remote : Remote) (conn : Option ConnId)
  | removeParticipant (gid pid : Nat)
  | removeParticipantByRemote (remote : Remote)
  | setClosed (gid : Nat) (value : Bool)
  | destroy (gid : Nat)
  | destroyByOwnerRemote (remote : Remote)
  | reset

namespace RegistryOp

def apply : RegistryOp → GatheringRegistry → GatheringRegistry
  | create pid remote raw conn, reg => (reg.create pid remote raw conn).2
  | addParticipant gid pid name remote conn, reg =>
    (reg.addParticipant gid pid name remote conn).2
  | removeParticipant gid pid, reg => (reg.removeParticipant gid pid).2
  | removeParticipantByRemote remote, reg => (reg.removeParticipantByRemote remote).2
  | setClosed gid value, reg => (reg.setClosed gid value).2
  | destroy gid, reg => (reg.destroy gid).2
  | destroyByOwnerRemote remote, reg => (reg.destroyByOwnerRemote remote).2
  | reset, reg => reg.reset

theorem wellIndexed_apply (op : RegistryOp) (reg : GatheringRegistry) (h : reg.WellIndexed) :
    (op.apply reg).WellIndexed := by
  cases op with
  | create pid remote raw conn => exact h.create pid remote raw conn
  | addParticipant gid pid name remote conn => exact h.addParticipant gid pid name remote conn
  | removeParticipant gid pid => exact h.removeParticipant gid pid
  | removeParticipantByRemote remote => exact h.removeParticipantByRemote remote
  | setClosed gid value => exact h.setClosed gid value
  | destroy gid => exact h.destroy gid
  | destroyByOwnerRemote remote => exact h.destroyByOwnerRemote remote
  | reset => exact WellIndexed.reset

theorem foldl_remove_seq (gs : List Gathering) (reg : GatheringRegistry) :
    (gs.foldl (fun reg g => reg.remove g g.id) reg).gatheringIdSeq = reg.gatheringIdSeq := by
  induction gs generalizing reg with
  | nil => rfl
  | cons g gs ih => rw [List.foldl_cons, ih]; rfl

/-- The id counter never goes back. -/
theorem seq_apply (op : RegistryOp) (reg : GatheringRegistry) :
    reg.gatheringIdSeq ≤ (op.apply reg).gatheringIdSeq := by
  cases op with
  | create pid remote raw conn => exact Nat.le_succ _
  | addParticipant gid pid name remote conn =>
    simp only [apply, GatheringRegistry.addParticipant]
    split <;> exact Nat.le_refl _
  | removeParticipant gid pid =>
    simp only [apply, GatheringRegistry.removeParticipant]
    split <;> exact Nat.le_refl _
  | removeParticipantByRemote remote => exact Nat.le_refl _
  | setClosed gid value =>
    simp only [apply, GatheringRegistry.setClosed]
    split
    · exact Nat.le_refl _
    · split <;> exact Nat.le_refl _
  | destroy gid =>
    simp only [apply, GatheringRegistry.destroy]
    split <;> exact Nat.le_refl _
  | destroyByOwnerRemote remote => exact Nat.le_of_eq (foldl_remove_seq _ _).symm
  | reset => exact Nat.le_refl _

/-- No operation brings a dead id back. -/
theorem dead_apply (op : RegistryOp) (reg : GatheringRegistry) (h : reg.WellIndexed) (gid : Nat)
    (hd : reg.Dead gid) : (op.apply reg).Dead gid := by
  refine ⟨Nat.lt_of_lt_of_le hd.1 (seq_apply op reg), ?_⟩
  obtain ⟨hlt, hnone⟩ := hd
  cases op with
  | create pid remote raw conn =>
    show (reg.create pid remote raw conn).2.get gid = none
    rw [get_create reg h, if_neg (by omega), hnone]
    split <;> rfl
  | addParticipant k pid name remote conn =>
    show (reg.addParticipant k pid name remote conn).2.get gid = none
    rw [get_addParticipant]
    split
    · next hk => rw [← hk, hnone]; rfl
    · exact hnone
  | removeParticipant k pid =>
    show (reg.removeParticipant k pid).2.get gid = none
    rw [get_removeParticipant]
    split
    · next hk => rw [← hk, hnone]; rfl
    · exact hnone
  | removeParticipantByRemote remote =>
    show (reg.removeParticipantByRemote remote).2.get gid = none
    rw [get_removeParticipantByRemote, hnone]
    rfl
  | setClosed k value =>
    show (reg.setClosed k value).2.get gid = none
    rw [get_setClosed]
    split
    · next hk => rw [← hk, hnone]; rfl
    · exact hnone
  | destroy k =>
    show (reg.destroy k).2.get gid = none
    rw [get_destroy, hnone]
    split <;> rfl
  | destroyByOwnerRemote remote =>
    rw [Option.eq_none_iff_forall_ne_some]
    intro g hg
    have := ((get_destroyByOwnerRemote reg h remote gid g).mp hg).1
    rw [hnone] at this
    cases this
  | reset => rfl

theorem wellIndexed_runs (ops : List RegistryOp) (reg : GatheringRegistry) (h : reg.WellIndexed) :
    (runs apply ops reg).WellIndexed := runs_preserves wellIndexed_apply ops reg h

theorem dead_runs (ops : List RegistryOp) (reg : GatheringRegistry) (h : reg.WellIndexed)
    (gid : Nat) (hd : reg.Dead gid) : (runs apply ops reg).Dead gid := by
  have hstep : ∀ op r, r.WellIndexed ∧ r.Dead gid → (apply op r).WellIndexed ∧ (apply op r).Dead gid :=
    fun op r hr => ⟨wellIndexed_apply op r hr.1, dead_apply op r hr.1 gid hr.2⟩
  exact (runs_preserves hstep ops reg ⟨h, hd⟩).2

theorem seq_runs (ops : List RegistryOp) (reg : GatheringRegistry) :
    reg.gatheringIdSeq ≤ (runs apply ops reg).gatheringIdSeq :=
  runs_rel (R := fun a b => a.gatheringIdSeq ≤ b.gatheringIdSeq) (fun _ => Nat.le_refl _)
    (fun _ _ _ => Nat.le_trans) seq_apply ops reg

/-- **The registry index.**  After any run `ops`, the index is the inverse of the
table, an owner has one lobby and is found by it, and ids are listed in order; an id
that `ops'` takes away does not come back in `ops''`. -/
theorem registry_index (ops ops' ops'' : List RegistryOp) :
    let reg := runs apply ops GatheringRegistry.empty
    let reg' := runs apply ops' reg
    let reg'' := runs apply ops'' reg'
    (∀ pid gid, reg.ownerPidToId.get? pid = some gid ↔
      ∃ g, reg.byId.get? gid = some g ∧ g.id = gid ∧ g.ownerPid = pid) ∧
    (∀ g ∈ reg.allGatherings, ∀ g' ∈ reg.allGatherings, g.ownerPid = g'.ownerPid → g = g') ∧
    (∀ g ∈ reg.allGatherings, reg.findByOwnerPid g.ownerPid = some g) ∧
    (reg.allGatherings.map (·.id)).Pairwise (· < ·) ∧
    ∀ gid, reg.get gid ≠ none → reg'.get gid = none →
      reg''.get gid = none ∧ (∀ g ∈ reg''.allGatherings, g.id ≠ gid) ∧
      ∀ pid, (∀ g, reg''.findByOwnerPid pid = some g → g.id ≠ gid) ∧
        ∀ g ∈ reg''.findGatheringsContainingPid pid, g.id ≠ gid := by
  intro reg reg' reg''
  have h : reg.WellIndexed := wellIndexed_runs ops _ WellIndexed.empty
  have h' : reg'.WellIndexed := wellIndexed_runs ops' _ h
  have h'' : reg''.WellIndexed := wellIndexed_runs ops'' _ h'
  refine ⟨?_, ?_, ?_, ?_, ?_⟩
  · intro pid gid
    rw [h.index, ownerOf_eq_some_iff]
    constructor
    · rintro ⟨g, hg, hp⟩
      exact ⟨g, hg, h.ids gid g hg, hp⟩
    · rintro ⟨g, hg, -, hp⟩
      exact ⟨g, hg, hp⟩
  · intro g hg g' hg' hp
    have e := (h.findByOwnerPid_eq_some_iff g'.ownerPid g).mpr ⟨hg, hp⟩
    rw [(h.findByOwnerPid_eq_some_iff g'.ownerPid g').mpr ⟨hg', rfl⟩] at e
    exact (Option.some.inj e).symm
  · intro g hg
    exact (h.findByOwnerPid_eq_some_iff g.ownerPid g).mpr ⟨hg, rfl⟩
  · rw [h.ids_allGatherings]
    exact h.sorted
  · intro gid hlive hgone
    have hlt : gid < reg'.gatheringIdSeq :=
      Nat.lt_of_lt_of_le (h.fresh gid ((mem_keys_iff reg gid).mpr hlive)) (seq_runs ops' reg)
    have hd : reg''.Dead gid := dead_runs ops'' reg' h' gid ⟨hlt, hgone⟩
    refine ⟨hd.2, hd.not_listed h'', ?_⟩
    intro pid
    constructor
    · intro g hg
      exact hd.not_listed h'' g ((h''.findByOwnerPid_eq_some_iff pid g).mp hg).1
    · intro g hg
      exact hd.not_listed h'' g (List.mem_filter.mp hg).1

end RegistryOp
end Ghostbusters
