import Mathlib.Data.Finset.SDiff
import Mathlib.Data.List.Nodup
import Mathlib.Data.Finset.Dedup
import Mathlib.Logic.Function.Basic

/-!
# Numbered messages

A sender keeps a counter for each recipient, and puts the count on every message to it.

    Sound.bump      a counter goes up
    Sound.issue     recipients whose counters are ahead of what they were sent get a message

Both keep the numbers of each recipient increasing from above 0.
-/

namespace Py

/-- The messages in order, the counters, and whose counter has gone up since its last message. -/
structure Ledger (κ : Type) where
  log : List (κ × Nat)
  counter : κ → Nat
  ahead : Finset κ

namespace Ledger

variable {κ : Type} [DecidableEq κ]

def bump (L : Ledger κ) (k : κ) : Ledger κ where
  log := L.log
  counter := Function.update L.counter k (L.counter k + 1)
  ahead := insert k L.ahead

/-- One message to each. -/
def issue (L : Ledger κ) (ks : List κ) : Ledger κ where
  log := L.log ++ ks.map fun k => (k, L.counter k)
  counter := L.counter
  ahead := L.ahead \ ks.toFinset

/-- The numbers on the messages to `k`. -/
def sentTo (k : κ) (log : List (κ × Nat)) : List Nat := (log.filter fun m => m.1 = k).map (·.2)

structure Sound (L : Ledger κ) : Prop where
  increasing : L.log.Pairwise fun m n => m.1 = n.1 → m.2 < n.2
  bounded : ∀ m ∈ L.log, 0 < m.2 ∧ m.2 ≤ L.counter m.1
  ahead : ∀ k ∈ L.ahead, 0 < L.counter k ∧ ∀ m ∈ L.log, m.1 = k → m.2 < L.counter k

variable {L : Ledger κ}

theorem Sound.bump (h : L.Sound) (k : κ) : (L.bump k).Sound := by
  have hle : ∀ i, L.counter i ≤ (L.bump k).counter i := by
    intro i
    unfold Ledger.bump
    dsimp only
    rw [Function.update_apply]
    split
    · next hi => rw [hi]; exact Nat.le_succ _
    · exact Nat.le_refl _
  refine ⟨h.increasing, ?_, ?_⟩
  · intro m hm
    obtain ⟨hpos, hcount⟩ := h.bounded m hm
    exact ⟨hpos, hcount.trans (hle m.1)⟩
  · intro i hi
    by_cases hk : i = k
    · subst hk
      have hself : (L.bump i).counter i = L.counter i + 1 := Function.update_self _ _ _
      rw [hself]
      refine ⟨Nat.succ_pos _, ?_⟩
      rintro m hm rfl
      exact Nat.lt_succ_of_le (h.bounded m hm).2
    · have hother : (L.bump k).counter i = L.counter i := Function.update_of_ne hk _ _
      rw [hother]
      exact h.ahead i ((Finset.mem_insert.mp hi).resolve_left hk)

/-- **A batch.** -/
theorem Sound.issue (h : L.Sound) {ks : List κ} (hn : ks.Nodup) (ha : ∀ k ∈ ks, k ∈ L.ahead) :
    (L.issue ks).Sound := by
  refine ⟨?_, ?_, ?_⟩
  · refine List.pairwise_append.mpr ⟨h.increasing, ?_, ?_⟩
    · refine List.pairwise_map.mpr (hn.imp fun hne he => ?_)
      exact absurd he hne
    · intro m hm n hin he
      obtain ⟨k, hk, rfl⟩ := List.mem_map.mp hin
      exact (h.ahead k (ha k hk)).2 m hm he
  · intro m hm
    rcases List.mem_append.mp hm with hm | hm
    · exact h.bounded m hm
    · obtain ⟨k, hk, rfl⟩ := List.mem_map.mp hm
      exact ⟨(h.ahead k (ha k hk)).1, Nat.le_refl _⟩
  · intro k hk
    obtain ⟨hin, hout⟩ := Finset.mem_sdiff.mp hk
    obtain ⟨hpos, hlt⟩ := h.ahead k hin
    refine ⟨hpos, ?_⟩
    rintro m hm rfl
    rcases List.mem_append.mp hm with hm | hm
    · exact hlt m hm rfl
    · obtain ⟨i, hi, rfl⟩ := List.mem_map.mp hm
      exact absurd (List.mem_toFinset.mpr hi) hout

/-- **What each recipient sees.** -/
theorem Sound.sentTo (h : L.Sound) (k : κ) : (0 :: Ledger.sentTo k L.log).Pairwise (· < ·) := by
  refine List.pairwise_cons.mpr ⟨?_, ?_⟩
  · intro v hv
    obtain ⟨m, hm, rfl⟩ := List.mem_map.mp hv
    exact (h.bounded m (List.mem_filter.mp hm).1).1
  · refine List.pairwise_map.mpr ((h.increasing.filter _).imp_of_mem ?_)
    intro m n hm hin hlt
    have hk : ∀ {x : κ × Nat}, x ∈ L.log.filter (fun m => m.1 = k) → x.1 = k := fun hx =>
      of_decide_eq_true (List.mem_filter.mp hx).2
    exact hlt ((hk hm).trans (hk hin).symm)

end Ledger
end Py
