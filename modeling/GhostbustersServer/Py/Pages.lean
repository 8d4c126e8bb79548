import Mathlib.Data.List.Infix
import Mathlib.Data.List.Sort

/-!
# Windows of a list, numbered as in the whole list

    window xs start n      xs[start : start + n]
    numbered xs start      its rows, the first of them number start + 1

    exists_mem_window      whether the first row with a property is in a window
    numbered_window        a row's number is one more than the rows before it in the whole list
    windows_tile           windows side by side are the whole list, numbered from 1
    countP_before_lt       in a sorted list that is more than the rows strictly above it
-/

namespace Py

variable {α : Type}

def window (xs : List α) (start n : Nat) : List α := (xs.drop start).take n

def numbered (xs : List α) (start : Nat) : List (α × Nat) := xs.zipIdx (start + 1)

theorem window_within (xs : List α) (start n : Nat) : window xs start n <:+: xs :=
  (List.take_prefix n _).isInfix.trans (List.drop_suffix start xs).isInfix

theorem length_window_le (xs : List α) (start n : Nat) : (window xs start n).length ≤ n := by
  unfold window
  rw [List.length_take]
  exact Nat.min_le_left _ _

/-- A slice cut short at `count` rows. -/
theorem take_window (xs : List α) (start stop count : Nat) :
    ((xs.take stop).drop start).take count = window xs start (min count (stop - start)) := by
  unfold window
  rw [List.drop_take, List.take_take]

theorem getElem?_window (xs : List α) (start n j : Nat) :
    (window xs start n)[j]? = if j < n then xs[start + j]? else none := by
  unfold window
  rw [List.getElem?_take, List.getElem?_drop]

/-- A window that starts no later than the first row with a property has one if it reaches
that far. -/
theorem exists_mem_window {p : α → Bool} {xs : List α} (h : ∃ x ∈ xs, p x) {start : Nat}
    (hstart : start ≤ xs.findIdx p) (n : Nat) :
    (∃ x ∈ window xs start n, p x) ↔ xs.findIdx p < start + n := by
  have hlt : xs.findIdx p < xs.length := List.findIdx_lt_length_of_exists h
  constructor
  · rintro ⟨x, hx, hpx⟩
    obtain ⟨j, hj⟩ := List.mem_iff_getElem?.mp hx
    rw [getElem?_window] at hj
    split at hj
    · obtain ⟨hlen, rfl⟩ := List.getElem?_eq_some_iff.mp hj
      have hfirst : xs.findIdx p ≤ start + j := by
        by_contra hbefore
        have hnot := List.not_of_lt_findIdx (Nat.not_le.mp hbefore)
        rw [hpx] at hnot
        cases hnot
      omega
    · cases hj
  · intro hreach
    refine ⟨xs[xs.findIdx p], List.mem_iff_getElem?.mpr ⟨xs.findIdx p - start, ?_⟩,
      List.findIdx_getElem⟩
    rw [getElem?_window, if_pos (by omega), Nat.add_sub_cancel' hstart]
    exact List.getElem?_eq_getElem hlt

theorem numbered_window {xs : List α} {start n k : Nat} {x : α}
    (h : (x, k) ∈ numbered (window xs start n) start) :
    ∃ before after, xs = before ++ x :: after ∧ k = before.length + 1 := by
  obtain ⟨hle, hk⟩ := List.mk_mem_zipIdx_iff_le_and_getElem?_sub.mp h
  have hx : xs[k - 1]? = some x := by
    rw [getElem?_window] at hk
    split at hk
    · rwa [show start + (k - (start + 1)) = k - 1 by omega] at hk
    · cases hk
  obtain ⟨hlt, hget⟩ := List.getElem?_eq_some_iff.mp hx
  refine ⟨xs.take (k - 1), xs.drop (k - 1 + 1), ?_, ?_⟩
  · rw [← hget, ← List.drop_eq_getElem_cons hlt, List.take_append_drop]
  · rw [List.length_take]
    omega

theorem windows_tile (xs : List α) (n m : Nat) :
    ((List.range m).flatMap fun k => numbered (window xs (k * n) n) (k * n)) =
      numbered (xs.take (m * n)) 0 := by
  induction m with
  | zero => simp [numbered]
  | succ m ih =>
    have htake : xs.take ((m + 1) * n) = xs.take (m * n) ++ window xs (m * n) n := by
      unfold window
      rw [Nat.succ_mul, List.take_add]
    rw [List.range_succ, List.flatMap_append, ih, List.flatMap_singleton, htake]
    unfold numbered
    rw [List.zipIdx_append]
    congr 1
    -- a window that is not empty starts where the rows before it end
    by_cases hlen : m * n ≤ xs.length
    · rw [List.length_take, Nat.min_eq_left hlen, Nat.zero_add, Nat.add_comm]
    · have hnil : window xs (m * n) n = [] := by
        unfold window
        rw [List.drop_eq_nil_of_le (Nat.le_of_not_le hlen), List.take_nil]
      rw [hnil]
      rfl

/-- Rows that are strictly above one in the order are before it. -/
theorem countP_before_lt {key : α → Nat} {xs before after : List α} {x : α}
    (hs : xs.Pairwise fun a b => key b ≤ key a) (hx : xs = before ++ x :: after) :
    xs.countP (fun y => decide (key x < key y)) < before.length + 1 := by
  subst hx
  have hafter : (x :: after).countP (fun y => decide (key x < key y)) = 0 := by
    rw [List.countP_eq_zero]
    intro y hy
    rw [decide_eq_true_eq, Nat.not_lt]
    rcases List.mem_cons.mp hy with rfl | hy
    · exact Nat.le_refl _
    · exact (List.pairwise_cons.mp (List.pairwise_append.mp hs).2.1).1 y hy
  rw [List.countP_append, hafter]
  exact Nat.lt_succ_of_le List.countP_le_length

end Py
