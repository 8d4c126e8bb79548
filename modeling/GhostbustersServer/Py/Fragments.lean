import GhostbustersServer.Py.Bytes
import Mathlib.Data.List.SplitLengths

/-!
# Bodies cut into fragments

A receiver that keeps one buffer: a fragment that is not the last of its body is
put behind the buffer, the last one empties it.

    assemble [] (cut bodies) = bodies                          (assemble_cut)
    what is assembled in an order of arrival that is safe
    is a prefix of the bodies                                  (assemble_prefix_of_inOrder)
    no other order is safe for every content                   (inOrder_of_assemble_prefix)
-/

namespace Py

/-- Whether a fragment is the last of its body, and what it holds. -/
abbrev Fragment : Type := Bool × Bytes

/-- The bodies a receiver completes, with `buf` in its buffer. -/
def assemble (buf : Bytes) : List Fragment → List Bytes
  | [] => []
  | (true, b) :: fs => (buf ++ b) :: assemble [] fs
  | (false, b) :: fs => assemble (buf ++ b) fs

/-- What is then left in the buffer. -/
def residue (buf : Bytes) : List Fragment → Bytes
  | [] => buf
  | (true, _) :: fs => residue [] fs
  | (false, b) :: fs => residue (buf ++ b) fs

theorem assemble_append (buf : Bytes) (fs gs : List Fragment) :
    assemble buf (fs ++ gs) = assemble buf fs ++ assemble (residue buf fs) gs := by
  induction fs generalizing buf with
  | nil => rfl
  | cons f fs ih =>
    obtain ⟨last, b⟩ := f
    cases last
    · exact ih (buf ++ b)
    · show (buf ++ b) :: assemble [] (fs ++ gs) = _
      rw [ih]
      rfl

theorem residue_append (buf : Bytes) (fs gs : List Fragment) :
    residue buf (fs ++ gs) = residue (residue buf fs) gs := by
  induction fs generalizing buf with
  | nil => rfl
  | cons f fs ih =>
    obtain ⟨last, b⟩ := f
    cases last
    · exact ih (buf ++ b)
    · exact ih []

/-- Fragments that are all followed by more complete nothing. -/
theorem assemble_open (buf : Bytes) (fs : List Fragment) (h : ∀ f ∈ fs, f.1 = false) :
    assemble buf fs = [] := by
  induction fs generalizing buf with
  | nil => rfl
  | cons f fs ih =>
    obtain ⟨last, b⟩ := f
    have hl : last = false := h _ List.mem_cons_self
    subst hl
    exact ih (buf ++ b) fun g hg => h g (List.mem_cons_of_mem _ hg)

/-- The first body that is completed ends with the first last fragment. -/
theorem assemble_eq_cons {buf : Bytes} {fs : List Fragment} {b : Bytes} {bs : List Bytes}
    (h : assemble buf fs = b :: bs) :
    ∃ gs f hs, fs = gs ++ f :: hs ∧ (∀ g ∈ gs, g.1 = false) ∧ f.1 = true ∧
      b = buf ++ (gs ++ [f]).flatMap (·.2) := by
  induction fs generalizing buf with
  | nil => cases h
  | cons f fs ih =>
    obtain ⟨last, x⟩ := f
    cases last
    · have hrest : assemble (buf ++ x) fs = b :: bs := h
      obtain ⟨gs, f, hs, hfs, hgs, hf, hb⟩ := ih hrest
      refine ⟨(false, x) :: gs, f, hs, by rw [hfs]; rfl, ?_, hf, ?_⟩
      · intro g hg
        rcases List.mem_cons.mp hg with rfl | hg
        · rfl
        · exact hgs g hg
      · rw [hb]
        simp
    · injection h with hb hbs
      exact ⟨[], (true, x), fs, rfl, by simp, rfl, by simp [← hb]⟩

/-! ## Cutting -/

/-- One bit for each fragment of bodies of the given lengths: whether it is the last. -/
def lasts (shape : List Nat) : List Bool :=
  shape.flatMap fun n => List.replicate (n - 1) false ++ [true]

theorem lasts_cons (n : Nat) (shape : List Nat) :
    lasts (n :: shape) = List.replicate (n - 1) false ++ [true] ++ lasts shape := rfl

theorem lasts_length (shape : List Nat) (h : ∀ n ∈ shape, 0 < n) :
    (lasts shape).length = shape.sum := by
  induction shape with
  | nil => rfl
  | cons n shape ih =>
    have hn := h n List.mem_cons_self
    rw [lasts_cons, List.length_append, ih fun m hm => h m (List.mem_cons_of_mem _ hm)]
    simp
    omega

/-- The fragments of bodies, in order. -/
def cut (bodies : List (List Bytes)) : List Fragment :=
  (lasts (bodies.map List.length)).zip bodies.flatten

/-- One body, from any buffer. -/
theorem assemble_body (buf : Bytes) (fs : List Bytes) (rest : List Fragment) (h : fs ≠ []) :
    assemble buf ((List.replicate (fs.length - 1) false ++ [true]).zip fs ++ rest) =
      (buf ++ fs.flatten) :: assemble [] rest := by
  induction fs generalizing buf with
  | nil => exact absurd rfl h
  | cons f fs ih =>
    cases fs with
    | nil => simp [assemble]
    | cons f' fs =>
      have := ih (buf ++ f) (by simp)
      simp only [List.length_cons, Nat.add_sub_cancel, List.replicate_succ, List.cons_append,
        List.zip_cons_cons, assemble, List.flatten_cons] at this ⊢
      rw [this, List.append_assoc]

/-- The fragments of one body. -/
def pieces (fs : List Bytes) : List Fragment := (List.replicate (fs.length - 1) false ++ [true]).zip fs

theorem cut_cons {fs : List Bytes} (h : fs ≠ []) (bodies : List (List Bytes)) :
    cut (fs :: bodies) = pieces fs ++ cut bodies := by
  have hpos : 0 < fs.length := List.length_pos_of_ne_nil h
  unfold cut pieces
  rw [List.map_cons, lasts_cons, List.flatten_cons, List.zip_append (by simp; omega)]

theorem assemble_cut (bodies : List (List Bytes)) (h : ∀ fs ∈ bodies, fs ≠ []) :
    assemble [] (cut bodies) = bodies.map List.flatten := by
  induction bodies with
  | nil => rfl
  | cons fs bodies ih =>
    have hfs := h fs List.mem_cons_self
    rw [cut_cons hfs, pieces, assemble_body _ _ _ hfs, ih fun gs hgs => h gs (List.mem_cons_of_mem _ hgs)]
    rfl

/-- The last fragment empties the buffer. -/
theorem residue_pieces (buf : Bytes) (fs : List Bytes) (h : fs ≠ []) : residue buf (pieces fs) = [] := by
  induction fs generalizing buf with
  | nil => exact absurd rfl h
  | cons f fs ih =>
    cases fs with
    | nil => rfl
    | cons f' fs => exact ih (buf ++ f) (by simp)

/-! ## Contents that tell every fragment apart -/

/-- The `i`-th of a family of byte strings, no sequence of which reads as another. -/
def unary (i : Nat) : Bytes := List.replicate i 1 ++ [0]

theorem unary_append_inj {i j : Nat} {a b : Bytes} (h : unary i ++ a = unary j ++ b) :
    i = j ∧ a = b := by
  induction i generalizing j with
  | zero =>
    cases j with
    | zero => exact ⟨rfl, by simpa [unary] using h⟩
    | succ j => simp [unary, List.replicate_succ] at h
  | succ i ih =>
    cases j with
    | zero => simp [unary, List.replicate_succ] at h
    | succ j =>
      have h' : unary i ++ a = unary j ++ b := by
        simpa [unary, List.replicate_succ] using h
      obtain ⟨hij, hab⟩ := ih h'
      exact ⟨by rw [hij], hab⟩

theorem flatMap_unary_inj {xs ys : List Nat} (h : xs.flatMap unary = ys.flatMap unary) :
    xs = ys := by
  induction xs generalizing ys with
  | nil =>
    cases ys with
    | nil => rfl
    | cons y ys => simp [unary] at h
  | cons x xs ih =>
    cases ys with
    | nil => simp [unary] at h
    | cons y ys =>
      rw [List.flatMap_cons, List.flatMap_cons] at h
      obtain ⟨hxy, hrest⟩ := unary_append_inj h
      rw [hxy, ih hrest]

/-! ## Orders of arrival -/

/-- Every fragment in its place: the first `n` in order, and behind them none that
is the last of its body. -/
def InOrder (shape arrival : List Nat) : Prop :=
  ∃ n tail, arrival = List.range n ++ tail ∧ ∀ i ∈ tail, (lasts shape).getD i false = false

/-- An order as far as it counts up from 0. -/
theorem exists_range_append (arrival : List Nat) (m : Nat) :
    ∃ n tail, arrival = List.range' m n ++ tail ∧ tail.head? ≠ some (m + n) := by
  induction arrival generalizing m with
  | nil => exact ⟨0, [], rfl, by simp⟩
  | cons i arrival ih =>
    by_cases hi : i = m
    · obtain ⟨n, tail, ha, ht⟩ := ih (m + 1)
      refine ⟨n + 1, tail, ?_, ?_⟩
      · rw [ha, hi, List.range'_succ]
        rfl
      · rw [show m + (n + 1) = m + 1 + n by omega]
        exact ht
    · exact ⟨0, i :: arrival, rfl, by simpa using hi⟩

theorem assemble_eq_nil {buf : Bytes} {fs : List Fragment} (h : assemble buf fs = []) :
    ∀ f ∈ fs, f.1 = false := by
  induction fs generalizing buf with
  | nil => simp
  | cons f fs ih =>
    obtain ⟨last, b⟩ := f
    cases last
    · have hrest : assemble (buf ++ b) fs = [] := h
      intro g hg
      rcases List.mem_cons.mp hg with rfl | hg
      · rfl
      · exact ih hrest g hg
    · cases h

section
variable (shape : List Nat) (content : Nat → Bytes)

/-- The `i`-th fragment. -/
def fragment (i : Nat) : Fragment := ((lasts shape).getD i false, content i)

theorem map_fragment_range (bodies : List (List Bytes)) (h : ∀ fs ∈ bodies, fs ≠ []) :
    (List.range (bodies.map List.length).sum).map
      (fragment (bodies.map List.length) fun i => bodies.flatten.getD i []) = cut bodies := by
  have hl : (lasts (bodies.map List.length)).length = (bodies.map List.length).sum := by
    apply lasts_length
    intro n hn
    obtain ⟨fs, hfs, rfl⟩ := List.mem_map.mp hn
    exact List.length_pos_of_ne_nil (h fs hfs)
  have hf : bodies.flatten.length = (bodies.map List.length).sum := List.length_flatten
  apply List.ext_getElem
  · simp [cut, hl, hf]
  · intro i h1 h2
    simp only [List.length_map, List.length_range] at h1
    simp [cut, fragment, List.getD_eq_getElem?_getD, hl, hf, h1]

theorem lt_of_range {n m : Nat} {tail : List Nat} (h : ∀ i ∈ List.range n ++ tail, i < m) :
    n ≤ m := by
  cases n with
  | zero => exact Nat.zero_le _
  | succ n => exact h n (List.mem_append_left _ (List.mem_range.mpr (Nat.lt_succ_self n)))

theorem range_split {n m : Nat} (h : n ≤ m) : List.range m = List.range n ++ List.range' n (m - n) := by
  have happ := @List.range'_append_1 0 n (m - n)
  rw [Nat.zero_add, Nat.add_sub_cancel' h] at happ
  rw [List.range_eq_range', List.range_eq_range', happ]

/-- Nothing out of order is completed. -/
theorem assemble_prefix_of_inOrder {arrival : List Nat} (hlt : ∀ i ∈ arrival, i < shape.sum)
    (h : InOrder shape arrival) :
    assemble [] (arrival.map (fragment shape content)) <+:
      assemble [] ((List.range shape.sum).map (fragment shape content)) := by
  obtain ⟨n, tail, rfl, htail⟩ := h
  have hn : n ≤ shape.sum := lt_of_range hlt
  rw [range_split hn, List.map_append, List.map_append, assemble_append, assemble_append]
  have hopen : assemble (residue [] ((List.range n).map (fragment shape content)))
      (tail.map (fragment shape content)) = [] := by
    apply assemble_open
    intro f hf
    obtain ⟨i, hi, rfl⟩ := List.mem_map.mp hf
    exact htail i hi
  rw [hopen, List.append_nil]
  exact List.prefix_append _ _

/-- The first body completed out of a list of places takes its fragments from the
front of it. -/
theorem assemble_map_eq_cons {buf : Bytes} {is : List Nat} {b : Bytes} {bs : List Bytes}
    (h : assemble buf (is.map (fragment shape content)) = b :: bs) :
    ∃ js ks, is = js ++ ks ∧ js ≠ [] ∧ b = buf ++ js.flatMap content := by
  obtain ⟨gs, f, hs, hfs, -, -, hb⟩ := assemble_eq_cons h
  rw [show gs ++ f :: hs = (gs ++ [f]) ++ hs by simp] at hfs
  obtain ⟨js, ks, rfl, hjs, -⟩ := List.map_eq_append_iff.mp hfs
  refine ⟨js, ks, rfl, ?_, ?_⟩
  · rintro rfl
    simp at hjs
  · rw [hb, ← hjs, List.flatMap_map]
    rfl

/-- **Only the order itself is safe**: with contents that tell the fragments apart,
any other arrival completes a body that is not the next one. -/
theorem inOrder_of_assemble_prefix {arrival : List Nat} (hlt : ∀ i ∈ arrival, i < shape.sum)
    (h : assemble [] (arrival.map (fragment shape unary)) <+:
      assemble [] ((List.range shape.sum).map (fragment shape unary))) : InOrder shape arrival := by
  obtain ⟨n, tail, rfl, hhead⟩ := exists_range_append arrival 0
  rw [← List.range_eq_range'] at h hlt ⊢
  refine ⟨n, tail, rfl, ?_⟩
  have hn : n ≤ shape.sum := lt_of_range hlt
  rw [range_split hn, List.map_append, List.map_append, assemble_append, assemble_append,
    List.prefix_append_right_inj] at h
  cases htail : assemble (residue [] ((List.range n).map (fragment shape unary)))
      (tail.map (fragment shape unary)) with
  | nil =>
    intro i hi
    exact assemble_eq_nil htail (fragment shape unary i) (List.mem_map_of_mem hi)
  | cons b bs =>
    exfalso
    rw [htail] at h
    obtain ⟨bs', hbs'⟩ := h
    obtain ⟨js, ks, hjk, hjs, hb⟩ := assemble_map_eq_cons shape unary htail
    obtain ⟨js', ks', hjk', hjs', hb'⟩ := assemble_map_eq_cons shape unary hbs'.symm
    have hsame : js = js' := by
      apply flatMap_unary_inj
      rw [hb] at hb'
      exact List.append_cancel_left hb'
    -- so the tail starts with the next fragment of the order
    have hnext : js'.head? = some n := by
      cases js' with
      | nil => exact absurd rfl hjs'
      | cons j js' =>
        have : (List.range' n (shape.sum - n)).head? = some j := by rw [hjk']; rfl
        cases hk : shape.sum - n with
        | zero => rw [hk] at this; cases this
        | succ k =>
          rw [hk, List.range'_succ] at this
          exact this.symm
    apply hhead
    rw [hjk, hsame, Nat.zero_add]
    cases js' with
    | nil => exact absurd rfl hjs'
    | cons j js' => exact hnext

end
end Py
