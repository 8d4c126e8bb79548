import GhostbustersServer.Py.Bytes

/-!
# Readers of a byte string

A reader looks at a whole byte string from an offset on, and returns what it has read and
the offset behind it.

    Local p           p looks at nothing but what it reads
    Reads p enc a     p reads enc as a, whatever stands before it and behind it

    reads_iff         of a local reader: exactly when it reads enc alone as a
    Reads.bind        one reader after another
    Reads.many        a reader n times
-/

namespace Py

abbrev Cursor (α : Type) : Type := Bytes → Nat → Except Exc (α × Nat)

namespace Cursor

section
variable {α β : Type}

def pure (a : α) : Cursor α := fun _ off => .ok (a, off)

def bind (p : Cursor α) (f : α → Cursor β) : Cursor β := fun b off => do
  let (a, off) ← p b off
  f a b off

/-- An integer of `n` bytes. -/
def int (n : Nat) : Cursor Nat := fun b off => do
  let v ← unpackFrom n b off
  return (v, off + n)

/-- The next `n` bytes. -/
def bytes (n : Nat) : Cursor Bytes := fun b off =>
  if off + n ≤ b.length then .ok (slice b off (off + n), off + n) else .error .structError

/-- The next `n` bytes are passed over, there or not. -/
def skip (n : Nat) : Cursor Unit := fun _ off => .ok ((), off + n)

/-- Nothing is read. -/
def check (c : Bool) : Cursor Unit := fun _ off => if c then .ok ((), off) else .error .valueError

/-- A reader `n` times. -/
def many (p : Cursor α) : Nat → Cursor (List α)
  | 0 => pure []
  | n + 1 => p.bind fun a => (many p n).bind fun as => pure (a :: as)

/-- The whole of a byte string. -/
def whole (p : Cursor α) (b : Bytes) : Option α :=
  match p b 0 with
  | .ok (a, off) => if off = b.length then some a else none
  | .error _ => none

theorem whole_eq_some {p : Cursor α} {b : Bytes} {a : α} :
    p.whole b = some a ↔ p b 0 = .ok (a, b.length) := by
  unfold whole
  cases p b 0 with
  | error e => simp
  | ok r =>
    obtain ⟨a', off⟩ := r
    simp only [Except.ok.injEq, Prod.mk.injEq]
    split
    · next h => simp [h]
    · next h => simp [h]

theorem bind_eq_ok {p : Cursor α} {f : α → Cursor β} {s : Bytes} {off : Nat} {r : β × Nat} :
    p.bind f s off = .ok r ↔ ∃ a off', p s off = .ok (a, off') ∧ f a s off' = .ok r := by
  unfold bind
  cases p s off with
  | error e => simp [Bind.bind, Except.bind]
  | ok q => exact ⟨fun h => ⟨q.1, q.2, rfl, h⟩, fun ⟨_, _, h1, h2⟩ => by cases h1; exact h2⟩

theorem int_eq_ok {n : Nat} {s : Bytes} {off v off' : Nat} :
    int n s off = .ok (v, off') ↔
      off + n ≤ s.length ∧ v = ofLE (slice s off (off + n)) ∧ off' = off + n := by
  unfold int unpackFrom
  split
  · next h =>
    show Except.ok _ = _ ↔ _
    rw [Except.ok.injEq, Prod.mk.injEq]
    exact ⟨fun ⟨h1, h2⟩ => ⟨h, h1.symm, h2.symm⟩, fun ⟨_, h1, h2⟩ => ⟨h1.symm, h2.symm⟩⟩
  · next h => exact iff_of_false (fun h' => by cases h') fun h' => h h'.1

theorem bytes_eq_ok {n : Nat} {s : Bytes} {off : Nat} {v : Bytes} {off' : Nat} :
    bytes n s off = .ok (v, off') ↔
      off + n ≤ s.length ∧ v = slice s off (off + n) ∧ off' = off + n := by
  unfold bytes
  split
  · next h =>
    rw [Except.ok.injEq, Prod.mk.injEq]
    exact ⟨fun ⟨h1, h2⟩ => ⟨h, h1.symm, h2.symm⟩, fun ⟨_, h1, h2⟩ => ⟨h1.symm, h2.symm⟩⟩
  · next h => exact iff_of_false (fun h' => by cases h') fun h' => h h'.1

theorem pure_eq_ok {a b : α} {s : Bytes} {off off' : Nat} :
    pure a s off = .ok (b, off') ↔ a = b ∧ off = off' := by
  unfold pure
  rw [Except.ok.injEq, Prod.mk.injEq]

/-! ## Local readers -/

/-- Neither what stands before matters, nor, to a reader that has succeeded, what stands
behind. -/
structure Local (p : Cursor α) : Prop where
  before : ∀ pre s off,
    p (pre ++ s) (pre.length + off) = (p s off).map fun r => (r.1, pre.length + r.2)
  behind : ∀ s post off r, p s off = .ok r → p (s ++ post) off = .ok r

theorem slice_before (pre s : Bytes) (i j : Nat) :
    slice (pre ++ s) (pre.length + i) (pre.length + j) = slice s i j := by
  unfold slice
  rw [List.take_length_add_append, List.drop_length_add_append]

theorem slice_behind (s post : Bytes) (i j : Nat) (h : j ≤ s.length) :
    slice (s ++ post) i j = slice s i j := by
  unfold slice
  rw [List.take_append_of_le_length h]

theorem Local.pure (a : α) : Local (Cursor.pure a) where
  before _ _ _ := rfl
  behind _ _ _ _ h := h

theorem Local.check (c : Bool) : Local (check c) where
  before _ _ _ := by
    unfold Cursor.check
    split <;> rfl
  behind _ _ _ _ h := h

theorem Local.int (n : Nat) : Local (int n) where
  before pre s off := by
    unfold Cursor.int unpackFrom
    rw [Nat.add_assoc, slice_before, List.length_append]
    by_cases h : off + n ≤ s.length
    · rw [if_pos h, if_pos (by omega)]
      rfl
    · rw [if_neg h, if_neg (by omega)]
      rfl
  behind s post off r h := by
    obtain ⟨hlen, hv, hoff⟩ := int_eq_ok.mp h
    refine int_eq_ok.mpr ⟨?_, ?_, hoff⟩
    · rw [List.length_append]
      omega
    · rw [hv, slice_behind _ _ _ _ hlen]

theorem Local.bytes (n : Nat) : Local (bytes n) where
  before pre s off := by
    unfold Cursor.bytes
    rw [Nat.add_assoc, slice_before, List.length_append]
    by_cases h : off + n ≤ s.length
    · rw [if_pos h, if_pos (by omega)]
      rfl
    · rw [if_neg h, if_neg (by omega)]
      rfl
  behind s post off r h := by
    obtain ⟨hlen, hv, hoff⟩ := bytes_eq_ok.mp h
    refine bytes_eq_ok.mpr ⟨?_, ?_, hoff⟩
    · rw [List.length_append]
      omega
    · rw [hv, slice_behind _ _ _ _ hlen]

theorem Local.bind {p : Cursor α} {f : α → Cursor β} (hp : Local p) (hf : ∀ a, Local (f a)) :
    Local (p.bind f) where
  before pre s off := by
    unfold Cursor.bind
    rw [hp.before]
    cases p s off with
    | error e => rfl
    | ok r => exact (hf r.1).before pre s r.2
  behind s post off r h := by
    obtain ⟨a, mid, h1, h2⟩ := bind_eq_ok.mp h
    exact bind_eq_ok.mpr ⟨a, mid, hp.behind s post off _ h1, (hf a).behind s post mid r h2⟩

theorem Local.many {p : Cursor α} (hp : Local p) (n : Nat) : Local (p.many n) := by
  induction n with
  | zero => exact Local.pure []
  | succ n ih => exact hp.bind fun a => ih.bind fun as => Local.pure (a :: as)

end
end Cursor

/-! ## What is read of an encoding -/

section
variable {α β : Type}

def Reads (p : Cursor α) (enc : Bytes) (a : α) : Prop :=
  ∀ pre post, p (pre ++ enc ++ post) pre.length = .ok (a, pre.length + enc.length)

theorem Reads.whole {p : Cursor α} {enc : Bytes} {a : α} (h : Reads p enc a) :
    p.whole enc = some a := by
  have h0 := h [] []
  rw [List.nil_append, List.append_nil, List.length_nil, Nat.zero_add] at h0
  exact Cursor.whole_eq_some.mpr h0

/-- **What is read alone is read anywhere.** -/
theorem reads_iff {p : Cursor α} (hp : Cursor.Local p) {enc : Bytes} {a : α} :
    Reads p enc a ↔ p.whole enc = some a :=
  ⟨Reads.whole, fun h pre post => by
    have h0 := hp.before pre enc 0
    rw [Cursor.whole_eq_some.mp h] at h0
    exact hp.behind _ post _ _ h0⟩

/-- What is behind an encoding is read alone. -/
theorem Reads.whole_bind {p : Cursor α} {f : α → Cursor β} {x y : Bytes} {a : α}
    (hp : Reads p x a) (hf : Cursor.Local (f a)) : (p.bind f).whole (x ++ y) = (f a).whole y := by
  have h1 := hp [] y
  have h2 := hf.before x y 0
  rw [List.nil_append, List.length_nil, Nat.zero_add] at h1
  unfold Cursor.whole Cursor.bind
  rw [h1]
  show (match f a (x ++ y) (x.length + 0) with | .ok (b, off) => _ | .error _ => none) = _
  rw [h2]
  cases f a y 0 with
  | error e => rfl
  | ok r =>
    simp only [Except.map, List.length_append, Nat.add_left_cancel_iff]

theorem Reads.pure (a : α) : Reads (Cursor.pure a) [] a := fun _ _ => rfl

theorem Reads.check_bind {c : Bool} {f : Unit → Cursor β} {y : Bytes} {b : β} (h : c = true)
    (hf : Reads (f ()) y b) : Reads ((Cursor.check c).bind f) y b := by
  intro pre post
  unfold Cursor.bind Cursor.check
  rw [if_pos h]
  exact hf pre post

theorem Reads.bind {p : Cursor α} {f : α → Cursor β} {x y : Bytes} {a : α} {b : β}
    (hp : Reads p x a) (hf : Reads (f a) y b) : Reads (p.bind f) (x ++ y) b := by
  intro pre post
  have h1 := hp pre (y ++ post)
  have h2 := hf (pre ++ x) post
  rw [List.length_append] at h2
  refine Cursor.bind_eq_ok.mpr ⟨a, pre.length + x.length, ?_, ?_⟩
  · rw [← h1]
    simp only [List.append_assoc]
  · rw [← List.append_assoc, h2, List.length_append, Nat.add_assoc]

/-- The last reader of a chain. -/
theorem Reads.bind_pure {p : Cursor α} {x : Bytes} {a : α} (hp : Reads p x a) (f : α → β) :
    Reads (p.bind fun a => Cursor.pure (f a)) x (f a) := by
  have h := hp.bind (f := fun a => Cursor.pure (f a)) (Reads.pure (f a))
  rwa [List.append_nil] at h

theorem Reads.many {p : Cursor α} {encs : List Bytes} {as : List α}
    (h : List.Forall₂ (Reads p) encs as) : Reads (p.many as.length) encs.flatten as := by
  induction h with
  | nil => exact Reads.pure []
  | @cons x a encs as hx _ ih => exact hx.bind (ih.bind_pure fun as => a :: as)

/-- The elements of a list, one encoding after the other. -/
theorem Reads.many_map {γ : Type} {p : Cursor α} {enc : γ → Bytes} {v : γ → α} {xs : List γ}
    (h : ∀ x ∈ xs, Reads p (enc x) (v x)) : Reads (p.many xs.length) (xs.flatMap enc) (xs.map v) := by
  induction xs with
  | nil => exact Reads.pure []
  | cons x xs ih =>
    have hrest := ih fun y hy => h y (List.mem_cons_of_mem x hy)
    exact (h x List.mem_cons_self).bind (hrest.bind_pure fun as => v x :: as)

/-- What is read of each of some encodings, when only a part `f` of it is known. -/
theorem Reads.collect {γ δ : Type} {p : Cursor α} {f : α → γ} {v : δ → γ} {xs : List δ}
    {encs : List Bytes} (h : List.Forall₂ (fun x enc => ∃ a, Reads p enc a ∧ f a = v x) xs encs) :
    ∃ as, List.Forall₂ (Reads p) encs as ∧ as.map f = xs.map v := by
  induction h with
  | nil => exact ⟨[], .nil, rfl⟩
  | cons hx _ ih =>
    obtain ⟨a, ha, hf⟩ := hx
    obtain ⟨as, has, hfs⟩ := ih
    refine ⟨a :: as, .cons ha has, ?_⟩
    rw [List.map_cons, List.map_cons, hf, hfs]

theorem Reads.int {n v : Nat} (h : v < 256 ^ n) : Reads (Cursor.int n) (leBytes n v) v := by
  intro pre post
  have hread := unpackFrom_append n v pre post h
  unfold Cursor.int
  rw [hread, leBytes_length]
  rfl

theorem Reads.skip (b : Bytes) : Reads (Cursor.skip b.length) b () := fun _ _ => rfl

theorem Reads.bytes (b : Bytes) : Reads (Cursor.bytes b.length) b b := by
  intro pre post
  refine Cursor.bytes_eq_ok.mpr ⟨?_, ?_, rfl⟩
  · simp only [List.length_append]
    omega
  · rw [slice_append pre b post b.length rfl]

end
end Py
