import Mathlib.Data.Finset.Erase
import Mathlib.Data.Finset.Insert
import Mathlib.Logic.Function.Basic

/-!
# Copies of sets, kept up by messages

Each of several holders keeps a finite set and is sent changes of it.

    deliverAll R ms     the copies after the messages, in order

Where all messages of a batch insert, or all erase, what a copy ends with does not
depend on their order:

    x ∈ deliverAll R ms k  ↔  x ∈ R k ∨ (k, insert x) ∈ ms       (mem_deliverAll_of_inserts)
    x ∈ deliverAll R ms k  ↔  x ∈ R k ∧ (k, erase x) ∉ ms        (mem_deliverAll_of_erases)
-/

namespace Py

/-- A change of a set, as a message states it. -/
inductive Change (α : Type) where
  | insert (a : α)
  | erase (a : α)
  deriving DecidableEq, Repr

section
variable {κ α : Type} [DecidableEq κ] [DecidableEq α]

def Change.apply : Change α → Finset α → Finset α
  | .insert a, s => Insert.insert a s
  | .erase a, s => s.erase a

/-- One message reaches the copy of `k`. -/
def deliver (R : κ → Finset α) (m : κ × Change α) : κ → Finset α :=
  Function.update R m.1 (m.2.apply (R m.1))

def deliverAll (R : κ → Finset α) (ms : List (κ × Change α)) : κ → Finset α := ms.foldl deliver R

@[simp] theorem deliverAll_nil (R : κ → Finset α) : deliverAll R [] = R := rfl

@[simp] theorem deliverAll_cons (R : κ → Finset α) (m : κ × Change α) (ms : List (κ × Change α)) :
    deliverAll R (m :: ms) = deliverAll (deliver R m) ms := rfl

theorem deliver_self (R : κ → Finset α) (k : κ) (c : Change α) :
    deliver R (k, c) k = c.apply (R k) := Function.update_self _ _ _

theorem deliver_of_ne (R : κ → Finset α) {m : κ × Change α} {k : κ} (h : m.1 ≠ k) :
    deliver R m k = R k := Function.update_of_ne (Ne.symm h) _ _

/-- Messages to others leave a copy alone. -/
theorem deliverAll_of_ne (R : κ → Finset α) (ms : List (κ × Change α)) {k : κ}
    (h : ∀ m ∈ ms, m.1 ≠ k) : deliverAll R ms k = R k := by
  induction ms generalizing R with
  | nil => rfl
  | cons m ms ih =>
    rw [deliverAll_cons, ih _ fun m' hm' => h m' (List.mem_cons_of_mem _ hm')]
    exact deliver_of_ne R (h m List.mem_cons_self)

/-- **Insertions commute.** -/
theorem mem_deliverAll_of_inserts (R : κ → Finset α) (ms : List (κ × Change α))
    (h : ∀ m ∈ ms, ∃ a, m.2 = .insert a) (k : κ) (x : α) :
    x ∈ deliverAll R ms k ↔ x ∈ R k ∨ (k, .insert x) ∈ ms := by
  induction ms generalizing R with
  | nil => simp
  | cons m ms ih =>
    obtain ⟨k', c⟩ := m
    obtain ⟨a, ha⟩ := h (k', c) List.mem_cons_self
    simp only at ha
    subst ha
    rw [deliverAll_cons, ih _ fun m' hm' => h m' (List.mem_cons_of_mem _ hm')]
    by_cases hk : k' = k
    · subst hk
      rw [deliver_self]
      simp only [Change.apply, Finset.mem_insert, List.mem_cons, Prod.mk.injEq, true_and,
        Change.insert.injEq]
      tauto
    · rw [deliver_of_ne R hk]
      have hne : (k, Change.insert x) ≠ (k', .insert a) := fun he => hk (Prod.ext_iff.mp he).1.symm
      rw [List.mem_cons, or_iff_right hne]

/-- **Erasures commute.** -/
theorem mem_deliverAll_of_erases (R : κ → Finset α) (ms : List (κ × Change α))
    (h : ∀ m ∈ ms, ∃ a, m.2 = .erase a) (k : κ) (x : α) :
    x ∈ deliverAll R ms k ↔ x ∈ R k ∧ (k, .erase x) ∉ ms := by
  induction ms generalizing R with
  | nil => simp
  | cons m ms ih =>
    obtain ⟨k', c⟩ := m
    obtain ⟨a, ha⟩ := h (k', c) List.mem_cons_self
    simp only at ha
    subst ha
    rw [deliverAll_cons, ih _ fun m' hm' => h m' (List.mem_cons_of_mem _ hm')]
    by_cases hk : k' = k
    · subst hk
      rw [deliver_self]
      simp only [Change.apply, Finset.mem_erase, List.mem_cons, Prod.mk.injEq, true_and,
        Change.erase.injEq, not_or]
      tauto
    · rw [deliver_of_ne R hk]
      have hne : (k, Change.erase x) ≠ (k', .erase a) := fun he => hk (Prod.ext_iff.mp he).1.symm
      rw [List.mem_cons, or_iff_right hne]

end
end Py
