import Mathlib.Data.List.Basic

/-!
# Runs of a state machine

A machine is a function `step : ε → σ → σ`; a run applies it to a list of
events.  `Guarded` says that every step of a run meets a condition on its event
and on the state before it.
-/

namespace Py

section
variable {σ ε : Type} (step : ε → σ → σ)

def runs (es : List ε) (s : σ) : σ := es.foldl (fun s e => step e s) s

@[simp] theorem runs_nil (s : σ) : runs step [] s = s := rfl

@[simp] theorem runs_cons (e : ε) (es : List ε) (s : σ) :
    runs step (e :: es) s = runs step es (step e s) := rfl

theorem runs_append (es fs : List ε) (s : σ) :
    runs step (es ++ fs) s = runs step fs (runs step es s) := by
  unfold runs
  rw [List.foldl_append]

/-- Every step of the run meets `C`. -/
def Guarded (C : ε → σ → Prop) : List ε → σ → Prop
  | [], _ => True
  | e :: es, s => C e s ∧ Guarded C es (step e s)

def Guarded.decide (C : ε → σ → Prop) [∀ e s, Decidable (C e s)] :
    ∀ (es : List ε) (s : σ), Decidable (Guarded step C es s)
  | [], _ => .isTrue trivial
  | e :: es, s =>
    have := Guarded.decide C es (step e s)
    inferInstanceAs (Decidable (C e s ∧ Guarded step C es (step e s)))

instance (C : ε → σ → Prop) [∀ e s, Decidable (C e s)] (es : List ε) (s : σ) :
    Decidable (Guarded step C es s) :=
  Guarded.decide step C es s

theorem guarded_append (C : ε → σ → Prop) (es fs : List ε) (s : σ) :
    Guarded step C (es ++ fs) s ↔ Guarded step C es s ∧ Guarded step C fs (runs step es s) := by
  induction es generalizing s with
  | nil => simp [Guarded]
  | cons e es ih => simp [Guarded, ih, and_assoc]

variable {step} in
theorem guarded_and {C D : ε → σ → Prop} {es : List ε} {s : σ} (hC : Guarded step C es s)
    (hD : Guarded step D es s) : Guarded step (fun e s => C e s ∧ D e s) es s := by
  induction es generalizing s with
  | nil => trivial
  | cons e es ih => exact ⟨⟨hC.1, hD.1⟩, ih hC.2 hD.2⟩

theorem guarded_take (C : ε → σ → Prop) (n : Nat) {es : List ε} {s : σ}
    (h : Guarded step C es s) : Guarded step C (es.take n) s := by
  rw [← List.take_append_drop n es, guarded_append] at h
  exact h.1

variable {step}

/-- **Induction over a guarded run.** -/
theorem runs_invariant {C : ε → σ → Prop} {I : σ → Prop}
    (h : ∀ e s, C e s → I s → I (step e s)) (es : List ε) (s : σ)
    (hg : Guarded step C es s) (hs : I s) : I (runs step es s) := by
  induction es generalizing s with
  | nil => exact hs
  | cons e es ih => exact ih (step e s) hg.2 (h e s hg.1 hs)

/-- Steps that meet `C` from states that satisfy an invariant meet what follows from both. -/
theorem guarded_of_invariant {C D : ε → σ → Prop} {I : σ → Prop}
    (h : ∀ e s, C e s → I s → I (step e s)) (hD : ∀ e s, C e s → I s → D e s) (es : List ε) (s : σ)
    (hg : Guarded step C es s) (hs : I s) : Guarded step D es s := by
  induction es generalizing s with
  | nil => trivial
  | cons e es ih => exact ⟨hD e s hg.1 hs, ih (step e s) hg.2 (h e s hg.1 hs)⟩

/-- Every step from a state with an invariant that all steps keep meets what follows from it. -/
theorem guarded_of_preserved {D : ε → σ → Prop} {I : σ → Prop} (h : ∀ e s, I s → I (step e s))
    (hD : ∀ e s, I s → D e s) (es : List ε) (s : σ) (hs : I s) : Guarded step D es s := by
  induction es generalizing s with
  | nil => trivial
  | cons e es ih => exact ⟨hD e s hs, ih (step e s) (h e s hs)⟩

/-- Conditions that agree where an invariant holds guard the same runs. -/
theorem guarded_congr {C D : ε → σ → Prop} {I : σ → Prop} (h : ∀ e s, I s → I (step e s))
    (hCD : ∀ e s, I s → (C e s ↔ D e s)) (es : List ε) (s : σ) (hs : I s) :
    Guarded step C es s ↔ Guarded step D es s := by
  induction es generalizing s with
  | nil => exact Iff.rfl
  | cons e es ih => exact and_congr (hCD e s hs) (ih (step e s) (h e s hs))

theorem runs_preserves {I : σ → Prop} (h : ∀ e s, I s → I (step e s)) (es : List ε) (s : σ)
    (hs : I s) : I (runs step es s) := by
  induction es generalizing s with
  | nil => exact hs
  | cons e es ih => exact ih (step e s) (h e s hs)

/-- An observer beside the machine does not change its run. -/
theorem runs_fst {τ : Type} {track : ε → σ × τ → σ × τ}
    (h : ∀ e s, (track e s).1 = step e s.1) (es : List ε) (s : σ × τ) :
    (runs track es s).1 = runs step es s.1 := by
  induction es generalizing s with
  | nil => rfl
  | cons e es ih =>
    rw [runs_cons, runs_cons, ih, h]

/-- **A property that one kind of step breaks** holds throughout exactly the runs without
such a step; all steps of the run meet `H`. -/
theorem throughout_iff_guarded_of {P I : σ → Prop} {H C : ε → σ → Prop} (hP : ∀ s, I s → P s)
    (hstep : ∀ e s, H e s → I s → C e s → I (step e s))
    (hbreak : ∀ e s, H e s → I s → ¬ C e s → ¬ P (step e s)) (es : List ε) (s : σ)
    (hH : Guarded step H es s) (hs : I s) :
    (∀ n, P (runs step (es.take n) s)) ↔ Guarded step C es s := by
  induction es generalizing s with
  | nil => simpa [Guarded] using hP s hs
  | cons e es ih =>
    obtain ⟨hHe, hrest⟩ := hH
    constructor
    · intro hall
      have hC : C e s := by
        by_contra hn
        exact hbreak e s hHe hs hn (hall 1)
      exact ⟨hC, (ih (step e s) hrest (hstep e s hHe hs hC)).mp fun n => hall (n + 1)⟩
    · rintro ⟨hC, hes⟩ n
      cases n with
      | zero => exact hP s hs
      | succ n => exact (ih (step e s) hrest (hstep e s hHe hs hC)).mpr hes n

theorem throughout_iff_guarded {P I : σ → Prop} {C : ε → σ → Prop} (hP : ∀ s, I s → P s)
    (hstep : ∀ e s, I s → C e s → I (step e s)) (hbreak : ∀ e s, I s → ¬ C e s → ¬ P (step e s))
    (es : List ε) (s : σ) (hs : I s) :
    (∀ n, P (runs step (es.take n) s)) ↔ Guarded step C es s := by
  have htrue : Guarded step (fun _ _ => True) es s :=
    guarded_of_preserved (I := fun _ => True) (fun _ _ _ => trivial) (fun _ _ _ => trivial) es s
      trivial
  exact throughout_iff_guarded_of hP (fun e s _ => hstep e s) (fun e s _ => hbreak e s) es s htrue hs

/-- A reflexive and transitive relation that every step respects relates the
ends of a run. -/
theorem runs_rel {R : σ → σ → Prop} (hrefl : ∀ s, R s s)
    (htrans : ∀ a b c, R a b → R b c → R a c) (h : ∀ e s, R s (step e s)) (es : List ε) (s : σ) :
    R s (runs step es s) := by
  induction es generalizing s with
  | nil => exact hrefl s
  | cons e es ih => exact htrans _ _ _ (h e s) (ih (step e s))

end
end Py
