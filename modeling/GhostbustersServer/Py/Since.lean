import GhostbustersServer.Py.Runs

/-!
# Facts that events start and end

A fact is decided by a step when it holds after it exactly if the event starts it, or it
held before and the event does not end it.

    Since              some event of the run starts the fact, and no later one ends it
    runs_iff_since     a fact that every step decides holds at the end of a run exactly
                       since an event, or from the beginning on
    exists_lifetime    what ends for good holds for a prefix of the run
    exists_span        what can also start only once holds for one stretch of it
-/

namespace Py

section
variable {σ ε : Type} (step : ε → σ → σ)

/-- Of a run: an event starts the fact, and none of those after it ends it. -/
def Since (starts ends : ε → σ → Prop) (es : List ε) (s : σ) : Prop :=
  ∃ as e bs, es = as ++ e :: bs ∧ starts e (runs step as s) ∧
    Guarded step (fun e s => ¬ ends e s) bs (runs step (as ++ [e]) s)

variable {step} {starts ends : ε → σ → Prop}

theorem not_since_nil (s : σ) : ¬ Since step starts ends [] s := by
  rintro ⟨as, e, bs, h, -⟩
  cases as <;> cases h

theorem since_cons (e : ε) (es : List ε) (s : σ) :
    Since step starts ends (e :: es) s ↔
      (starts e s ∧ Guarded step (fun e s => ¬ ends e s) es (step e s)) ∨
        Since step starts ends es (step e s) := by
  constructor
  · rintro ⟨as, e', bs, h, hstarts, hends⟩
    cases as with
    | nil =>
      cases h
      exact .inl ⟨hstarts, hends⟩
    | cons a as =>
      cases h
      exact .inr ⟨as, e', bs, rfl, hstarts, hends⟩
  · rintro (⟨hstarts, hends⟩ | ⟨as, e', bs, rfl, hstarts, hends⟩)
    · exact ⟨[], e, es, rfl, hstarts, hends⟩
    · exact ⟨e :: as, e', bs, rfl, hstarts, hends⟩

/-- **A fact that every step decides is one of the history.** -/
theorem runs_iff_since {F I : σ → Prop} (hI : ∀ e s, I s → I (step e s))
    (hF : ∀ e s, I s → (F (step e s) ↔ starts e s ∨ (F s ∧ ¬ ends e s))) (es : List ε) (s : σ)
    (hs : I s) :
    F (runs step es s) ↔
      Since step starts ends es s ∨ (F s ∧ Guarded step (fun e s => ¬ ends e s) es s) := by
  induction es generalizing s with
  | nil => simp [not_since_nil, Guarded]
  | cons e es ih =>
    have hguard : Guarded step (fun e s => ¬ ends e s) (e :: es) s ↔
        ¬ ends e s ∧ Guarded step (fun e s => ¬ ends e s) es (step e s) := Iff.rfl
    rw [runs_cons, ih (step e s) (hI e s hs), hF e s hs, since_cons, hguard]
    tauto

/-- A fact that does not hold at the start. -/
theorem runs_iff_since_of_not {F I : σ → Prop} (hI : ∀ e s, I s → I (step e s))
    (hF : ∀ e s, I s → (F (step e s) ↔ starts e s ∨ (F s ∧ ¬ ends e s))) (es : List ε) (s : σ)
    (hs : I s) (hn : ¬ F s) : F (runs step es s) ↔ Since step starts ends es s := by
  rw [runs_iff_since hI hF es s hs]
  exact or_iff_left fun h => hn h.1

/-- **What ends for good** holds in the states of a run up to some point, and not after. -/
theorem exists_lifetime {L I : σ → Prop} (hI : ∀ e s, I s → I (step e s))
    (hend : ∀ e s, I s → ¬ L s → ¬ L (step e s)) (es : List ε) (s : σ) (hs : I s) :
    ∃ n, (∀ m ≤ es.length, L (runs step (es.take m) s) ↔ m < n) ∧
      Guarded step (fun _ s => I s ∧ L s) (es.take n) s ∧
      Guarded step (fun _ s => I s ∧ ¬ L s) (es.drop n) (runs step (es.take n) s) := by
  induction es generalizing s with
  | nil =>
    by_cases hL : L s
    · refine ⟨1, fun m hm => ?_, trivial, trivial⟩
      simp [hL, Nat.le_zero.mp hm]
    · refine ⟨0, fun m _ => ?_, trivial, trivial⟩
      simp [hL]
  | cons e es ih =>
    obtain ⟨n, hn, hbefore, hafter⟩ := ih (step e s) (hI e s hs)
    by_cases hL : L s
    · refine ⟨n + 1, fun m hm => ?_, ⟨⟨hs, hL⟩, hbefore⟩, hafter⟩
      cases m with
      | zero => simp [hL]
      | succ m =>
        rw [List.take_succ_cons, runs_cons, hn m (Nat.le_of_succ_le_succ hm)]
        exact Nat.succ_lt_succ_iff.symm
    · -- over already: it stays over
      have hn0 : n = 0 := by
        by_contra hne
        exact hend e s hs hL ((hn 0 (Nat.zero_le _)).mpr (Nat.pos_of_ne_zero hne))
      subst hn0
      refine ⟨0, fun m hm => ?_, trivial, ⟨hs, hL⟩, hafter⟩
      cases m with
      | zero => simp [hL]
      | succ m =>
        rw [List.take_succ_cons, runs_cons, hn m (Nat.le_of_succ_le_succ hm)]
        simp

/-- The states of a run after its first `n` events. -/
theorem take_runs (es : List ε) (s : σ) {m n : Nat} (h : n ≤ m) :
    runs step (es.take m) s = runs step ((es.drop n).take (m - n)) (runs step (es.take n) s) := by
  rw [← runs_append, ← List.take_add, Nat.add_sub_cancel' h]

/-- **What starts at most once and ends for good** holds for one stretch of the run.
`U` is that it may still start. -/
theorem exists_span {U L I : σ → Prop} (hI : ∀ e s, I s → I (step e s)) (hU : ∀ s, I s → U s → ¬ L s)
    (hstart : ∀ e s, I s → ¬ U s → ¬ U (step e s))
    (hend : ∀ e s, I s → ¬ U s → ¬ L s → ¬ L (step e s)) (es : List ε) (s : σ) (hs : I s) :
    ∃ a b, ∀ m ≤ es.length, L (runs step (es.take m) s) ↔ a ≤ m ∧ m < b := by
  obtain ⟨a, ha, -, -⟩ := exists_lifetime hI hstart es s hs
  have hrun : I (runs step (es.take a) s) := runs_preserves hI _ s hs
  by_cases hlong : a ≤ es.length
  · have hstarted : ¬ U (runs step (es.take a) s) := fun h => Nat.lt_irrefl a ((ha a hlong).mp h)
    obtain ⟨n, hn, -, -⟩ := exists_lifetime (I := fun s => I s ∧ ¬ U s)
      (fun e s h => ⟨hI e s h.1, hstart e s h.1 h.2⟩) (fun e s h => hend e s h.1 h.2) (es.drop a)
      (runs step (es.take a) s) ⟨hrun, hstarted⟩
    refine ⟨a, a + n, fun m hm => ?_⟩
    by_cases ham : a ≤ m
    · have hlen : m - a ≤ (es.drop a).length := by
        rw [List.length_drop]
        omega
      rw [take_runs es s ham, hn _ hlen]
      omega
    · -- before the start
      have hu := (ha m hm).mpr (by omega)
      have hnot := hU _ (runs_preserves hI _ s hs) hu
      exact iff_of_false hnot fun h => ham h.1
  · refine ⟨0, 0, fun m hm => ?_⟩
    have hu := (ha m hm).mpr (by omega)
    exact iff_of_false (hU _ (runs_preserves hI _ s hs) hu) fun h => Nat.not_lt_zero m h.2

end
end Py
