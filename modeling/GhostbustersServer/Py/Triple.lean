import GhostbustersServer.Py.Act

/-!
# Pre- and postconditions

    Triple P m Q E     from a state with P, m returns a value with Q, or raises with E

There is one rule for each way of building code, and one for each loop: its
invariant speaks of the elements that are done.
-/

namespace Py
namespace Act

variable {σ ε α β : Type}

def Triple (P : σ → Prop) (m : Act σ ε α) (Q : α → σ → Prop) (E : σ → Prop) : Prop :=
  ∀ s, P s → (∃ a s', m.run s = (.ok a, s') ∧ Q a s') ∨ ∃ e s', m.run s = (.error e, s') ∧ E s'

namespace Triple

variable {P P' : σ → Prop} {Q Q' : α → σ → Prop} {E E' : σ → Prop}

theorem pure {a : α} (h : ∀ s, P s → Q a s) : Triple P (Pure.pure a : Act σ ε α) Q E :=
  fun s hs => .inl ⟨a, s, rfl, h s hs⟩

theorem modify {f : σ → σ} {Q : Unit → σ → Prop} (h : ∀ s, P s → Q () (f s)) :
    Triple P (Act.modify f : Act σ ε Unit) Q E :=
  fun s hs => .inl ⟨(), f s, rfl, h s hs⟩

theorem bind {R : β → σ → Prop} {m : Act σ ε α} {f : α → Act σ ε β} (hm : Triple P m Q E)
    (hf : ∀ a, Triple (Q a) (f a) R E) : Triple P (m >>= f) R E := by
  intro s hs
  rcases hm s hs with ⟨a, s', hr, hq⟩ | ⟨e, s', hr, he⟩
  · rw [run_bind_ok hr]
    exact hf a s' hq
  · exact .inr ⟨e, s', run_bind_error hr f, he⟩

theorem get_bind {f : σ → Act σ ε α} (h : ∀ s, P s → Triple (· = s) (f s) Q E) :
    Triple P ((Act.get : Act σ ε σ) >>= f) Q E := by
  intro s hs
  rw [run_get_bind]
  exact h s hs s rfl

theorem ofExcept_ok {a : α} {x : Except ε α} (hx : x = .ok a) (h : ∀ s, P s → Q a s) :
    Triple P (Act.ofExcept x : Act σ ε α) Q E := by
  subst hx
  exact fun s hs => .inl ⟨a, s, rfl, h s hs⟩

theorem mono {m : Act σ ε α} (hm : Triple P m Q E) (hP : ∀ s, P' s → P s)
    (hQ : ∀ a s, Q a s → Q' a s) (hE : ∀ s, E s → E' s) : Triple P' m Q' E' := by
  intro s hs
  rcases hm s (hP s hs) with ⟨a, s', hr, hq⟩ | ⟨e, s', hr, he⟩
  · exact .inl ⟨a, s', hr, hQ a s' hq⟩
  · exact .inr ⟨e, s', hr, hE s' he⟩

/-- The outcome of `m` becomes a value; what holds where it raised holds of the error. -/
theorem attempt {m : Act σ ε α} (hm : Triple P m Q E) :
    Triple P m.attempt (fun r s => match r with | .ok a => Q a s | .error _ => E s) E' := by
  intro s hs
  left
  rcases hm s hs with ⟨a, s', hr, hq⟩ | ⟨e, s', hr, he⟩
  · exact ⟨.ok a, s', by rw [run_attempt, hr], hq⟩
  · exact ⟨.error e, s', by rw [run_attempt, hr], he⟩

/-- Code that never raises and always returns the same. -/
theorem attempt_ok {m : Act σ ε α} {a : α} (hm : Triple P m (fun b s => b = a ∧ P s) fun _ => False) :
    Triple P m.attempt (fun r s => r = .ok a ∧ P s) fun _ => False := by
  intro s hs
  rcases hm s hs with ⟨b, s', hr, rfl, hq⟩ | ⟨e, s', hr, he⟩
  · exact .inl ⟨.ok b, s', by rw [run_attempt, hr], rfl, hq⟩
  · exact he.elim

/-- Code over a component, where `J` of the component follows from `P` and can be
put back into it. -/
theorem zoom {τ : Type} {view : σ → τ} {put : τ → σ → σ} {J : τ → Prop} {K : α → τ → Prop}
    {F : τ → Prop} {m : Act τ ε α} (hm : Triple J m K F) (hJ : ∀ s, P s → J (view s))
    (hK : ∀ a s t, P s → K a t → Q a (put t s)) (hF : ∀ s t, P s → F t → E (put t s)) :
    Triple P (m.zoom view put) Q E := by
  intro s hs
  rcases hm (view s) (hJ s hs) with ⟨a, t, hr, hk⟩ | ⟨e, t, hr, he⟩
  · exact .inl ⟨a, put t s, by rw [run_zoom, hr], hK a s t hs hk⟩
  · exact .inr ⟨e, put t s, by rw [run_zoom, hr], hF s t hs he⟩

theorem forEach {I : List β → σ → Prop} {f : β → Act σ ε Unit} (xs : List β)
    (h : ∀ done x, x ∈ xs → Triple (I done) (f x) (fun _ => I (done ++ [x])) E) (done : List β) :
    Triple (I done) (Act.forEach xs f) (fun _ => I (done ++ xs)) E := by
  induction xs generalizing done with
  | nil =>
    rw [List.append_nil]
    exact Triple.pure fun _ hs => hs
  | cons x xs ih =>
    refine Triple.bind (h done x List.mem_cons_self) fun _ => ?_
    have hrest := ih (fun done y hy => h done y (List.mem_cons_of_mem _ hy)) (done ++ [x])
    rw [List.append_assoc] at hrest
    exact hrest

/-- A loop whose values are related to the elements one by one. -/
theorem mapEach {R : β → α → Prop} {f : β → Act σ ε α} (xs : List β)
    (h : ∀ x ∈ xs, Triple P (f x) (fun a s => R x a ∧ P s) E) :
    Triple P (Act.mapEach xs f) (fun as s => List.Forall₂ R xs as ∧ P s) E := by
  induction xs with
  | nil => exact Triple.pure fun _ hs => ⟨.nil, hs⟩
  | cons x xs ih =>
    refine Triple.bind (h x List.mem_cons_self) fun a => ?_
    refine Triple.bind (Q := fun as s => (R x a ∧ List.Forall₂ R xs as) ∧ P s) ?_ fun as => ?_
    · intro s hs
      rcases ih (fun y hy => h y (List.mem_cons_of_mem _ hy)) s hs.2 with
        ⟨as, s', hr, he, hp⟩ | ⟨e, s', hr, he⟩
      · exact .inl ⟨as, s', hr, ⟨hs.1, he⟩, hp⟩
      · exact .inr ⟨e, s', hr, he⟩
    · refine Triple.pure ?_
      rintro s ⟨⟨ha, has⟩, hp⟩
      exact ⟨.cons ha has, hp⟩

/-- A precondition that does not speak of the state. -/
theorem assume {A : Prop} {m : Act σ ε α} (h : A → Triple P m Q E) :
    Triple (fun s => A ∧ P s) m Q E :=
  fun s hs => h hs.1 s hs.2

/-- An invariant, whether the code returns or raises. -/
theorem keeps {I : σ → Prop} {m : Act σ ε α} (h : Triple I m (fun _ => I) I) :
    Within (Keeps I) m := by
  intro s hs
  rcases h s hs with ⟨a, s', hr, hI⟩ | ⟨e, s', hr, hI⟩
  · rw [hr]
    exact hI
  · rw [hr]
    exact hI

/-- The state after, however the code ended. -/
theorem after_cases {m : Act σ ε α} (h : Triple P m Q E) {s : σ} (hs : P s) :
    (∃ a, Q a (m.after s)) ∨ E (m.after s) := by
  unfold after
  rcases h s hs with ⟨a, s', hr, hq⟩ | ⟨e, s', hr, he⟩
  · rw [hr]
    exact .inl ⟨a, hq⟩
  · rw [hr]
    exact .inr he

/-- Nothing is said. -/
theorem any (m : Act σ ε α) : Triple (fun _ => True) m (fun _ _ => True) fun _ => True := by
  intro s _
  rcases hr : m.run s with ⟨r, s'⟩
  cases r with
  | ok a => exact .inl ⟨a, s', rfl, trivial⟩
  | error e => exact .inr ⟨e, s', rfl, trivial⟩

end Triple
end Act
end Py
