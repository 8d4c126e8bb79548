import Mathlib.Data.List.Forall2
import Mathlib.Order.Defs.Unbundled

/-!
# Statements that change a state and return or raise

`Act σ ε α` is a piece of imperative code over a state `σ` that ends with a
value or with an exception.  What it changed before raising stays changed, as
in Python.

`Within R m` says that `m`, run in any state, relates the state before to the
state after by the preorder `R`, whether it returns or raises.  It is closed
under every way of building code, so a handler is confined by confining its
primitive statements.  `Returns P m` and `OnError P m` are about the value and about
the state where `m` raised.
-/

namespace Py

def Act (σ ε α : Type) : Type := σ → Except ε α × σ

namespace Act

variable {σ ε α β : Type}

def run (m : Act σ ε α) (s : σ) : Except ε α × σ := m s

/-- The state after `m`, however it ended. -/
def after (m : Act σ ε α) (s : σ) : σ := (m.run s).2

instance : Monad (Act σ ε) where
  pure a := fun s => (.ok a, s)
  bind m f := fun s => match m s with
    | (.ok a, s') => f a s'
    | (.error e, s') => (.error e, s')

def raise (e : ε) : Act σ ε α := fun s => (.error e, s)

def get : Act σ ε σ := fun s => (.ok s, s)

def modify (f : σ → σ) : Act σ ε Unit := fun s => (.ok (), f s)

def ofExcept (x : Except ε α) : Act σ ε α := fun s => (x, s)

/-- `try: m` with the outcome handed on as a value. -/
def attempt (m : Act σ ε α) : Act σ ε (Except ε α) := fun s => (.ok (m s).1, (m s).2)

/-- Code over a component of the state. -/
def zoom {τ : Type} (view : σ → τ) (put : τ → σ → σ) (m : Act τ ε α) : Act σ ε α :=
  fun s => ((m (view s)).1, put (m (view s)).2 s)

/-- `for x in xs: f(x)`. -/
def forEach (xs : List β) (f : β → Act σ ε Unit) : Act σ ε Unit :=
  match xs with
  | [] => pure ()
  | x :: xs => do f x; forEach xs f

/-- `[f(x) for x in xs]`. -/
def mapEach (xs : List β) (f : β → Act σ ε α) : Act σ ε (List α) :=
  match xs with
  | [] => pure []
  | x :: xs => do
    let a ← f x
    let as ← mapEach xs f
    pure (a :: as)

/-! ## Running -/

@[simp] theorem run_pure (a : α) (s : σ) : (pure a : Act σ ε α).run s = (.ok a, s) := rfl

@[simp] theorem run_raise (e : ε) (s : σ) : (raise e : Act σ ε α).run s = (.error e, s) := rfl

@[simp] theorem run_get (s : σ) : (get : Act σ ε σ).run s = (.ok s, s) := rfl

@[simp] theorem run_modify (f : σ → σ) (s : σ) :
    (modify f : Act σ ε Unit).run s = (.ok (), f s) := rfl

@[simp] theorem run_ofExcept (x : Except ε α) (s : σ) :
    (ofExcept x : Act σ ε α).run s = (x, s) := rfl

@[simp] theorem run_attempt (m : Act σ ε α) (s : σ) :
    m.attempt.run s = (.ok (m.run s).1, (m.run s).2) := rfl

@[simp] theorem run_zoom {τ : Type} (view : σ → τ) (put : τ → σ → σ) (m : Act τ ε α) (s : σ) :
    (m.zoom view put).run s = ((m.run (view s)).1, put (m.run (view s)).2 s) := rfl

theorem run_bind (m : Act σ ε α) (f : α → Act σ ε β) (s : σ) :
    (m >>= f).run s = match m.run s with
      | (.ok a, s') => (f a).run s'
      | (.error e, s') => (.error e, s') := rfl

theorem run_bind_ok {m : Act σ ε α} {a : α} {s s' : σ} (h : m.run s = (.ok a, s'))
    (f : α → Act σ ε β) : (m >>= f).run s = (f a).run s' := by
  rw [run_bind, h]

theorem run_bind_error {m : Act σ ε α} {e : ε} {s s' : σ} (h : m.run s = (.error e, s'))
    (f : α → Act σ ε β) : (m >>= f).run s = (.error e, s') := by
  rw [run_bind, h]

@[simp] theorem run_pure_bind (a : α) (f : α → Act σ ε β) (s : σ) :
    ((pure a : Act σ ε α) >>= f).run s = (f a).run s := rfl

@[simp] theorem run_get_bind (f : σ → Act σ ε β) (s : σ) :
    ((get : Act σ ε σ) >>= f).run s = (f s).run s := rfl

@[simp] theorem run_modify_bind (g : σ → σ) (f : Unit → Act σ ε β) (s : σ) :
    ((modify g : Act σ ε Unit) >>= f).run s = (f ()).run (g s) := rfl

@[simp] theorem run_raise_bind (e : ε) (f : α → Act σ ε β) (s : σ) :
    ((raise e : Act σ ε α) >>= f).run s = (.error e, s) := rfl

@[simp] theorem run_attempt_bind (m : Act σ ε α) (f : Except ε α → Act σ ε β) (s : σ) :
    (m.attempt >>= f).run s = (f (m.run s).1).run (m.run s).2 := rfl

/-- A piece of code followed by another: either the first raised, and that is
the outcome, or it returned and the second ran from where it stopped. -/
theorem run_bind_cases (m : Act σ ε α) (f : α → Act σ ε β) (s : σ) :
    (∃ e, m.run s = (.error e, m.after s) ∧ (m >>= f).run s = (.error e, m.after s)) ∨
    (∃ a, m.run s = (.ok a, m.after s) ∧ (m >>= f).run s = (f a).run (m.after s)) := by
  cases h : m.run s with
  | mk r s' =>
    have hs : m.after s = s' := by unfold after; rw [h]
    cases r with
    | error e => left; exact ⟨e, by rw [hs], by rw [run_bind_error h, hs]⟩
    | ok a => right; exact ⟨a, by rw [hs], by rw [run_bind_ok h, hs]⟩

/-- A chain that returned. -/
theorem ok_of_run_bind {m : Act σ ε α} {f : α → Act σ ε β} {s s' : σ} {b : β}
    (h : (m >>= f).run s = (.ok b, s')) :
    ∃ a s1, m.run s = (.ok a, s1) ∧ (f a).run s1 = (.ok b, s') := by
  rcases run_bind_cases m f s with ⟨e, -, hb⟩ | ⟨a, ha, hb⟩
  · cases hb.symm.trans h
  · exact ⟨a, m.after s, ha, hb.symm.trans h⟩

theorem run_forEach_append (xs ys : List β) (f : β → Act σ ε Unit) (s : σ) :
    (forEach (xs ++ ys) f).run s = (forEach xs f >>= fun _ => forEach ys f).run s := by
  induction xs generalizing s with
  | nil => rfl
  | cons x xs ih =>
    show (f x >>= fun _ => forEach (xs ++ ys) f).run s =
      ((f x >>= fun _ => forEach xs f) >>= fun _ => forEach ys f).run s
    simp only [run_bind]
    generalize (f x).run s = out
    obtain ⟨r, s'⟩ := out
    cases r with
    | error e => rfl
    | ok u => exact ih s'

/-- A loop that, as long as `I` holds, passes over some elements and does `g` for what it
selects from the others. -/
theorem run_forEach_filterMap {γ : Type} {I : σ → Prop} {f : β → Act σ ε Unit}
    {g : γ → Act σ ε Unit} (sel : β → Option γ)
    (h : ∀ x s, I s → (f x).run s = match sel x with
      | none => (.ok (), s)
      | some y => (g y).run s)
    (hI : ∀ y s, I s → I ((g y).after s)) (xs : List β) {s : σ} (hs : I s) :
    (forEach xs f).run s = (forEach (xs.filterMap sel) g).run s := by
  induction xs generalizing s with
  | nil => rfl
  | cons x xs ih =>
    show (f x >>= fun _ => forEach xs f).run s = _
    rw [run_bind, h x s hs]
    cases hx : sel x with
    | none =>
      rw [List.filterMap_cons_none hx]
      exact ih hs
    | some y =>
      rw [List.filterMap_cons_some hx]
      show _ = (g y >>= fun _ => forEach (xs.filterMap sel) g).run s
      have hs' : I ((g y).run s).2 := hI y s hs
      simp only [run_bind]
      generalize (g y).run s = out at hs'
      obtain ⟨r, s'⟩ := out
      cases r with
      | error e => rfl
      | ok u => exact ih hs'

/-- A chain of fallible steps that succeeded. -/
theorem ok_of_bind {x : Except ε α} {f : α → Except ε β} {b : β} (h : (x >>= f) = .ok b) :
    ∃ a, x = .ok a ∧ f a = .ok b := by
  cases x with
  | error e => cases h
  | ok a => exact ⟨a, rfl, h⟩

theorem ok_of_map {x : Except ε α} {f : α → β} {b : β} (h : x.map f = .ok b) :
    ∃ a, x = .ok a ∧ f a = b := by
  cases x with
  | error e => cases h
  | ok a => exact ⟨a, rfl, Except.ok.inj h⟩

theorem forall₂_of_mapM {f : α → Except ε β} {xs : List α} {ys : List β}
    (h : xs.mapM f = .ok ys) : List.Forall₂ (fun x y => f x = .ok y) xs ys := by
  induction xs generalizing ys with
  | nil =>
    cases h
    exact .nil
  | cons x xs ih =>
    rw [List.mapM_cons] at h
    obtain ⟨y, hy, h⟩ := ok_of_bind h
    obtain ⟨zs, hz, h⟩ := ok_of_bind h
    cases h
    exact .cons hy (ih hz)

theorem eq_map_of_forall₂ {f : α → β} {xs : List α} {ys : List β}
    (h : List.Forall₂ (fun x y => y = f x) xs ys) : ys = xs.map f := by
  induction h with
  | nil => rfl
  | cons hx _ ih => rw [hx, ih, List.map_cons]

/-- A loop each of whose steps succeeds. -/
theorem mapM_ok {f : α → Except ε β} {P : α → β → Prop} {xs : List α}
    (h : ∀ x ∈ xs, ∃ y, f x = .ok y ∧ P x y) : ∃ ys, xs.mapM f = .ok ys ∧ List.Forall₂ P xs ys := by
  induction xs with
  | nil => exact ⟨[], rfl, .nil⟩
  | cons x xs ih =>
    obtain ⟨y, hy, hP⟩ := h x List.mem_cons_self
    obtain ⟨ys, hys, hPs⟩ := ih fun x' hx' => h x' (List.mem_cons_of_mem _ hx')
    refine ⟨y :: ys, ?_, .cons hP hPs⟩
    rw [List.mapM_cons, hy, hys]
    rfl

/-! ## Confinement -/

section
variable (R : σ → σ → Prop)

/-- `m` started in `s` ends in a state `R`-above `s`. -/
def WithinAt (m : Act σ ε α) (s : σ) : Prop := R s (m.run s).2

def Within (m : Act σ ε α) : Prop := ∀ s, WithinAt R m s

variable {R}

theorem WithinAt.bind [IsTrans σ R] {m : Act σ ε α} {f : α → Act σ ε β} {s : σ}
    (hm : WithinAt R m s)
    (hf : ∀ a s', m.run s = (.ok a, s') → WithinAt R (f a) s') : WithinAt R (m >>= f) s := by
  unfold WithinAt at *
  rw [run_bind]
  cases h : m.run s with
  | mk r s' =>
    rw [h] at hm
    cases r with
    | error e => exact hm
    | ok a => exact IsTrans.trans _ _ _ hm (hf a s' h)

theorem Within.bind [IsTrans σ R] {m : Act σ ε α} {f : α → Act σ ε β}
    (hm : Within R m) (hf : ∀ a, Within R (f a)) : Within R (m >>= f) :=
  fun s => WithinAt.bind (hm s) fun a s' _ => hf a s'

theorem Within.get_bind {f : σ → Act σ ε β} (h : ∀ s, WithinAt R (f s) s) :
    Within R ((get : Act σ ε σ) >>= f) := fun s => h s

theorem Within.pure [Std.Refl R] (a : α) : Within R (Pure.pure a : Act σ ε α) :=
  fun s => Std.Refl.refl s

theorem Within.raise [Std.Refl R] (e : ε) : Within R (Act.raise e : Act σ ε α) :=
  fun s => Std.Refl.refl s

theorem Within.get [Std.Refl R] : Within R (Act.get : Act σ ε σ) := fun s => Std.Refl.refl s

theorem Within.ofExcept [Std.Refl R] (x : Except ε α) : Within R (Act.ofExcept x : Act σ ε α) :=
  fun s => Std.Refl.refl s

theorem Within.modify {f : σ → σ} (h : ∀ s, R s (f s)) :
    Within R (Act.modify f : Act σ ε Unit) := h

theorem Within.attempt {m : Act σ ε α} (h : Within R m) : Within R m.attempt := h

theorem Within.forEach [IsPreorder σ R] {f : β → Act σ ε Unit} (xs : List β)
    (h : ∀ x ∈ xs, Within R (f x)) : Within R (Act.forEach xs f) := by
  induction xs with
  | nil => exact Within.pure ()
  | cons x xs ih =>
    exact Within.bind (h x List.mem_cons_self) fun _ =>
      ih fun y hy => h y (List.mem_cons_of_mem _ hy)

theorem Within.mapEach [IsPreorder σ R] {f : β → Act σ ε α} (xs : List β)
    (h : ∀ x ∈ xs, Within R (f x)) : Within R (Act.mapEach xs f) := by
  induction xs with
  | nil => exact Within.pure []
  | cons x xs ih =>
    refine Within.bind (h x List.mem_cons_self) fun a => ?_
    refine Within.bind (ih fun y hy => h y (List.mem_cons_of_mem _ hy)) fun as => ?_
    exact Within.pure _

/-- The relation of an invariant: it holds after if it held before. -/
def Keeps (I : σ → Prop) (s s' : σ) : Prop := I s → I s'

instance (I : σ → Prop) : IsPreorder σ (Keeps I) where
  refl := fun _ h => h
  trans := fun _ _ _ h1 h2 h => h2 (h1 h)

/-- A view of the state is the same. -/
def Fixes (view : σ → β) (s s' : σ) : Prop := view s' = view s

instance (view : σ → β) : IsPreorder σ (Fixes view) where
  refl := fun _ => rfl
  trans := fun _ _ _ h1 h2 => h2.trans h1

theorem Within.mono {R' : σ → σ → Prop} {m : Act σ ε α} (hm : Within R m)
    (h : ∀ s s', R s s' → R' s s') : Within R' m := fun s => h _ _ (hm s)

end

/-! ## Values -/

/-- A value that `m` returned satisfies `P`. -/
def Returns (P : α → Prop) (m : Act σ ε α) : Prop := ∀ s a s', m.run s = (.ok a, s') → P a

section
variable {P : α → Prop}

theorem Returns.pure {a : α} (h : P a) : Returns P (Pure.pure a : Act σ ε α) := by
  intro s b s' hr
  cases hr
  exact h

/-- Only the last statement returns. -/
theorem Returns.bind {m : Act σ ε β} {f : β → Act σ ε α} (h : ∀ b, Returns P (f b)) :
    Returns P (m >>= f) := by
  intro s a s' hr
  rcases run_bind_cases m f s with ⟨e, -, hb⟩ | ⟨b, -, hb⟩
  · rw [hb] at hr
    cases hr
  · rw [hb] at hr
    exact h b _ a s' hr

end

/-! ## Exceptions -/

/-- A state in which `m` raised satisfies `P`. -/
def OnError (P : σ → Prop) (m : Act σ ε α) : Prop :=
  ∀ s e s', m.run s = (.error e, s') → P s'

section
variable {P : σ → Prop}

theorem OnError.of_ok {m : Act σ ε α} (h : ∀ s, ∃ a s', m.run s = (.ok a, s')) : OnError P m := by
  intro s e s' hr
  obtain ⟨a, t, ht⟩ := h s
  rw [ht] at hr
  cases hr

theorem OnError.pure (a : α) : OnError P (Pure.pure a : Act σ ε α) :=
  OnError.of_ok fun s => ⟨a, s, rfl⟩

theorem OnError.get : OnError P (Act.get : Act σ ε σ) := OnError.of_ok fun s => ⟨s, s, rfl⟩

theorem OnError.modify (f : σ → σ) : OnError P (Act.modify f : Act σ ε Unit) :=
  OnError.of_ok fun s => ⟨(), f s, rfl⟩

theorem OnError.bind {m : Act σ ε α} {f : α → Act σ ε β} (hm : OnError P m)
    (hf : ∀ a, OnError P (f a)) : OnError P (m >>= f) := by
  intro s e s' hr
  rw [run_bind] at hr
  cases h : m.run s with
  | mk r t =>
    rw [h] at hr
    cases r with
    | error e' => cases hr; exact hm s e _ h
    | ok a => exact hf a t e s' hr

theorem OnError.forEach {f : β → Act σ ε Unit} (xs : List β) (h : ∀ x ∈ xs, OnError P (f x)) :
    OnError P (Act.forEach xs f) := by
  induction xs with
  | nil => exact OnError.pure ()
  | cons x xs ih =>
    exact OnError.bind (h x List.mem_cons_self) fun _ =>
      ih fun y hy => h y (List.mem_cons_of_mem _ hy)

theorem OnError.mapEach {f : β → Act σ ε α} (xs : List β) (h : ∀ x ∈ xs, OnError P (f x)) :
    OnError P (Act.mapEach xs f) := by
  induction xs with
  | nil => exact OnError.pure []
  | cons x xs ih =>
    refine OnError.bind (h x List.mem_cons_self) fun a => ?_
    refine OnError.bind (ih fun y hy => h y (List.mem_cons_of_mem _ hy)) fun as => ?_
    exact OnError.pure _

end
end Act
end Py
