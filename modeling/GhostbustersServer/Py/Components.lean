import GhostbustersServer.Py.Runs

/-!
# One component of a machine

A component sees some events of a run as inputs of its own; `view` is its state
within the state of the machine, `outs` what it has put out so far.

    runs_independent   a component that is independent at every step is run by its own
                       inputs alone
    runs_view          a view that every step takes on by itself is a machine of its own
-/

namespace Py

section
variable {σ ε τ α β : Type}

/-- What a component puts out for a list of inputs. -/
def outputs (act : α → τ → Option β × τ) : List α → τ → List β
  | [], _ => []
  | a :: as, t => (act a t).1.toList ++ outputs act as (act a t).2

variable (step : ε → σ → σ) (own : ε → Option α) (act : α → τ → Option β × τ) (view : σ → τ)
  (outs : σ → List β)

/-- A step is one of the component on its own input, and none of it on any other. -/
def Independent (e : ε) (s : σ) : Prop :=
  match own e with
  | none => view (step e s) = view s ∧ outs (step e s) = outs s
  | some a =>
    view (step e s) = (act a (view s)).2 ∧ outs (step e s) = outs s ++ (act a (view s)).1.toList

/-- **A component is run by its own inputs**, whatever happens between them. -/
theorem runs_independent (es : List ε) (s : σ)
    (h : Guarded step (Independent step own act view outs) es s) :
    view (runs step es s) = runs (fun a t => (act a t).2) (es.filterMap own) (view s) ∧
      outs (runs step es s) = outs s ++ outputs act (es.filterMap own) (view s) := by
  induction es generalizing s with
  | nil => exact ⟨rfl, (List.append_nil _).symm⟩
  | cons e es ih =>
    obtain ⟨he, hes⟩ := h
    obtain ⟨hview, houts⟩ := ih (step e s) hes
    rw [runs_cons, hview, houts]
    unfold Independent at he
    cases ho : own e with
    | none =>
      rw [ho] at he
      rw [List.filterMap_cons_none ho, he.1, he.2]
      exact ⟨rfl, rfl⟩
    | some a =>
      rw [ho] at he
      rw [List.filterMap_cons_some ho, he.1, he.2, List.append_assoc]
      exact ⟨rfl, rfl⟩

variable {step view} in
theorem runs_view {machine : ε → τ → τ} {I : σ → Prop} (hI : ∀ e s, I s → I (step e s))
    (hview : ∀ e s, I s → view (step e s) = machine e (view s)) (es : List ε) (s : σ) (hs : I s) :
    view (runs step es s) = runs machine es (view s) := by
  induction es generalizing s with
  | nil => rfl
  | cons e es ih =>
    rw [runs_cons, ih (step e s) (hI e s hs), hview e s hs]
    rfl

end
end Py
