import GhostbustersServer.Py.Triple

/-!
# Transactions

A state that holds data and, inside a transaction, the snapshot that ROLLBACK restores.

    transact begin body rollback   try: body, ROLLBACK and raise again if it raises

    Triple.transact    all or nothing: the data are as the body left them, or as before
-/

namespace Py
namespace Act

variable {σ ε α τ : Type}

/-- The body ends the transaction itself if it returns. -/
def transact (start : Act σ ε Unit) (body : Act σ ε α) (rollback : Act σ ε Unit) : Act σ ε α := do
  start
  match ← body.attempt with
  | .ok a => pure a
  | .error e => do
    rollback
    raise e

/-- The data are `t`, and `s` is the snapshot. -/
def Stored (data : σ → τ) (saved : σ → Option τ) (t : τ) (s : Option τ) (x : σ) : Prop :=
  data x = t ∧ saved x = s

section
variable {data : σ → τ} {saved : σ → Option τ}

/-- **All or nothing.**  What raises inside the body leaves the snapshot alone, and a
ROLLBACK restores it. -/
theorem Triple.transact {start rollback : Act σ ε Unit} {body : Act σ ε α} {t : τ}
    {Q : α → τ → Prop}
    (hstart : Triple (Stored data saved t none) start (fun _ => Stored data saved t (some t))
      (Stored data saved t none))
    (hbody : Triple (Stored data saved t (some t)) body
      (fun a x => Q a (data x) ∧ saved x = none) fun x => saved x = some t)
    (hrollback : ∀ x, saved x = some t →
      ∃ x', rollback.run x = (.ok (), x') ∧ Stored data saved t none x') :
    Triple (Stored data saved t none) (Act.transact start body rollback)
      (fun a x => Q a (data x) ∧ saved x = none) (Stored data saved t none) := by
  refine Triple.bind hstart fun _ => Triple.bind hbody.attempt fun r => ?_
  cases r with
  | ok a => exact Triple.pure fun _ h => h
  | error e =>
    intro x hx
    obtain ⟨x', hrun, hx'⟩ := hrollback x hx
    right
    refine ⟨e, x', ?_, hx'⟩
    rw [run_bind_ok hrun]
    rfl

end
end Act
end Py
