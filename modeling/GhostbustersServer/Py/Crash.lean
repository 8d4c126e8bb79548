import Mathlib.Algebra.GroupWithZero.Nat
import GhostbustersServer.Py.Act

/-!
# Statements that commit one by one

A process executes statements on a store.  Each commits as it ends, or raises and changes
nothing, and the process may die between two of them.  A script is a list of statements and
one more that records it; a process that starts over leaves out what is recorded.

    forEach_live_iff      what a process leaves that lives
    forEach_cut           what one leaves that dies after n statements
    starts_over_iff       starting over ends as if nothing had happened exactly when the dead
                          process had added nothing of a script that it did not record
-/

namespace Py

/-- A store, and how many statements the process still executes; `none`: it lives on. -/
structure Process (σ : Type) where
  store : σ
  left : Option Nat
  deriving DecidableEq

inductive Stop (ε : Type) where
  | raised (e : ε)
  | died
  deriving DecidableEq

namespace Process

variable {σ ε α τ : Type}

/-- A statement that returns a value. -/
def perform (f : σ → Except ε (α × σ)) : Act (Process σ) (Stop ε) α := do
  let p ← Act.get
  if p.left = some 0 then Act.raise .died
  else
    match f p.store with
    | .error e => Act.raise (.raised e)
    | .ok (a, s) => do
      Act.modify fun p => { store := s, left := p.left.map (· - 1) }
      pure a

/-- A statement that returns nothing. -/
def execute (exec : τ → σ → Except ε σ) (t : τ) : Act (Process σ) (Stop ε) Unit :=
  perform fun s => (exec t s).map fun s' => ((), s')

/-- One statement after another, up to the first that raises. -/
def executeAll (exec : τ → σ → Except ε σ) : List τ → σ → Except ε σ
  | [], s => .ok s
  | t :: ts, s => exec t s >>= executeAll exec ts

section
variable {exec : τ → σ → Except ε σ}

theorem executeAll_cons_ok {t : τ} {ts : List τ} {s s' : σ} :
    executeAll exec (t :: ts) s = .ok s' ↔ ∃ s1, exec t s = .ok s1 ∧ executeAll exec ts s1 = .ok s' := by
  refine ⟨Act.ok_of_bind, fun ⟨s1, h1, h2⟩ => ?_⟩
  show (exec t s >>= executeAll exec ts) = .ok s'
  rw [h1]
  exact h2

theorem executeAll_append_ok {ts us : List τ} {s s' : σ} :
    executeAll exec (ts ++ us) s = .ok s' ↔
      ∃ s1, executeAll exec ts s = .ok s1 ∧ executeAll exec us s1 = .ok s' := by
  induction ts generalizing s with
  | nil => exact ⟨fun h => ⟨s, rfl, h⟩, fun ⟨_, h1, h2⟩ => by cases h1; exact h2⟩
  | cons t ts ih =>
    rw [List.cons_append, executeAll_cons_ok]
    constructor
    · rintro ⟨s1, h1, h2⟩
      obtain ⟨s2, h3, h4⟩ := ih.mp h2
      exact ⟨s2, executeAll_cons_ok.mpr ⟨s1, h1, h3⟩, h4⟩
    · rintro ⟨s2, h1, h2⟩
      obtain ⟨s1, h3, h4⟩ := executeAll_cons_ok.mp h1
      exact ⟨s1, h3, ih.mpr ⟨s2, h4, h2⟩⟩

/-! ## Life and death -/

theorem perform_live_ok {f : σ → Except ε (α × σ)} {s s' : σ} {a : α} (h : f s = .ok (a, s')) :
    (perform f).run ⟨s, none⟩ = (.ok a, ⟨s', none⟩) := by
  unfold perform
  rw [Act.run_get_bind, if_neg (by simp), h]
  rfl

theorem perform_live_error {f : σ → Except ε (α × σ)} {s : σ} {e : ε} (h : f s = .error e) :
    (perform f).run ⟨s, none⟩ = (.error (.raised e), ⟨s, none⟩) := by
  unfold perform
  rw [Act.run_get_bind, if_neg (by simp), h]
  rfl

theorem perform_dead (f : σ → Except ε (α × σ)) (s : σ) :
    (perform f).run ⟨s, some 0⟩ = (.error .died, ⟨s, some 0⟩) := by
  unfold perform
  rw [Act.run_get_bind, if_pos rfl]
  rfl

theorem perform_doomed {f : σ → Except ε (α × σ)} {s s' : σ} {a : α} (h : f s = .ok (a, s')) (n : Nat) :
    (perform f).run ⟨s, some (n + 1)⟩ = (.ok a, ⟨s', some n⟩) := by
  unfold perform
  rw [Act.run_get_bind, if_neg (by simp), h]
  rfl

/-- A statement that returns has had its effect. -/
theorem perform_ok {f : σ → Except ε (α × σ)} {p p' : Process σ} {a : α}
    (h : (perform f).run p = (.ok a, p')) : f p.store = .ok (a, p'.store) := by
  unfold perform at h
  rw [Act.run_get_bind] at h
  split at h
  · cases h
  · split at h
    · cases h
    · next hf =>
      cases h
      exact hf

/-- A statement keeps what its effect keeps, and what dies or raises has changed nothing. -/
theorem perform_keeps {I : σ → Prop} {f : σ → Except ε (α × σ)}
    (h : ∀ s a s', f s = .ok (a, s') → I s → I s') :
    Act.Within (Act.Keeps fun p => I p.store) (perform f) := by
  intro p hp
  unfold perform
  rw [Act.run_get_bind]
  split
  · exact hp
  · split
    · exact hp
    · next a s hf => exact h _ a s hf hp

theorem execute_keeps {I : σ → Prop} {t : τ} (h : ∀ s s', exec t s = .ok s' → I s → I s') :
    Act.Within (Act.Keeps fun p => I p.store) (execute exec t) := by
  refine perform_keeps fun s _ s' hs hI => ?_
  obtain ⟨s1, h1, heq⟩ := Act.ok_of_map hs
  cases heq
  exact h s s' h1 hI

section
variable {t : τ} {s s' : σ}

theorem execute_live_ok (h : exec t s = .ok s') :
    (execute exec t).run ⟨s, none⟩ = (.ok (), ⟨s', none⟩) :=
  perform_live_ok (by rw [h]; rfl)

theorem execute_live_error {e : ε} (h : exec t s = .error e) :
    (execute exec t).run ⟨s, none⟩ = (.error (.raised e), ⟨s, none⟩) :=
  perform_live_error (by rw [h]; rfl)

theorem execute_doomed (h : exec t s = .ok s') (n : Nat) :
    (execute exec t).run ⟨s, some (n + 1)⟩ = (.ok (), ⟨s', some n⟩) :=
  perform_doomed (by rw [h]; rfl) n

theorem execute_dead (t : τ) (s : σ) :
    (execute exec t).run ⟨s, some 0⟩ = (.error .died, ⟨s, some 0⟩) :=
  perform_dead _ s

end

theorem forEach_live_iff {ts : List τ} {s s' : σ} :
    (Act.forEach ts (execute exec)).run ⟨s, none⟩ = (.ok (), ⟨s', none⟩) ↔
      executeAll exec ts s = .ok s' := by
  induction ts generalizing s with
  | nil => exact ⟨fun h => by cases h; rfl, fun h => by cases h; rfl⟩
  | cons t ts ih =>
    unfold Act.forEach
    rw [executeAll_cons_ok]
    cases h : exec t s with
    | error e =>
      rw [Act.run_bind_error (execute_live_error h)]
      exact iff_of_false (fun h => by cases h) fun ⟨_, h, _⟩ => by cases h
    | ok s1 =>
      rw [Act.run_bind_ok (execute_live_ok h), ih]
      exact ⟨fun h2 => ⟨s1, rfl, h2⟩, fun ⟨_, h1, h2⟩ => by cases h1; exact h2⟩

/-- A process that would have come to its end leaves what it has executed. -/
theorem forEach_cut {ts : List τ} {s s' : σ} (h : executeAll exec ts s = .ok s') (n : Nat) :
    executeAll exec (ts.take n) s = .ok ((Act.forEach ts (execute exec)).after ⟨s, some n⟩).store := by
  unfold Act.after
  induction ts generalizing s n with
  | nil =>
    rw [List.take_nil]
    rfl
  | cons t ts ih =>
    obtain ⟨s1, h1, h2⟩ := executeAll_cons_ok.mp h
    unfold Act.forEach
    cases n with
    | zero =>
      rw [Act.run_bind_error (execute_dead t s)]
      rfl
    | succ n =>
      rw [List.take_succ_cons, executeAll_cons_ok, Act.run_bind_ok (execute_doomed h1 n)]
      exact ⟨s1, h1, ih h2 n⟩

/-- A process that returns and lives. -/
theorem run_live {m : Act (Process σ) (Stop ε) α} {s : σ} {a : α}
    (h : (m.run ⟨s, none⟩).1 = .ok a) (hlive : (m.run ⟨s, none⟩).2.left = none) :
    m.run ⟨s, none⟩ = (.ok a, ⟨(m.after ⟨s, none⟩).store, none⟩) := by
  unfold Act.after
  generalize m.run ⟨s, none⟩ = out at h hlive ⊢
  obtain ⟨r, s', left⟩ := out
  cases h
  cases hlive
  rfl

/-! ## Executed again -/

section
variable {size : σ → Nat} {adds : τ → Nat}
  (hsize : ∀ t s s', exec t s = .ok s' → size s' = size s + adds t)
include hsize

theorem size_executeAll {ts : List τ} {s s' : σ} (h : executeAll exec ts s = .ok s') :
    size s' = size s + (ts.map adds).sum := by
  induction ts generalizing s with
  | nil =>
    cases h
    rfl
  | cons t ts ih =>
    obtain ⟨s1, h1, h2⟩ := executeAll_cons_ok.mp h
    rw [ih h2, hsize t s s1 h1, List.map_cons, List.sum_cons, Nat.add_assoc]

/-- Statements that are executed a second time leave as much as once only if they add nothing. -/
theorem idle_of_repeated {ts us : List τ} {s s1 s2 : σ} (h1 : executeAll exec us s = .ok s1)
    (h2 : executeAll exec (ts ++ us) s = .ok s2) (h : size s2 = size s1) : ∀ t ∈ ts, adds t = 0 := by
  have e1 := size_executeAll hsize h1
  have e2 := size_executeAll hsize h2
  rw [List.map_append, List.sum_append] at e2
  have hsum : (ts.map adds).sum = 0 := by omega
  intro t ht
  exact List.sum_eq_zero_iff_forall_eq_nat.mp hsum _ (List.mem_map_of_mem ht)

end

theorem executeAll_idle {adds : τ → Nat}
    (hidle : ∀ t s s', exec t s = .ok s' → adds t = 0 → s' = s) {ts : List τ} {s s' : σ}
    (h : executeAll exec ts s = .ok s') (hts : ∀ t ∈ ts, adds t = 0) : s' = s := by
  induction ts generalizing s with
  | nil =>
    cases h
    rfl
  | cons t ts ih =>
    obtain ⟨s1, h1, h2⟩ := executeAll_cons_ok.mp h
    cases hidle t s s1 h1 (hts t List.mem_cons_self)
    exact ih h2 fun u hu => hts u (List.mem_cons_of_mem t hu)

end

/-! ## Scripts that are recorded -/

section
variable {κ : Type} (body : κ → List τ) (record : κ → τ)

/-- The statements of each script, and the one that records it. -/
def plan (ks : List κ) : List τ := ks.flatMap fun k => body k ++ [record k]

/-- `for k in ks: if not skip(k): body; record`. -/
theorem run_forEach_scripts (exec : τ → σ → Except ε σ) (skip : κ → Bool) (ks : List κ)
    (p : Process σ) :
    (Act.forEach ks fun k => if skip k then pure () else do
        Act.forEach (body k) (execute exec)
        execute exec (record k)).run p =
      (Act.forEach (plan body record (ks.filter fun k => !skip k)) (execute exec)).run p := by
  have hone : ∀ t (p : Process σ), (Act.forEach [t] (execute exec)).run p = (execute exec t).run p := by
    intro t p
    unfold Act.forEach
    rw [Act.run_bind]
    generalize (execute exec t).run p = out
    obtain ⟨r, p'⟩ := out
    cases r <;> rfl
  induction ks generalizing p with
  | nil => rfl
  | cons k ks ih =>
    rw [Act.forEach]
    cases hk : skip k with
    | true =>
      rw [List.filter_cons_of_neg (by simp [hk])]
      exact ih p
    | false =>
      rw [List.filter_cons_of_pos (by simp [hk])]
      show _ = (Act.forEach ((body k ++ [record k]) ++ plan body record (ks.filter fun k => !skip k))
        (execute exec)).run p
      rw [Act.run_forEach_append, Act.run_bind, Act.run_bind, Act.run_forEach_append, Act.run_bind]
      rw [if_neg (by decide), Act.run_bind]
      generalize (Act.forEach (body k) (execute exec)).run p = out
      obtain ⟨r, p1⟩ := out
      cases r with
      | error e => rfl
      | ok u =>
        dsimp only
        rw [hone]
        generalize (execute exec (record k)).run p1 = out
        obtain ⟨r, p2⟩ := out
        cases r with
        | error e => rfl
        | ok u => exact ih p2

end

/-- The first `m` statements have added nothing of a script that they do not record. -/
def Clean {κ : Type} (body : κ → List τ) (adds : τ → Nat) : Nat → List κ → Prop
  | _, [] => True
  | m, k :: ks =>
    if m ≤ (body k).length then ∀ t ∈ (body k).take m, adds t = 0
    else Clean body adds (m - ((body k).length + 1)) ks

instance {κ : Type} (body : κ → List τ) (adds : τ → Nat) : ∀ (m : Nat) (ks : List κ), Decidable (Clean body adds m ks)
  | _, [] => .isTrue trivial
  | m, k :: ks =>
    have := instDecidableClean body adds (m - ((body k).length + 1)) ks
    inferInstanceAs (Decidable (if m ≤ (body k).length then ∀ t ∈ (body k).take m, adds t = 0
      else Clean body adds (m - ((body k).length + 1)) ks))

section
variable {κ : Type} (body : κ → List τ) (record : κ → τ) (k : κ) (ks : List κ)

theorem plan_cons : plan body record (k :: ks) = body k ++ ([record k] ++ plan body record ks) := by
  show (body k ++ [record k]) ++ plan body record ks = _
  rw [List.append_assoc]

variable {k ks}

theorem record_mem_plan (hk : k ∈ ks) : record k ∈ plan body record ks :=
  List.mem_flatMap.mpr ⟨k, hk, List.mem_append_right _ (List.mem_singleton_self _)⟩

/-- A cut within the first script. -/
theorem take_plan_of_le {m : Nat} (hm : m ≤ (body k).length) :
    (plan body record (k :: ks)).take m = (body k).take m := by
  rw [plan_cons, List.take_append_of_le_length hm]

/-- A cut behind the statement that records it. -/
theorem take_plan_of_lt {m : Nat} (hm : (body k).length < m) :
    (plan body record (k :: ks)).take m =
      (body k ++ [record k]) ++ (plan body record ks).take (m - ((body k).length + 1)) := by
  have hlen : (body k ++ [record k]).length = (body k).length + 1 := by
    rw [List.length_append, List.length_singleton]
  rw [← hlen]
  refine List.take_append.trans ?_
  rw [List.take_of_length_le (by rw [hlen]; exact hm)]
  rfl

end

/-- Whether a script is recorded: for good, and not twice. -/
structure Records {κ : Type} (record : κ → τ) (exec : τ → σ → Except ε σ) (ready : σ → Prop)
    (done : κ → σ → Prop) : Prop where
  stays : ∀ t s s', exec t s = .ok s' → ready s → ready s'
  kept : ∀ k t s s', exec t s = .ok s' → ready s → done k s → done k s'
  once : ∀ k s s', exec (record k) s = .ok s' → ready s → ¬ done k s ∧ done k s'

section
variable {κ : Type} {body : κ → List τ} {record : κ → τ} {exec : τ → σ → Except ε σ}
  {ready : σ → Prop} {done : κ → σ → Prop} (h : Records record exec ready done)
include h

theorem Records.ready_executeAll {ts : List τ} {s s' : σ} (hts : executeAll exec ts s = .ok s')
    (hs : ready s) : ready s' := by
  induction ts generalizing s with
  | nil =>
    cases hts
    exact hs
  | cons t ts ih =>
    obtain ⟨s1, h1, h2⟩ := executeAll_cons_ok.mp hts
    exact ih h2 (h.stays t s s1 h1 hs)

theorem Records.kept_executeAll {k : κ} {ts : List τ} {s s' : σ}
    (hts : executeAll exec ts s = .ok s') (hs : ready s) (hk : done k s) : done k s' := by
  induction ts generalizing s with
  | nil =>
    cases hts
    exact hk
  | cons t ts ih =>
    obtain ⟨s1, h1, h2⟩ := executeAll_cons_ok.mp hts
    exact ih h2 (h.stays t s s1 h1 hs) (h.kept k t s s1 h1 hs hk)

/-- What is still to be recorded is not recorded yet. -/
theorem Records.not_done_of_mem {k : κ} {ts : List τ} {s s' : σ}
    (hts : executeAll exec ts s = .ok s') (hs : ready s) (hk : record k ∈ ts) : ¬ done k s := by
  induction ts generalizing s with
  | nil => cases hk
  | cons t ts ih =>
    obtain ⟨s1, h1, h2⟩ := executeAll_cons_ok.mp hts
    rcases List.mem_cons.mp hk with rfl | hk
    · exact (h.once k s s1 h1 hs).1
    · exact fun hd => ih h2 (h.stays t s s1 h1 hs) hk (h.kept k t s s1 h1 hs hd)

theorem Records.filter_unrecorded [∀ k s, Decidable (done k s)] {ks : List κ} {ts : List τ} {s s' : σ}
    (hts : executeAll exec ts s = .ok s') (hs : ready s) (hks : ∀ k ∈ ks, record k ∈ ts) :
    (ks.filter fun k => ¬ done k s) = ks :=
  List.filter_eq_self.mpr fun k hk => decide_eq_true (h.not_done_of_mem hts hs (hks k hk))

/-- A script that is executed to its end is recorded. -/
theorem Records.done_of_script {k : κ} {s s' : σ} (hk : executeAll exec (body k ++ [record k]) s = .ok s')
    (hs : ready s) : done k s' := by
  obtain ⟨sb, hb, hrec⟩ := executeAll_append_ok.mp hk
  obtain ⟨_, hrec, hend⟩ := executeAll_cons_ok.mp hrec
  cases hend
  exact (h.once k sb s' hrec (h.ready_executeAll hb hs)).2

/-- **Starting over** after `m` statements.  The scripts that are recorded by then are left out,
and the rest is executed from its beginning; the store ends as if the process had lived exactly
when the cut is clean. -/
theorem Records.starts_over_iff [∀ k s, Decidable (done k s)] {size : σ → Nat} {adds : τ → Nat}
    {same : σ → σ → Prop} (hsize : ∀ t s s', exec t s = .ok s' → size s' = size s + adds t)
    (hidle : ∀ t s s', exec t s = .ok s' → adds t = 0 → s' = s) (hrefl : ∀ s, same s s)
    (hsame : ∀ s s', same s s' → size s = size s') {ks : List κ} {m : Nat} {s s1 cut : σ}
    (hs : ready s) (hlive : executeAll exec (plan body record ks) s = .ok s1)
    (hcut : executeAll exec ((plan body record ks).take m) s = .ok cut) :
    (∃ s2, executeAll exec (plan body record (ks.filter fun k => ¬ done k cut)) cut = .ok s2 ∧ same s2 s1) ↔
      Clean body adds m ks := by
  induction ks generalizing m s with
  | nil =>
    have hnil : (plan body record []).take m = [] := List.take_nil
    rw [hnil] at hcut
    cases hcut
    cases hlive
    exact iff_of_true ⟨_, rfl, hrefl _⟩ trivial
  | cons k ks ih =>
    unfold Clean
    split
    · -- the script is not recorded, and its body starts over
      next hm =>
      rw [take_plan_of_le body record hm] at hcut
      have hrest : plan body record (k :: ks) =
          (body k).take m ++ ((body k).drop m ++ ([record k] ++ plan body record ks)) := by
        rw [plan_cons, ← List.append_assoc ((body k).take m), List.take_append_drop]
      have hrun : executeAll exec ((body k).drop m ++ ([record k] ++ plan body record ks)) cut = .ok s1 := by
        rw [hrest] at hlive
        obtain ⟨s', hs', hrun⟩ := executeAll_append_ok.mp hlive
        cases hcut.symm.trans hs'
        exact hrun
      have hall : ((k :: ks).filter fun k => ¬ done k cut) = k :: ks := by
        refine h.filter_unrecorded hrun (h.ready_executeAll hcut hs) fun k' hk' =>
          List.mem_append_right _ ?_
        rcases List.mem_cons.mp hk' with rfl | hk'
        · exact List.mem_append_left _ (List.mem_singleton_self _)
        · exact List.mem_append_right _ (record_mem_plan body record hk')
      rw [hall]
      constructor
      · rintro ⟨s2, h2, hs2⟩
        rw [hrest] at h2
        exact idle_of_repeated hsize hrun h2 (hsame s2 s1 hs2)
      · intro hclean
        cases executeAll_idle hidle hcut hclean
        exact ⟨s1, hlive, hrefl s1⟩
    · -- it is recorded, and left out
      next hm =>
      rw [take_plan_of_lt body record (Nat.lt_of_not_le hm)] at hcut
      obtain ⟨sk, hk, hcut⟩ := executeAll_append_ok.mp hcut
      obtain ⟨sk', hk', hlive⟩ := executeAll_append_ok.mp hlive
      cases hk.symm.trans hk'
      have hdone : done k cut :=
        h.kept_executeAll hcut (h.ready_executeAll hk hs) (h.done_of_script hk hs)
      have hleft : ((k :: ks).filter fun k => ¬ done k cut) = ks.filter fun k => ¬ done k cut :=
        List.filter_cons_of_neg (by simpa using hdone)
      rw [hleft]
      exact ih (h.ready_executeAll hk hs) hlive hcut

end
end Process
end Py
