import GhostbustersServer.Dns.Upstream
import Mathlib.Data.Finset.Basic
import Mathlib.Data.Finset.Filter
import Mathlib.Data.Finset.Range

/-!
# Whose reply a forwarded lookup gets

Beside the forwarder runs an observer that knows which queries the resolver has not
answered, whose answers came in time, and which queries have been crossed: another one
with the same id was sent, or timed out, after them.

    Listed              the table holds exactly the calls that wait and are not crossed
    crossed_unanswered  a crossed query gets no reply any more
    forwarding_iff      replies go where they belong, exactly if no answer meets a crossed call
                        that waits, or another question under its id

The table has one place for each id, so a second query takes the place of the first, and a
timeout of the first removes the second.
-/

namespace Ghostbusters
namespace Dns

open Py

structure Observer where
  unanswered : Finset CallId
  inTime : Finset CallId
  crossed : Finset CallId

def Observer.start : Observer := ⟨∅, ∅, ∅⟩

/-- The queries with an id so far. -/
def withId (u : UpstreamProtocol) (t : Nat) : Finset CallId :=
  (Finset.range u.nextCall).filter fun f => txid (u.raw f) = t

def observe (e : Event) (u : UpstreamProtocol) (O : Observer) : Observer :=
  match e with
  | .query raw =>
    if raw.length < 2 then O
    else { O with unanswered := insert u.nextCall O.unanswered
                  crossed := O.crossed ∪ withId u (txid raw) }
  | .reply f _ =>
    { O with unanswered := O.unanswered.erase f
             inTime := if u.outcome f = .servfail then O.inTime else insert f O.inTime }
  | .timeout f =>
    if u.outcome f = .waiting then
      { O with crossed := O.crossed ∪ (withId u (txid (u.raw f))).erase f }
    else O

def track (e : Event) (s : UpstreamProtocol × Observer) : UpstreamProtocol × Observer :=
  (step e s.1, observe e s.1 s.2)

def start : UpstreamProtocol × Observer := (.start, .start)

/-! ## The table -/

/-- **The invariant.** -/
structure Listed (u : UpstreamProtocol) (O : Observer) : Prop where
  fresh : ∀ f ∈ O.crossed, f < u.nextCall
  begun : ∀ f, u.outcome f ≠ .servfail → f < u.nextCall
  pending : ∀ t f, u.pending.get? t = some f ↔
    u.outcome f = .waiting ∧ txid (u.raw f) = t ∧ f ∉ O.crossed

section
variable {u : UpstreamProtocol} {O : Observer}

theorem mem_withId {t : Nat} {f : CallId} :
    f ∈ withId u t ↔ f < u.nextCall ∧ txid (u.raw f) = t := by
  unfold withId
  rw [Finset.mem_filter, Finset.mem_range]

theorem Listed.start : Listed .start .start where
  fresh := fun _ h => absurd h (Finset.notMem_empty _)
  begun := fun _ h => absurd rfl h
  pending := by
    intro t f
    refine ⟨fun h => ?_, fun h => ?_⟩
    · cases h
    · cases h.1

theorem Listed.lt (h : Listed u O) {f : CallId} (hf : u.outcome f = .waiting) : f < u.nextCall :=
  h.begun f fun he => by rw [hf] at he; cases he

theorem Listed.outcome_next (h : Listed u O) : u.outcome u.nextCall = .servfail := by
  by_contra hn
  exact absurd (h.begun _ hn) (Nat.lt_irrefl _)

/-- A new query takes the place of its id. -/
theorem Listed.begun_query (h : Listed u O) (raw : Bytes) {f : CallId}
    (hf : (u.query raw).outcome f ≠ .servfail) : f < (u.query raw).nextCall := by
  rw [UpstreamProtocol.nextCall_query]
  rw [UpstreamProtocol.outcome_query] at hf
  split at hf
  · next he =>
    rw [he]
    exact Nat.lt_succ_self _
  · exact Nat.lt_succ_of_lt (h.begun f hf)

theorem Listed.query (h : Listed u O) (raw : Bytes) :
    Listed (u.query raw) (observe (.query raw) u O) := by
  have hnext : u.outcome u.nextCall ≠ .waiting := fun hw => absurd (h.lt hw) (Nat.lt_irrefl _)
  unfold observe
  by_cases hl : raw.length < 2
  · simp only [if_pos hl]
    refine ⟨?_, fun f => h.begun_query raw, ?_⟩
    · intro f hf
      rw [UpstreamProtocol.nextCall_query]
      exact Nat.lt_succ_of_lt (h.fresh f hf)
    · intro t f
      rw [UpstreamProtocol.pending_query, if_neg fun hc => absurd hl (Nat.not_lt.mpr hc.1),
        UpstreamProtocol.outcome_query, UpstreamProtocol.raw_query, if_pos hl, h.pending]
      by_cases hf : f = u.nextCall
      · subst hf
        simp [hnext]
      · simp [hf]
  · simp only [if_neg hl]
    refine ⟨?_, fun f => h.begun_query raw, ?_⟩
    · intro f hf
      rw [UpstreamProtocol.nextCall_query]
      rcases Finset.mem_union.mp hf with hf | hf
      · exact Nat.lt_succ_of_lt (h.fresh f hf)
      · exact Nat.lt_succ_of_lt (mem_withId.mp hf).1
    · intro t f
      rw [UpstreamProtocol.pending_query, UpstreamProtocol.outcome_query, UpstreamProtocol.raw_query,
        if_neg hl, Finset.mem_union, mem_withId]
      simp only [Nat.not_lt.mp hl, true_and]
      by_cases hf : f = u.nextCall
      · subst hf
        -- the new call is in no place but its own
        have hnew : u.nextCall ∉ O.crossed := fun hc => absurd (h.fresh _ hc) (Nat.lt_irrefl _)
        have hold : u.pending.get? t ≠ some u.nextCall := fun hp => hnext ((h.pending _ _).mp hp).1
        by_cases ht : t = txid raw
        · simp [ht, hnew]
        · simp [ht, hold, Ne.symm ht]
      · by_cases ht : t = txid raw
        · -- the ones before it with this id are crossed
          subst ht
          simp only [if_pos, if_neg hf, Option.some.injEq, Ne.symm hf, false_iff]
          rintro ⟨hw, ht, hn⟩
          exact hn (.inr ⟨h.lt hw, ht⟩)
        · rw [if_neg ht, if_neg hf, if_neg hf, h.pending]
          refine and_congr_right fun _ => and_congr_right fun htf => not_congr ?_
          refine ⟨.inl, fun hc => hc.resolve_right fun hid => ht ?_⟩
          rw [← htf, hid.2]

/-- A call that is done leaves its place. -/
theorem Listed.finish (h : Listed u O) {t : Nat} {f : CallId} {o : Outcome} {O' : Observer}
    (ho : o ≠ .waiting) (ht : txid (u.raw f) = t) (hf : f < u.nextCall)
    (hfresh : ∀ g ∈ O'.crossed, g ∈ O.crossed ∨ g < u.nextCall)
    (hothers : ∀ g, g ≠ f → txid (u.raw g) ≠ t → (g ∈ O'.crossed ↔ g ∈ O.crossed))
    (hplace : ∀ g, g ≠ f → u.outcome g = .waiting → txid (u.raw g) = t → g ∈ O'.crossed) :
    Listed { u.finish f o with pending := u.pending.erase t } O' := by
  let u' : UpstreamProtocol := { u.finish f o with pending := u.pending.erase t }
  have hout : ∀ g, u'.outcome g = if g = f then o else u.outcome g :=
    fun g => UpstreamProtocol.outcome_finish f g o
  have hraw : ∀ g, u'.raw g = u.raw g := fun g => UpstreamProtocol.raw_finish f g o
  refine ⟨?_, ?_, ?_⟩
  · intro g hg
    rcases hfresh g hg with hg | hg
    · exact h.fresh g hg
    · exact hg
  · intro g hg
    change u'.outcome g ≠ .servfail at hg
    rw [hout] at hg
    split at hg
    · next he => exact he ▸ hf
    · exact h.begun g hg
  · intro k g
    change u'.pending.get? k = some g ↔ u'.outcome g = .waiting ∧ txid (u'.raw g) = k ∧ _
    rw [hout, hraw]
    show (u.pending.erase t).get? k = some g ↔ _
    rw [Dict.get?_erase]
    by_cases hk : k = t
    · subst hk
      rw [if_pos rfl]
      refine iff_of_false (fun hn => by cases hn) ?_
      rintro ⟨hw, hid, hn⟩
      split at hw
      · exact absurd hw ho
      · next hg => exact absurd (hplace g hg hw hid) hn
    · rw [if_neg hk, h.pending]
      by_cases hg : g = f
      · subst hg
        rw [if_pos rfl, ht]
        exact iff_of_false (fun hc => hk hc.2.1.symm) fun hc => ho hc.1
      · rw [if_neg hg]
        refine and_congr_right fun _ => and_congr_right fun hid => not_congr ?_
        exact (hothers g hg fun he => hk (hid.symm.trans he)).symm

/-- One call has the place of its id: nobody else waits under it uncrossed. -/
theorem Listed.unique (h : Listed u O) {f g : CallId} (hf : u.outcome f = .waiting)
    (hfc : f ∉ O.crossed) (hg : u.outcome g = .waiting) (hgc : g ∉ O.crossed)
    (hid : txid (u.raw g) = txid (u.raw f)) : g = f := by
  have h1 := (h.pending (txid (u.raw f)) f).mpr ⟨hf, rfl, hfc⟩
  have h2 := (h.pending (txid (u.raw f)) g).mpr ⟨hg, hid, hgc⟩
  exact Option.some.inj (h2.symm.trans h1)

/-- A datagram with an id leaves nobody waiting in the place of that id. -/
theorem Listed.reply (h : Listed u O) (f : CallId) {data : Bytes} (hl : 2 ≤ data.length) :
    Listed (u.datagramReceived data) (observe (.reply f data) u O) := by
  cases hp : u.pending.get? (txid data) with
  | none =>
    rw [UpstreamProtocol.datagramReceived_none hp]
    exact ⟨h.fresh, h.begun, h.pending⟩
  | some g =>
    obtain ⟨hw, hid, hc⟩ := (h.pending _ _).mp hp
    rw [UpstreamProtocol.datagramReceived_some hl hp hw]
    refine h.finish (fun he => by cases he) hid (h.lt hw) (fun k hk => .inl hk)
      (fun k _ _ => Iff.rfl) ?_
    intro k hk hwk hidk
    by_contra hck
    exact hk (h.unique hw hc hwk hck (hidk.trans hid.symm))

theorem observe_timeout_waiting {f : CallId} (hw : u.outcome f = .waiting) :
    observe (.timeout f) u O =
      { O with crossed := O.crossed ∪ (withId u (txid (u.raw f))).erase f } :=
  if_pos hw

theorem observe_timeout_done {f : CallId} (hw : u.outcome f ≠ .waiting) :
    observe (.timeout f) u O = O :=
  if_neg hw

theorem Listed.expire (h : Listed u O) (f : CallId) :
    Listed (u.expire f) (observe (.timeout f) u O) := by
  by_cases hw : u.outcome f = .waiting
  · rw [UpstreamProtocol.expire_waiting hw, observe_timeout_waiting hw]
    refine h.finish (fun he => by cases he) rfl (h.lt hw) ?_ ?_ ?_
    · intro g hg
      rcases Finset.mem_union.mp hg with hg | hg
      · exact .inl hg
      · exact .inr (mem_withId.mp (Finset.mem_erase.mp hg).2).1
    · intro g _ hid
      refine ⟨fun hg => ?_, fun hg => Finset.mem_union_left _ hg⟩
      rcases Finset.mem_union.mp hg with hg | hg
      · exact hg
      · exact absurd (mem_withId.mp (Finset.mem_erase.mp hg).2).2 hid
    · intro g hg hwg hid
      exact Finset.mem_union_right _ (Finset.mem_erase.mpr ⟨hg, mem_withId.mpr ⟨h.lt hwg, hid⟩⟩)
  · rw [UpstreamProtocol.expire_done hw, observe_timeout_done hw]
    exact h

theorem Listed.step (h : Listed u O) (e : Event) : Listed (step e u) (observe e u O) := by
  cases e with
  | query raw => exact h.query raw
  | timeout f => exact h.expire f
  | reply f data =>
    by_cases hl : 2 ≤ data.length
    · exact h.reply f hl
    · have hsame : u.datagramReceived data = u := if_pos (Nat.not_le.mp hl)
      show Listed (u.datagramReceived data) _
      rw [hsame]
      exact ⟨h.fresh, h.begun, h.pending⟩

theorem crossed_grows (e : Event) (u : UpstreamProtocol) (O : Observer) :
    O.crossed ⊆ (observe e u O).crossed := by
  unfold observe
  cases e with
  | query raw =>
    dsimp only
    split
    · exact Finset.Subset.refl _
    · exact Finset.subset_union_left
  | reply f data => exact Finset.Subset.refl _
  | timeout f =>
    dsimp only
    split
    · exact Finset.subset_union_left
    · exact Finset.Subset.refl _

/-- Only a call that has its place gets a reply. -/
theorem Listed.replied (h : Listed u O) {e : Event} {f : CallId} {data : Bytes}
    (hr : (Dns.step e u).outcome f = .reply data) : u.outcome f = .reply data ∨ f ∉ O.crossed := by
  cases e with
  | query raw =>
    change (u.query raw).outcome f = .reply data at hr
    rw [UpstreamProtocol.outcome_query] at hr
    split at hr
    · split at hr <;> cases hr
    · exact .inl hr
  | timeout g =>
    change (u.expire g).outcome f = .reply data at hr
    by_cases hw : u.outcome g = .waiting
    · rw [UpstreamProtocol.expire_waiting hw] at hr
      change (u.finish g .servfail).outcome f = .reply data at hr
      rw [UpstreamProtocol.outcome_finish] at hr
      split at hr
      · cases hr
      · exact .inl hr
    · rw [UpstreamProtocol.expire_done hw] at hr
      exact .inl hr
  | reply g d =>
    change (u.datagramReceived d).outcome f = .reply data at hr
    by_cases hl : 2 ≤ d.length
    · cases hp : u.pending.get? (txid d) with
      | none =>
        rw [UpstreamProtocol.datagramReceived_none hp] at hr
        exact .inl hr
      | some k =>
        obtain ⟨hw, -, hc⟩ := (h.pending _ k).mp hp
        rw [UpstreamProtocol.datagramReceived_some hl hp hw] at hr
        change (u.finish k (.reply d)).outcome f = .reply data at hr
        rw [UpstreamProtocol.outcome_finish] at hr
        split at hr
        · next he => exact .inr (he ▸ hc)
        · exact .inl hr
    · have hsame : u.datagramReceived d = u := if_pos (Nat.not_le.mp hl)
      rw [hsame] at hr
      exact .inl hr

end

/-- **A crossed query** that has no reply by then never gets one. -/
theorem crossed_unanswered (es : List Event) {s : UpstreamProtocol × Observer}
    (h : Listed s.1 s.2) {f : CallId} (hc : f ∈ s.2.crossed)
    (hf : ∀ data, s.1.outcome f ≠ .reply data) (data : Bytes) :
    (runs track es s).1.outcome f ≠ .reply data := by
  have hrun : Listed (runs track es s).1 (runs track es s).2 ∧ f ∈ (runs track es s).2.crossed ∧
      ∀ data, (runs track es s).1.outcome f ≠ .reply data := by
    refine runs_preserves (I := fun s => Listed s.1 s.2 ∧ f ∈ s.2.crossed ∧
      ∀ data, s.1.outcome f ≠ .reply data) ?_ es s ⟨h, hc, hf⟩
    rintro e s ⟨h, hc, hf⟩
    refine ⟨h.step e, crossed_grows e s.1 s.2 hc, fun data hr => ?_⟩
    rcases h.replied hr with hr | hn
    · exact hf data hr
    · exact hn hc
  exact hrun.2.2 data

/-! ## Every run -/

section
variable {Q : Type} (question : Bytes → Q)

/-- The resolver answers a query that it has not answered yet, with its id and question. -/
def Lawful (e : Event) (s : UpstreamProtocol × Observer) : Prop :=
  match e with
  | .reply f data => f ∈ s.2.unanswered ∧ 2 ≤ data.length ∧ txid data = txid (s.1.raw f) ∧
      question data = question (s.1.raw f)
  | _ => True

/-- **The property.** -/
structure Faithful (s : UpstreamProtocol × Observer) : Prop where
  own : ∀ f data, s.1.outcome f = .reply data → question data = question (s.1.raw f)
  kept : ∀ f ∈ s.2.inTime, ∃ data, s.1.outcome f = .reply data

/-- **The condition.**  The query that is answered, if it still waits, is not crossed; and
one with its id that waits and is not crossed has the same question. -/
def Uncrossed (e : Event) (s : UpstreamProtocol × Observer) : Prop :=
  match e with
  | .reply f _ => (s.1.outcome f = .waiting → f ∉ s.2.crossed) ∧
      ∀ g < s.1.nextCall, s.1.outcome g = .waiting → txid (s.1.raw g) = txid (s.1.raw f) →
        g ∉ s.2.crossed → question (s.1.raw g) = question (s.1.raw f)
  | _ => True

/-- What holds of the state of a run. -/
structure Inv (s : UpstreamProtocol × Observer) : Prop where
  listed : Listed s.1 s.2
  faithful : Faithful question s

variable {question} {s : UpstreamProtocol × Observer}

theorem Inv.start : Inv question start where
  listed := .start
  faithful := ⟨fun _ _ h => (by cases h), fun _ h => absurd h (Finset.notMem_empty _)⟩

theorem Inv.query (h : Inv question s) (raw : Bytes) : Inv question (track (.query raw) s) := by
  obtain ⟨u, O⟩ := s
  have hnext : u.outcome u.nextCall = .servfail := h.listed.outcome_next
  have htime : (observe (.query raw) u O).inTime = O.inTime := by
    unfold observe
    dsimp only
    split <;> rfl
  refine ⟨h.listed.query raw, ?_, ?_⟩
  · intro f data hf
    change (u.query raw).outcome f = .reply data at hf
    show question data = question ((u.query raw).raw f)
    rw [UpstreamProtocol.outcome_query] at hf
    rw [UpstreamProtocol.raw_query]
    split at hf
    · split at hf <;> cases hf
    · next hne =>
      rw [if_neg hne]
      exact h.faithful.own f data hf
  · intro f hf
    change f ∈ (observe (.query raw) u O).inTime at hf
    rw [htime] at hf
    obtain ⟨data, hd⟩ := h.faithful.kept f hf
    have hold : f ≠ u.nextCall := by
      rintro rfl
      cases hnext.symm.trans hd
    refine ⟨data, ?_⟩
    show (u.query raw).outcome f = .reply data
    rw [UpstreamProtocol.outcome_query, if_neg hold]
    exact hd

/-- A call that waited is done: what the other calls have is untouched. -/
theorem Faithful.finish (h : Faithful question s) {f : CallId} {o : Outcome}
    (hw : s.1.outcome f = .waiting) (ho : ∀ data, o = .reply data → question data = question (s.1.raw f))
    {u' : UpstreamProtocol} {O' : Observer} (hcalls : u'.calls = (s.1.finish f o).calls)
    (htime : ∀ g ∈ O'.inTime, g ∈ s.2.inTime ∨ ∃ data, u'.outcome g = .reply data) :
    Faithful question (u', O') := by
  have hout : ∀ g, u'.outcome g = if g = f then o else s.1.outcome g := fun g =>
    (congrArg (fun c => (c g).outcome) hcalls).trans (UpstreamProtocol.outcome_finish f g o)
  have hraw : ∀ g, u'.raw g = s.1.raw g := fun g =>
    (congrArg (fun c => (c g).raw) hcalls).trans (UpstreamProtocol.raw_finish f g o)
  refine ⟨?_, ?_⟩
  · intro g data hg
    change u'.outcome g = .reply data at hg
    show question data = question (u'.raw g)
    rw [hout] at hg
    rw [hraw]
    split at hg
    · next he => exact he ▸ ho data hg
    · exact h.own g data hg
  · intro g hg
    rcases htime g hg with hg | hg
    · obtain ⟨data, hd⟩ := h.kept g hg
      have hne : g ≠ f := by
        rintro rfl
        cases hw.symm.trans hd
      refine ⟨data, ?_⟩
      show u'.outcome g = .reply data
      rw [hout, if_neg hne]
      exact hd
    · exact hg

theorem Inv.timeout (h : Inv question s) (f : CallId) : Inv question (track (.timeout f) s) := by
  refine ⟨h.listed.expire f, ?_⟩
  by_cases hw : s.1.outcome f = .waiting
  · show Faithful question (s.1.expire f, observe (.timeout f) s.1 s.2)
    rw [UpstreamProtocol.expire_waiting hw, observe_timeout_waiting hw]
    exact h.faithful.finish hw (fun data he => by cases he) rfl fun g hg => .inl hg
  · show Faithful question (s.1.expire f, observe (.timeout f) s.1 s.2)
    rw [UpstreamProtocol.expire_done hw, observe_timeout_done hw]
    exact h.faithful

theorem mem_inTime_reply {u : UpstreamProtocol} {O : Observer} {f g : CallId} (data : Bytes) :
    g ∈ (observe (.reply f data) u O).inTime ↔
      g ∈ O.inTime ∨ (g = f ∧ u.outcome f ≠ .servfail) := by
  unfold observe
  by_cases hs : u.outcome f = .servfail
  · simp [hs]
  · simp [hs, or_comm]

/-- **An answer that meets the condition.** -/
theorem Inv.reply (h : Inv question s) {f : CallId} {data : Bytes}
    (hl : Lawful question (.reply f data) s) (hc : Uncrossed question (.reply f data) s) :
    Inv question (track (.reply f data) s) := by
  obtain ⟨-, hlen, hid, hq⟩ := hl
  obtain ⟨hf, hg⟩ := hc
  refine ⟨h.listed.reply f hlen, ?_⟩
  show Faithful question (s.1.datagramReceived data, observe (.reply f data) s.1 s.2)
  cases hp : s.1.pending.get? (txid data) with
  | none =>
    rw [UpstreamProtocol.datagramReceived_none hp]
    refine ⟨h.faithful.own, ?_⟩
    intro g hg
    rcases (mem_inTime_reply data).mp hg with hg | ⟨rfl, hs⟩
    · exact h.faithful.kept g hg
    · -- it does not wait any more: another answer has completed it
      cases ho : s.1.outcome g with
      | reply data' => exact ⟨data', rfl⟩
      | servfail => exact absurd ho hs
      | waiting =>
        rw [hid, (h.listed.pending _ g).mpr ⟨ho, rfl, hf ho⟩] at hp
        cases hp
  | some g =>
    obtain ⟨hw, hgid, hgc⟩ := (h.listed.pending _ g).mp hp
    rw [UpstreamProtocol.datagramReceived_some hlen hp hw]
    refine h.faithful.finish hw ?_ rfl ?_
    · intro data' he
      cases he
      rw [hq, hg g (h.listed.lt hw) hw (hgid.trans hid) hgc]
    · intro k hk
      rcases (mem_inTime_reply data).mp hk with hk | ⟨rfl, hs⟩
      · exact .inl hk
      · right
        show ∃ data', (s.1.finish g (.reply data)).outcome k = .reply data'
        rw [UpstreamProtocol.outcome_finish]
        by_cases hkg : k = g
        · exact ⟨data, if_pos hkg⟩
        · rw [if_neg hkg]
          cases ho : s.1.outcome k with
          | reply data' => exact ⟨data', rfl⟩
          | servfail => exact absurd ho hs
          | waiting => exact absurd (h.listed.unique hw hgc ho (hf ho) (hid.symm.trans hgid.symm)) hkg

/-- **An answer that does not** goes to another question, or leaves its own query waiting
for good. -/
theorem Inv.not_faithful (h : Inv question s) {f : CallId} {data : Bytes}
    (hl : Lawful question (.reply f data) s) (hc : ¬ Uncrossed question (.reply f data) s) :
    ¬ Faithful question (track (.reply f data) s) := by
  obtain ⟨-, hlen, hid, hq⟩ := hl
  intro hfaith
  refine hc ⟨?_, ?_⟩
  · intro hw hcross
    -- the place of its id is another's, or empty
    have hin : f ∈ (observe (.reply f data) s.1 s.2).inTime := by
      refine (mem_inTime_reply data).mpr (.inr ⟨rfl, fun he => ?_⟩)
      rw [hw] at he
      cases he
    obtain ⟨data', hd⟩ := hfaith.kept f hin
    change (s.1.datagramReceived data).outcome f = .reply data' at hd
    cases hp : s.1.pending.get? (txid data) with
    | none =>
      rw [UpstreamProtocol.datagramReceived_none hp, hw] at hd
      cases hd
    | some g =>
      obtain ⟨hwg, -, hgc⟩ := (h.listed.pending _ g).mp hp
      rw [UpstreamProtocol.datagramReceived_some hlen hp hwg] at hd
      change (s.1.finish g (.reply data)).outcome f = .reply data' at hd
      have hne : f ≠ g := fun he => hgc (he ▸ hcross)
      rw [UpstreamProtocol.outcome_finish, if_neg hne, hw] at hd
      cases hd
  · intro g _ hw hgid hgc
    have hp := (h.listed.pending (txid data) g).mpr ⟨hw, hgid.trans hid.symm, hgc⟩
    have hout : (track (.reply f data) s).1.outcome g = .reply data := by
      show (s.1.datagramReceived data).outcome g = .reply data
      rw [UpstreamProtocol.datagramReceived_some hlen hp hw]
      exact (UpstreamProtocol.outcome_finish g g _).trans (if_pos rfl)
    have hraw : (track (.reply f data) s).1.raw g = s.1.raw g := by
      show (s.1.datagramReceived data).raw g = s.1.raw g
      rw [UpstreamProtocol.datagramReceived_some hlen hp hw]
      exact UpstreamProtocol.raw_finish g g _
    have hown := hfaith.own g data hout
    rw [hraw, hq] at hown
    exact hown.symm

theorem track_inv (e : Event) (s : UpstreamProtocol × Observer) (hl : Lawful question e s)
    (h : Inv question s) (hc : Uncrossed question e s) : Inv question (track e s) := by
  cases e with
  | query raw => exact h.query raw
  | reply f data => exact h.reply hl hc
  | timeout f => exact h.timeout f

theorem track_not_faithful (e : Event) (s : UpstreamProtocol × Observer) (hl : Lawful question e s)
    (h : Inv question s) (hc : ¬ Uncrossed question e s) : ¬ Faithful question (track e s) := by
  cases e with
  | query raw => exact absurd trivial hc
  | reply f data => exact h.not_faithful hl hc
  | timeout f => exact absurd trivial hc

variable (question)

/-- **Where the replies go**: in every interleaving with a lawful resolver, each reply that
is handed back answers its own question, and a query answered in time gets a reply,
exactly if every answer meets the condition. -/
theorem forwarding_iff (es : List Event) (hes : Guarded track (Lawful question) es start) :
    (∀ n, Faithful question (runs track (es.take n) start)) ↔
      Guarded track (Uncrossed question) es start :=
  throughout_iff_guarded_of (I := Inv question) (fun _ h => h.faithful) track_inv track_not_faithful
    es start hes .start

end

/-! ## Two lookups with one id -/

/-- The name at the front, label by label, with the type and the class behind it. -/
def questionAt : Nat → Bytes → Bytes
  | 0, _ => []
  | _, [] => []
  | fuel + 1, n :: rest =>
    if n = 0 then n :: rest.take 4
    else n :: rest.take n.toNat ++ questionAt fuel (rest.drop n.toNat)

/-- The question of a message: it follows the header. -/
def questionOf (data : Bytes) : Bytes := questionAt data.length (data.drop 12)

/-- The name `a`, type A, class IN. -/
def questionA : Bytes := [1, 97, 0, 0, 1, 0, 1]

def questionB : Bytes := [1, 98, 0, 0, 1, 0, 1]

/-- A client's lookup, recursion desired. -/
def lookup (id : UInt8) (question : Bytes) : Bytes :=
  [0, id, 1, 0, 0, 1, 0, 0, 0, 0, 0, 0] ++ question

/-- The resolver's reply with one address. -/
def answer (id : UInt8) (question : Bytes) (host : UInt8) : Bytes :=
  [0, id, 129, 128, 0, 1, 0, 1, 0, 0, 0, 0] ++ question ++
    [192, 12, 0, 1, 0, 1, 0, 0, 0, 60, 0, 4, 10, 0, 0, host]

/-- Two clients have picked the same id; both queries are answered. -/
def sameId : List Event :=
  [.query (lookup 7 questionA), .query (lookup 7 questionB),
   .reply 0 (answer 7 questionA 1), .reply 1 (answer 7 questionB 2), .timeout 0]

instance (e : Event) (s : UpstreamProtocol × Observer) : Decidable (Lawful questionOf e s) := by
  cases e <;> unfold Lawful <;> infer_instance

instance (e : Event) (s : UpstreamProtocol × Observer) : Decidable (Uncrossed questionOf e s) := by
  cases e <;> unfold Uncrossed <;> infer_instance

/-- The second client gets the answer to the first one's question, and the first one,
whose answer came in time, a SERVFAIL. -/
theorem not_faithful_sameId :
    Guarded track (Lawful questionOf) sameId start ∧
    (runs track sameId start).1.calls 1 = ⟨lookup 7 questionB, .reply (answer 7 questionA 1)⟩ ∧
    (runs track sameId start).1.calls 0 = ⟨lookup 7 questionA, .servfail⟩ ∧
    0 ∈ (runs track sameId start).2.inTime ∧
    ¬ ∀ n, Faithful questionOf (runs track (sameId.take n) start) := by
  refine ⟨by decide, by decide, by decide, by decide, fun h => ?_⟩
  have hout : (runs track (sameId.take 3) start).1.outcome 1 = .reply (answer 7 questionA 1) := by
    decide
  have hown := (h 3).own 1 _ hout
  revert hown
  decide

/-- The same lookups, with an id of its own for each. -/
def ownIds : List Event :=
  [.query (lookup 7 questionA), .query (lookup 8 questionB),
   .reply 1 (answer 8 questionB 2), .reply 0 (answer 7 questionA 1)]

theorem forwarding_ownIds :
    Guarded track (Lawful questionOf) ownIds start ∧
      ∀ n, Faithful questionOf (runs track (ownIds.take n) start) := by
  have hlaw : Guarded track (Lawful questionOf) ownIds start := by decide
  have hcond : Guarded track (Uncrossed questionOf) ownIds start := by decide
  exact ⟨hlaw, (forwarding_iff questionOf ownIds hlaw).mpr hcond⟩

end Dns
end Ghostbusters
