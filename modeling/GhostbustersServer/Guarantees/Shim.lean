import GhostbustersServer.Dns.Shim
import GhostbustersServer.Guarantees.Forwarding

/-!
# What the shim's clients are sent

Lookups of any number of clients, replies of the resolver and timeouts interleave.

    Answered            each hijacked lookup has its answer, each forwarded one has one exactly
                        if its call has returned, and nothing else has been sent
    answers_exact       this holds after every run
    answers_belong      and with lawful replies that meet no crossed call, each client has been
                        sent answers to its own questions only
-/

namespace Ghostbusters
namespace Dns

open Py

variable {R : Type} (lib : Dnslib R) (cfg : Settings)

/-- A client's datagram. -/
def lookupIn : ShimEvent → Option (Bytes × Remote)
  | .datagram data addr => some (data, addr)
  | _ => none

/-- The clients' datagrams, in order. -/
def lookups (es : List ShimEvent) : List (Bytes × Remote) := es.filterMap lookupIn

/-- The answer that a hijacked lookup is due. -/
def hijackAnswer (p : Bytes × Remote) : Option (Remote × Bytes) :=
  match disposition lib cfg p.1 with
  | .hijacked answer => answer.map fun a => (p.2, a)
  | _ => none

/-- A lookup that is forwarded, and its record. -/
def forwardOf (p : Bytes × Remote) : Option ((Bytes × Remote) × R) :=
  match disposition lib cfg p.1 with
  | .forwarded req => some (p, req)
  | _ => none

/-- The tasks of the forwarded lookups: their calls are numbered in order of arrival. -/
def forwards (ps : List (Bytes × Remote)) : List (Task R) :=
  (ps.filterMap (forwardOf lib cfg)).mapIdx fun n q => ⟨n, q.1.1, q.1.2, q.2⟩

theorem forwards_snoc (ps : List (Bytes × Remote)) (p : Bytes × Remote) :
    forwards lib cfg (ps ++ [p]) = match disposition lib cfg p.1 with
      | .forwarded req =>
        forwards lib cfg ps ++ [⟨(forwards lib cfg ps).length, p.1, p.2, req⟩]
      | _ => forwards lib cfg ps := by
  unfold forwards
  rw [List.filterMap_append]
  cases hd : disposition lib cfg p.1 with
  | forwarded req =>
    have hp : [p].filterMap (forwardOf lib cfg) = [(p, req)] := by simp [forwardOf, hd]
    rw [hp, List.mapIdx_concat, List.length_mapIdx]
  | ignored =>
    have hp : [p].filterMap (forwardOf lib cfg) = [] := by simp [forwardOf, hd]
    rw [hp, List.append_nil]
  | hijacked answer =>
    have hp : [p].filterMap (forwardOf lib cfg) = [] := by simp [forwardOf, hd]
    rw [hp, List.append_nil]

theorem lt_of_mem_forwards {ps : List (Bytes × Remote)} {t : Task R} (h : t ∈ forwards lib cfg ps) :
    t.call < (forwards lib cfg ps).length := by
  unfold forwards at h ⊢
  obtain ⟨i, hi, rfl⟩ := List.mem_mapIdx.mp h
  rw [List.length_mapIdx]
  exact hi

/-- **Answered.**  `ps` are the lookups so far. -/
structure Answered (ps : List (Bytes × Remote)) (s : ShimProtocol R) : Prop where
  /-- the tasks that are left wait -/
  tasks : s.tasks = (forwards lib cfg ps).filter fun t => s.upstream.outcome t.call = .waiting
  /-- all that has been sent -/
  sent : s.sent.Perm (ps.filterMap (hijackAnswer lib cfg) ++
    (forwards lib cfg ps).filterMap (answerOf lib s.upstream))
  calls : s.upstream.nextCall = (forwards lib cfg ps).length
  raw : ∀ t ∈ forwards lib cfg ps, s.upstream.raw t.call = t.data

/-! ## Steps -/

/-- Results that come in for some elements of a list. -/
theorem filterMap_perm_append {α β : Type} {f g : α → Option β} {p : α → Bool} (xs : List α)
    (hold : ∀ x ∈ xs, p x = false → g x = f x) (hnew : ∀ x ∈ xs, p x = true → f x = none) :
    (xs.filterMap g).Perm (xs.filterMap f ++ (xs.filter p).filterMap g) := by
  induction xs with
  | nil => exact .refl _
  | cons x xs ih =>
    have ih' := ih (fun y hy => hold y (List.mem_cons_of_mem _ hy))
      fun y hy => hnew y (List.mem_cons_of_mem _ hy)
    cases hp : p x with
    | false =>
      have hg := hold x List.mem_cons_self hp
      rw [List.filter_cons_of_neg (by simp [hp])]
      cases hf : f x with
      | none => rw [List.filterMap_cons_none hf, List.filterMap_cons_none (hg.trans hf)]; exact ih'
      | some b =>
        rw [List.filterMap_cons_some hf, List.filterMap_cons_some (hg.trans hf)]
        exact ih'.cons b
    | true =>
      rw [List.filterMap_cons_none (hnew x List.mem_cons_self hp), List.filter_cons_of_pos hp]
      cases hg : g x with
      | none => rw [List.filterMap_cons_none hg, List.filterMap_cons_none hg]; exact ih'
      | some b =>
        rw [List.filterMap_cons_some hg, List.filterMap_cons_some hg]
        exact (ih'.cons b).trans List.perm_middle.symm

/-- The forwarder has gone on: no call waits again, and no outcome changes. -/
structure Advances (n : Nat) (u u' : UpstreamProtocol) : Prop where
  done : ∀ f < n, u.outcome f ≠ .waiting → u'.outcome f = u.outcome f
  raw : ∀ f < n, u'.raw f = u.raw f

theorem advances_datagramReceived (n : Nat) (u : UpstreamProtocol) (data : Bytes) :
    Advances n u (u.datagramReceived data) ∧
      (u.datagramReceived data).nextCall = u.nextCall := by
  unfold UpstreamProtocol.datagramReceived
  split
  · exact ⟨⟨fun _ _ _ => rfl, fun _ _ => rfl⟩, rfl⟩
  · split
    · exact ⟨⟨fun _ _ _ => rfl, fun _ _ => rfl⟩, rfl⟩
    · next f _ =>
      dsimp only
      split
      · next hw =>
        refine ⟨⟨fun g _ hg => ?_, fun g _ => ?_⟩, rfl⟩
        · rw [UpstreamProtocol.outcome_finish]
          have hne : g ≠ f := fun h => hg (h ▸ hw)
          exact if_neg hne
        · exact UpstreamProtocol.raw_finish f g _
      · exact ⟨⟨fun _ _ _ => rfl, fun _ _ => rfl⟩, rfl⟩

theorem advances_expire (n : Nat) (u : UpstreamProtocol) (f : CallId) :
    Advances n u (u.expire f) ∧ (u.expire f).nextCall = u.nextCall := by
  unfold UpstreamProtocol.expire
  split
  · next hw =>
    refine ⟨⟨fun g _ hg => ?_, fun g _ => ?_⟩, rfl⟩
    · have hne : g ≠ f := fun h => hg (h ▸ hw)
      exact (UpstreamProtocol.outcome_finish f g _).trans (if_neg hne)
    · exact UpstreamProtocol.raw_finish f g _
  · exact ⟨⟨fun _ _ _ => rfl, fun _ _ => rfl⟩, rfl⟩

theorem answerOf_waiting {u : UpstreamProtocol} {t : Task R} (h : u.outcome t.call = .waiting) :
    answerOf lib u t = none := by
  unfold answerOf
  rw [h]

theorem answerOf_congr {u u' : UpstreamProtocol} {t : Task R}
    (h : u'.outcome t.call = u.outcome t.call) : answerOf lib u' t = answerOf lib u t := by
  unfold answerOf
  rw [h]

variable {lib cfg} {ps : List (Bytes × Remote)} {s : ShimProtocol R}

/-- **The forwarder's callbacks**: the tasks whose call has returned send their answers. -/
theorem Answered.advance (h : Answered lib cfg ps s) {u : UpstreamProtocol}
    (hu : Advances (forwards lib cfg ps).length s.upstream u) (hn : u.nextCall = s.upstream.nextCall) :
    Answered lib cfg ps (({ s with upstream := u } : ShimProtocol R).resume lib) := by
  have hlt := fun t (ht : t ∈ forwards lib cfg ps) => lt_of_mem_forwards lib cfg ht
  refine ⟨?_, ?_, hn.trans h.calls, fun t ht => (hu.raw _ (hlt t ht)).trans (h.raw t ht)⟩
  · show s.tasks.filter (fun t => u.outcome t.call = .waiting) =
      (forwards lib cfg ps).filter fun t => u.outcome t.call = .waiting
    rw [h.tasks, List.filter_filter]
    apply List.filter_congr
    intro t ht
    by_cases hw : s.upstream.outcome t.call = .waiting
    · simp [hw]
    · simp [hw, hu.done _ (hlt t ht) hw]
  · show (s.sent ++ s.tasks.filterMap (answerOf lib u)).Perm _
    have hsplit := filterMap_perm_append (f := answerOf lib s.upstream) (g := answerOf lib u)
      (p := fun t => decide (s.upstream.outcome t.call = .waiting)) (forwards lib cfg ps)
      (fun t ht hp => answerOf_congr lib (hu.done _ (hlt t ht) (by simpa using hp)))
      (fun t _ hp => answerOf_waiting lib (by simpa using hp))
    rw [h.tasks]
    refine (h.sent.append_right _).trans ?_
    rw [List.append_assoc]
    exact hsplit.symm.append_left _

theorem Answered.ignored (h : Answered lib cfg ps s) {data : Bytes} {addr : Remote}
    (hd : disposition lib cfg data = .ignored) :
    Answered lib cfg (ps ++ [(data, addr)]) (s.datagramReceived lib cfg data addr) := by
  have hps : forwards lib cfg (ps ++ [(data, addr)]) = forwards lib cfg ps := by
    rw [forwards_snoc, hd]
  have hs : s.datagramReceived lib cfg data addr = s := by
    unfold ShimProtocol.datagramReceived
    rw [hd]
  rw [hs]
  refine ⟨by rw [hps]; exact h.tasks, ?_, by rw [hps]; exact h.calls, by rw [hps]; exact h.raw⟩
  rw [hps, List.filterMap_append]
  simpa [hijackAnswer, hd] using h.sent

theorem Answered.hijacked (h : Answered lib cfg ps s) {data : Bytes} {addr : Remote}
    {answer : Option Bytes} (hd : disposition lib cfg data = .hijacked answer) :
    Answered lib cfg (ps ++ [(data, addr)]) (s.datagramReceived lib cfg data addr) := by
  have hps : forwards lib cfg (ps ++ [(data, addr)]) = forwards lib cfg ps := by
    rw [forwards_snoc, hd]
  have hs : s.datagramReceived lib cfg data addr =
      { s with sent := s.sent ++ answer.toList.map fun a => (addr, a) } := by
    unfold ShimProtocol.datagramReceived
    rw [hd]
  have hanswer : [(data, addr)].filterMap (hijackAnswer lib cfg) =
      answer.toList.map fun a => (addr, a) := by
    cases answer <;> simp [hijackAnswer, hd]
  rw [hs]
  refine ⟨by rw [hps]; exact h.tasks, ?_, by rw [hps]; exact h.calls, by rw [hps]; exact h.raw⟩
  rw [hps, List.filterMap_append, hanswer]
  refine (h.sent.append_right _).trans ?_
  rw [List.append_assoc, List.append_assoc]
  exact List.perm_append_comm.append_left _

theorem Answered.forwarded (h : Answered lib cfg ps s) {data : Bytes} {addr : Remote} {req : R}
    (hd : disposition lib cfg data = .forwarded req) :
    Answered lib cfg (ps ++ [(data, addr)]) (s.datagramReceived lib cfg data addr) := by
  let t : Task R := ⟨s.upstream.nextCall, data, addr, req⟩
  let u := s.upstream.query data
  have hps : forwards lib cfg (ps ++ [(data, addr)]) = forwards lib cfg ps ++ [t] := by
    rw [forwards_snoc, hd]
    simp only [t, h.calls]
  have hs : s.datagramReceived lib cfg data addr =
      ({ s with upstream := u, tasks := s.tasks ++ [t] } : ShimProtocol R).resume lib := by
    unfold ShimProtocol.datagramReceived
    rw [hd]
  have hne : ∀ t' ∈ forwards lib cfg ps, t'.call ≠ s.upstream.nextCall := fun t' ht' =>
    Nat.ne_of_lt (by rw [h.calls]; exact lt_of_mem_forwards lib cfg ht')
  have hout : ∀ t' ∈ forwards lib cfg ps, u.outcome t'.call = s.upstream.outcome t'.call :=
    fun t' ht' => (UpstreamProtocol.outcome_query data t'.call).trans (if_neg (hne t' ht'))
  have hkept : (forwards lib cfg ps).filterMap (answerOf lib u) =
      (forwards lib cfg ps).filterMap (answerOf lib s.upstream) :=
    List.filterMap_congr fun t' ht' => answerOf_congr lib (hout t' ht')
  -- nobody but the new task has anything to send
  have hidle : s.tasks.filterMap (answerOf lib u) = [] := by
    rw [List.filterMap_eq_nil_iff, h.tasks]
    intro t' ht'
    obtain ⟨hmem, hw⟩ := List.mem_filter.mp ht'
    exact answerOf_waiting lib ((hout t' hmem).trans (by simpa using hw))
  have hnone : [(data, addr)].filterMap (hijackAnswer lib cfg) = [] := by simp [hijackAnswer, hd]
  rw [hs]
  refine ⟨?_, ?_, ?_, ?_⟩
  · show (s.tasks ++ [t]).filter (fun t => u.outcome t.call = .waiting) =
      (forwards lib cfg (ps ++ [(data, addr)])).filter fun t => u.outcome t.call = .waiting
    rw [hps, h.tasks, List.filter_append, List.filter_append, List.filter_filter]
    congr 1
    apply List.filter_congr
    intro t' ht'
    simp [hout t' ht']
  · show (s.sent ++ (s.tasks ++ [t]).filterMap (answerOf lib u)).Perm
      ((ps ++ [(data, addr)]).filterMap (hijackAnswer lib cfg) ++
        (forwards lib cfg (ps ++ [(data, addr)])).filterMap (answerOf lib u))
    rw [hps, List.filterMap_append, List.filterMap_append, List.filterMap_append, hnone, hidle, hkept,
      List.append_nil, List.nil_append, ← List.append_assoc]
    exact h.sent.append_right _
  · show (s.upstream.query data).nextCall = _
    rw [UpstreamProtocol.nextCall_query, hps, List.length_append, h.calls]
    rfl
  · intro t' ht'
    rw [hps] at ht'
    show (s.upstream.query data).raw t'.call = t'.data
    rw [UpstreamProtocol.raw_query]
    rcases List.mem_append.mp ht' with ht' | ht'
    · rw [if_neg (hne t' ht'), h.raw t' ht']
    · rw [List.mem_singleton.mp ht']
      exact if_pos rfl

/-! ## Runs -/

theorem Answered.start : Answered lib cfg [] .start :=
  ⟨rfl, .refl _, rfl, fun _ ht => (by cases ht)⟩

theorem Answered.step (h : Answered lib cfg ps s) (e : ShimEvent) :
    Answered lib cfg (ps ++ lookups [e]) (shimStep lib cfg e s) := by
  cases e with
  | datagram data addr =>
    cases hd : disposition lib cfg data with
    | ignored => exact h.ignored hd
    | hijacked answer => exact h.hijacked hd
    | forwarded req => exact h.forwarded hd
  | reply f data =>
    rw [show lookups [.reply f data] = [] from rfl, List.append_nil]
    obtain ⟨hu, hn⟩ := advances_datagramReceived (forwards lib cfg ps).length s.upstream data
    exact h.advance hu hn
  | timeout f =>
    rw [show lookups [.timeout f] = [] from rfl, List.append_nil]
    obtain ⟨hu, hn⟩ := advances_expire (forwards lib cfg ps).length s.upstream f
    exact h.advance hu hn

theorem Answered.runs (h : Answered lib cfg ps s) (es : List ShimEvent) :
    Answered lib cfg (ps ++ lookups es) (Py.runs (shimStep lib cfg) es s) := by
  induction es generalizing ps s with
  | nil =>
    rw [show lookups [] = [] from rfl, List.append_nil]
    exact h
  | cons e es ih =>
    have hes : lookups (e :: es) = lookups [e] ++ lookups es :=
      @List.filterMap_append _ _ [e] es _
    rw [hes, ← List.append_assoc]
    exact ih (h.step e)

variable (lib cfg)

/-- **Every lookup is answered once, and nothing else is sent.**  Over every interleaving of
lookups, replies and timeouts, what has been sent is, up to order: to each client of a hijacked
lookup the shim's own answer; and for each forwarded lookup whose call has returned, to its
own client, the reply that the call returned or a SERVFAIL.  The other tasks wait. -/
theorem answers_exact (es : List ShimEvent) :
    Answered lib cfg (lookups es) (runs (shimStep lib cfg) es .start) :=
  Answered.start.runs es

/-- A host of the game, and one of somebody else. -/
def sampleSettings : Settings where
  publicHost := "10.0.0.1".toList
  hijackAll := false
  hijackDomains := ["a".toList]
  lower := fun s => s.map Char.toLower

/-- Records are messages; a reply repeats the question with the address behind it. -/
def sampleLib : Dnslib Bytes where
  parse := fun data => if data.length < 12 then none else some data
  questions := fun r => [((r.drop 13).take 1 |>.map fun b => Char.ofNat b.toNat, qtypeA)]
  reply := fun r _ host _ => some (r.take 2 ++ r.drop 12 ++ utf8Encode host)
  servfail := fun r => some (r.take 2 ++ [129, 130])

/-- Two clients ask for two hosts, the second time under one id. -/
def sampleLookups : List ShimEvent :=
  [.datagram (lookup 7 questionA) ⟨"10.0.0.2".toList, 53⟩,
   .datagram (lookup 7 questionB) ⟨"10.0.0.2".toList, 53⟩,
   .datagram (lookup 8 questionB) ⟨"10.0.0.3".toList, 53⟩,
   .reply 1 (answer 8 questionB 2), .timeout 0]

example : (runs (shimStep sampleLib sampleSettings) sampleLookups .start).sent =
    [(⟨"10.0.0.2".toList, 53⟩, [0, 7] ++ questionA ++ utf8Encode "10.0.0.1".toList),
     (⟨"10.0.0.3".toList, 53⟩, answer 8 questionB 2),
     (⟨"10.0.0.2".toList, 53⟩, [0, 7, 129, 130])] := by decide

/-! ## Nobody waits for ever -/

/-- What the forwarder sees of an event. -/
def upstreamEvent : ShimEvent → Option Event
  | .datagram data _ =>
    match disposition lib cfg data with
    | .forwarded _ => some (.query data)
    | _ => none
  | .reply f data => some (.reply f data)
  | .timeout f => some (.timeout f)

/-- The forwarder within the shim runs as it would alone. -/
theorem upstream_runs (es : List ShimEvent) (s : ShimProtocol R) :
    (runs (shimStep lib cfg) es s).upstream =
      runs step (es.filterMap (upstreamEvent lib cfg)) s.upstream := by
  induction es generalizing s with
  | nil => rfl
  | cons e es ih =>
    rw [runs_cons, ih]
    cases e with
    | datagram data addr =>
      cases hd : disposition lib cfg data with
      | forwarded req =>
        rw [List.filterMap_cons_some (b := Event.query data) (by simp [upstreamEvent, hd])]
        simp only [shimStep, ShimProtocol.datagramReceived, hd]
        rfl
      | ignored =>
        rw [List.filterMap_cons_none (by simp [upstreamEvent, hd])]
        simp only [shimStep, ShimProtocol.datagramReceived, hd]
      | hijacked answer =>
        rw [List.filterMap_cons_none (by simp [upstreamEvent, hd])]
        simp only [shimStep, ShimProtocol.datagramReceived, hd]
    | reply f data => rfl
    | timeout f => rfl

theorem advances_step (e : Event) (u : UpstreamProtocol) :
    Advances u.nextCall u (step e u) ∧ u.nextCall ≤ (step e u).nextCall := by
  cases e with
  | query raw =>
    refine ⟨⟨fun f hf _ => ?_, fun f hf => ?_⟩, ?_⟩
    · exact (UpstreamProtocol.outcome_query raw f).trans (if_neg (Nat.ne_of_lt hf))
    · exact (UpstreamProtocol.raw_query raw f).trans (if_neg (Nat.ne_of_lt hf))
    · rw [show (step (.query raw) u).nextCall = _ from UpstreamProtocol.nextCall_query raw]
      exact Nat.le_succ _
  | reply f data =>
    obtain ⟨hu, hn⟩ := advances_datagramReceived u.nextCall u data
    exact ⟨hu, hn.ge⟩
  | timeout f =>
    obtain ⟨hu, hn⟩ := advances_expire u.nextCall u f
    exact ⟨hu, hn.ge⟩

/-- A call that is done stays done. -/
theorem done_runs (es : List Event) {u : UpstreamProtocol} {f : CallId} (hf : f < u.nextCall)
    (hd : u.outcome f ≠ .waiting) : (runs step es u).outcome f ≠ .waiting := by
  induction es generalizing u with
  | nil => exact hd
  | cons e es ih =>
    obtain ⟨hu, hn⟩ := advances_step e u
    exact ih (Nat.lt_of_lt_of_le hf hn) (by rw [hu.done f hf hd]; exact hd)

theorem done_timeout (es : List Event) {u : UpstreamProtocol} {f : CallId} (hf : f < u.nextCall)
    (ht : .timeout f ∈ es) : (runs step es u).outcome f ≠ .waiting := by
  induction es generalizing u with
  | nil => cases ht
  | cons e es ih =>
    have hlt := Nat.lt_of_lt_of_le hf (advances_step e u).2
    rcases List.mem_cons.mp ht with rfl | ht
    · apply done_runs es hlt
      show (u.expire f).outcome f ≠ .waiting
      by_cases hw : u.outcome f = .waiting
      · rw [UpstreamProtocol.expire_waiting hw]
        have hout : (u.finish f .servfail).outcome f = .servfail :=
          (UpstreamProtocol.outcome_finish f f _).trans (if_pos rfl)
        intro he
        cases hout.symm.trans he
      · rw [UpstreamProtocol.expire_done hw]
        exact hw
    · exact ih hlt ht

theorem mem_forwards_append {ps : List (Bytes × Remote)} {t : Task R} (qs : List (Bytes × Remote))
    (h : t ∈ forwards lib cfg ps) : t ∈ forwards lib cfg (ps ++ qs) := by
  unfold forwards at h ⊢
  rw [List.filterMap_append, List.mapIdx_append]
  exact List.mem_append_left _ h

/-- **No client waits longer than its timeout**: once the `wait_for` of a forwarded lookup has
run out, whatever else has happened, its client has been sent the reply its call returned
or a SERVFAIL. -/
theorem lookups_answered (hpack : ∀ req, ∃ data, lib.servfail req = some data)
    (es fs : List ShimEvent) :
    ∀ t ∈ forwards lib cfg (lookups es), .timeout t.call ∈ fs →
      ∃ data, (t.addr, data) ∈ (runs (shimStep lib cfg) (es ++ fs) .start).sent ∧
        ((runs (shimStep lib cfg) (es ++ fs) .start).upstream.outcome t.call = .reply data ∨
          lib.servfail t.req = some data) := by
  intro t ht htime
  have hes := (@Answered.start R lib cfg).runs es
  have hall := (@Answered.start R lib cfg).runs (es ++ fs)
  rw [List.nil_append] at hes hall
  have hlt : t.call < (runs (shimStep lib cfg) es .start).upstream.nextCall := by
    rw [hes.calls]
    exact lt_of_mem_forwards lib cfg ht
  have hdone : (runs (shimStep lib cfg) (es ++ fs) .start).upstream.outcome t.call ≠ .waiting := by
    rw [runs_append, upstream_runs]
    apply done_timeout _ hlt
    exact List.mem_filterMap.mpr ⟨_, htime, rfl⟩
  have hsent : ∀ a, answerOf lib (runs (shimStep lib cfg) (es ++ fs) .start).upstream t = some a →
      a ∈ (runs (shimStep lib cfg) (es ++ fs) .start).sent := by
    intro a ha
    refine hall.sent.mem_iff.mpr (List.mem_append_right _ (List.mem_filterMap.mpr ⟨t, ?_, ha⟩))
    rw [lookups, List.filterMap_append]
    exact mem_forwards_append lib cfg _ ht
  unfold answerOf at hsent
  cases ho : (runs (shimStep lib cfg) (es ++ fs) .start).upstream.outcome t.call with
  | waiting => exact absurd ho hdone
  | reply data =>
    rw [ho] at hsent
    exact ⟨data, hsent _ rfl, .inl rfl⟩
  | servfail =>
    rw [ho] at hsent
    obtain ⟨data, hdata⟩ := hpack t.req
    exact ⟨data, hsent _ (by rw [hdata]; rfl), .inr hdata⟩

theorem lookups_answered_sample :
    ∃ data, ((⟨"10.0.0.3".toList, 53⟩ : Remote), data) ∈ (runs (shimStep sampleLib sampleSettings)
        (sampleLookups.take 3 ++ [.timeout 0, .reply 1 (answer 8 questionB 2), .timeout 1])
        .start).sent ∧
      ((runs (shimStep sampleLib sampleSettings)
        (sampleLookups.take 3 ++ [.timeout 0, .reply 1 (answer 8 questionB 2), .timeout 1])
        .start).upstream.outcome 1 = .reply data ∨
      sampleLib.servfail (lookup 8 questionB) = some data) :=
  lookups_answered sampleLib sampleSettings (fun _ => ⟨_, rfl⟩) (sampleLookups.take 3)
    [.timeout 0, .reply 1 (answer 8 questionB 2), .timeout 1]
    ⟨1, lookup 8 questionB, ⟨"10.0.0.3".toList, 53⟩, lookup 8 questionB⟩ (by decide) (by decide)

/-! ## Whose answers -/

theorem parse_of_forwarded {data : Bytes} {req : R} (h : disposition lib cfg data = .forwarded req) :
    lib.parse data = some req := by
  unfold disposition at h
  split at h
  · cases h
  · next req' hp =>
    split at h
    · cases h
    · split at h
      · cases h
      · cases h
        exact hp

theorem of_mem_forwards {ps : List (Bytes × Remote)} {t : Task R} (h : t ∈ forwards lib cfg ps) :
    (t.data, t.addr) ∈ ps ∧ disposition lib cfg t.data = .forwarded t.req := by
  unfold forwards at h
  obtain ⟨i, hi, rfl⟩ := List.mem_mapIdx.mp h
  obtain ⟨p, hp, hf⟩ := List.mem_filterMap.mp (List.getElem_mem hi)
  unfold forwardOf at hf
  split at hf
  · next req hd =>
    obtain ⟨rfl, rfl⟩ := Prod.mk.inj (Option.some.inj hf)
    exact ⟨hp, hd⟩
  · cases hf

theorem hijackAnswer_addr {p : Bytes × Remote} {a : Remote × Bytes}
    (h : hijackAnswer lib cfg p = some a) : a.1 = p.2 := by
  unfold hijackAnswer at h
  split at h
  · obtain ⟨b, -, rfl⟩ := Option.map_eq_some_iff.mp h
    rfl
  · cases h

/-- **Nobody is sent another's answer**, if the resolver's replies are lawful and none meets a
crossed call: what a client is sent is the shim's answer to a lookup of its own, a SERVFAIL
for one, or a reply to the question of one. -/
theorem answers_belong {Q : Type} (question : Bytes → Q) (es : List ShimEvent)
    (hlaw : Guarded track (Lawful question) (es.filterMap (upstreamEvent lib cfg)) Dns.start)
    (huncrossed : Guarded track (Uncrossed question) (es.filterMap (upstreamEvent lib cfg))
      Dns.start) :
    ∀ a ∈ (runs (shimStep lib cfg) es .start).sent, ∃ data, (data, a.1) ∈ lookups es ∧
      (hijackAnswer lib cfg (data, a.1) = some a ∨
        (∃ req, lib.parse data = some req ∧ lib.servfail req = some a.2) ∨
        question a.2 = question data) := by
  intro a ha
  have h := (@Answered.start R lib cfg).runs es
  rw [List.nil_append] at h
  have hinv : Inv question (runs track (es.filterMap (upstreamEvent lib cfg)) Dns.start) := by
    have hboth : Guarded track (fun e s => Lawful question e s ∧ Uncrossed question e s)
        (es.filterMap (upstreamEvent lib cfg)) Dns.start :=
      guarded_and hlaw huncrossed
    exact runs_invariant (fun e s hc hi => track_inv e s hc.1 hi hc.2) _ _ hboth .start
  have hup : (runs track (es.filterMap (upstreamEvent lib cfg)) Dns.start).1 =
      (runs (shimStep lib cfg) es .start).upstream := by
    rw [upstream_runs, @runs_fst _ _ step _ track fun _ _ => rfl]
    rfl
  rcases List.mem_append.mp (h.sent.mem_iff.mp ha) with ha | ha
  · obtain ⟨p, hp, hans⟩ := List.mem_filterMap.mp ha
    have haddr := hijackAnswer_addr lib cfg hans
    refine ⟨p.1, ?_, .inl ?_⟩
    · rw [haddr]
      exact hp
    · rw [haddr]
      exact hans
  · obtain ⟨t, ht, hans⟩ := List.mem_filterMap.mp ha
    obtain ⟨hmem, hd⟩ := of_mem_forwards lib cfg ht
    unfold answerOf at hans
    cases ho : (runs (shimStep lib cfg) es .start).upstream.outcome t.call with
    | waiting =>
      rw [ho] at hans
      cases hans
    | reply data =>
      rw [ho] at hans
      cases hans
      refine ⟨t.data, hmem, .inr (.inr ?_)⟩
      rw [← hup] at ho
      have hown := hinv.faithful.own t.call data ho
      rw [hup, h.raw t ht] at hown
      exact hown
    | servfail =>
      rw [ho] at hans
      obtain ⟨data, hdata, rfl⟩ := Option.map_eq_some_iff.mp hans
      exact ⟨t.data, hmem, .inr (.inl ⟨t.req, parse_of_forwarded lib cfg hd, hdata⟩)⟩

theorem answers_belong_sample :
    ∃ data, (data, (⟨"10.0.0.3".toList, 53⟩ : Remote)) ∈ lookups sampleLookups ∧
      (hijackAnswer sampleLib sampleSettings (data, ⟨"10.0.0.3".toList, 53⟩) =
          some (⟨"10.0.0.3".toList, 53⟩, answer 8 questionB 2) ∨
        (∃ req, sampleLib.parse data = some req ∧
          sampleLib.servfail req = some (answer 8 questionB 2)) ∨
        questionOf (answer 8 questionB 2) = questionOf data) :=
  answers_belong sampleLib sampleSettings questionOf sampleLookups (by decide) (by decide)
    (⟨"10.0.0.3".toList, 53⟩, answer 8 questionB 2) (by decide)

end Dns
end Ghostbusters
