import GhostbustersServer.Effects.Reports
import GhostbustersServer.Guarantees.Store

/-!
# The total of an upload and what is served afterwards

The reply to an upload takes its total from the upload in hand; `career_cash` and ReadStats
take it from the row that was stored, which is padded with zeros.

    statsShow_career       ReadStats shows slot 5 of the row
    pushShows_career       and so does the stats-processed push
    career_of_unstored     the row stays, whatever happens, until the player uploads again
    total_served_iff       so the total is what is served if the upload has a slot 5, or if
                           the slot is 0 and the cash before was 0 as well
-/

namespace Ghostbusters

open Py Act PRUDPServer

namespace Totals

open SparkStats (readList served slots)

variable (env : Env)

/-- A career reply shows this cash for the player. -/
def StatsShow (pid : Nat) (x : F32) (w : World) (req : Request) : Prop :=
  ∀ m w', (Game.userStats env req).run w = (.ok m, w') →
    ∃ ret entries, m = Game.ok req ret ∧ readList ret = some entries ∧
      entries.map (·.pid) = Game.parseM9Pids req.params ∧
      ∀ entry ∈ entries, entry.pid = pid → entry.vec1[10]? = some x

/-- `career_cash` gives this cash to the push for the player. -/
def PushShows (pid : Nat) (x : F32) (d : Db) : Prop :=
  ∀ g cash, ((Game.readCash env g).run d).1 = .ok cash → ∀ y, (pid, y) ∈ cash → y = x

/-- The event stores an upload of the player. -/
def Stores (pid : Nat) (e : Event) (w : World) : Prop :=
  ∃ vec0 rows, .persisted pid vec0 rows ∈ (step env e w).trace.drop w.trace.length

/-- Slot 5 of the row, or 0 if there is none. -/
def cashOf (S : Stats) (pid : Nat) : F32 := (S.career pid).getD 5 0

theorem cashOf_put {S : Stats} {pid : Nat} {vec0 : List F32}
    (h : S.1.get? pid = some (Career.packVec0 vec0)) : cashOf S pid = vec0.getD 5 0 := by
  unfold cashOf Stats.career
  rw [h]
  show (Career.unpackVec0 (Career.packVec0 vec0)).getD 5 0 = _
  rw [SparkStats.unpackVec0_packVec0]
  unfold Career.fitVec0 Career.vec0Len
  simp only [List.getD_eq_getElem?_getD, List.getElem?_append, List.length_take, List.getElem?_take,
    List.getElem?_replicate]
  by_cases h5 : 5 < vec0.length
  · rw [if_pos (by omega), if_pos (by omega)]
  · rw [if_neg (by omega), if_pos (by omega), List.getElem?_eq_none (Nat.not_lt.mp h5)]
    rfl

/-! ## ReadStats -/

theorem vec1_careerV1 (pid : Nat) (v : List F32) :
    (served pid (Game.careerV1 v)).vec1[10]? = some (v.getD 5 0) :=
  SparkStats.getElem?_slots Game.vec1Len (Game.careerV1 v) 10 (by decide)

theorem entries_of_reply (slotsOf : Nat → Game.Slots) (req : Request) {pid : Nat} {x : F32}
    (hx : (served pid (slotsOf pid)).vec1[10]? = some x) :
    ∃ entries, readList (wU32 (Game.parseM9Pids req.params).length ++
        ((Game.parseM9Pids req.params).map fun pid =>
          Game.sparkstatsEntry pid Game.noSlots (slotsOf pid) 0 0 []).flatten) = some entries ∧
      entries.map (·.pid) = Game.parseM9Pids req.params ∧
      ∀ entry ∈ entries, entry.pid = pid → entry.vec1[10]? = some x := by
  obtain ⟨hn, hlt⟩ := SparkStats.parseM9Pids_lt req.params
  refine ⟨_, SparkStats.readList_entries slotsOf _ hn hlt, ?_, ?_⟩
  · rw [List.map_map]
    exact List.map_id _
  · intro entry he hpid
    obtain ⟨p, -, rfl⟩ := List.mem_map.mp he
    cases hpid
    exact hx

/-- **ReadStats shows the row.** -/
theorem statsShow_career (hr : ∀ n, env.readFails n = false) {S : Stats} {w : World}
    (hS : w.db.Holds S) (pid : Nat) {req : Request} (hcat : Game.paramU32 req.params 0 = 101) :
    StatsShow env pid (cashOf S pid) w req := by
  intro m w' hrun
  have hread : ∀ p, Triple (Showing S w.trace) (Game.getCareerVec0 env p)
      (fun v w => v = S.career p ∧ Showing S w.trace w) fun _ => True :=
    fun p => (Game.getCareerVec0_triple env hr p).mono (fun _ h => h)
      (fun _ _ h => ⟨h.1, h.2.1, rfl⟩) fun _ h => h.elim
  have hrel := Game.userStats_rel (P := Showing S w.trace) (E := fun _ => True)
    (R := fun p vec1 => vec1 = Game.careerV1 (S.career p)) env req ?_ ?_ ?_ ?_ ?_
  · rcases hrel w ⟨hS, rfl⟩ with ⟨m', w1, hm, hreply, -⟩ | ⟨e, w1, he, -⟩
    · cases hrun.symm.trans hm
      obtain ⟨entries, hentries⟩ := entries_of_reply (fun p => Game.careerV1 (S.career p)) req
        (vec1_careerV1 pid (S.career pid))
      exact ⟨_, entries, hreply.eq_of_slots, hentries⟩
    · cases hrun.symm.trans he
  · intro _ p
    refine Triple.bind ((Game.getCareerVec0_triple env hr p).mono (fun _ h => h) (fun _ _ h => h)
      fun _ h => h.elim) fun v => Triple.pure ?_
    rintro w1 ⟨rfl, hw⟩
    exact ⟨rfl, hw⟩
  · intro h102 p
    omega
  · intro h201 p
    omega
  · intro h101 _ _ p
    exact absurd hcat h101
  · intro p
    refine Triple.bind ((Game.getCareerVec0_triple env hr p).mono (fun _ h => h) (fun _ _ h => h)
      fun _ h => h.elim) fun v => ?_
    rintro w1 ⟨-, hw⟩
    cases hx : Game.index v 5 with
    | ok x => exact .inl ⟨x, w1, by rw [run_ofExcept], hw⟩
    | error e => exact .inr ⟨e, w1, by rw [run_ofExcept], trivial⟩

/-- **A ReadStats for one player** shows what the first read of the career gives, also
where this fails. -/
theorem statsShow_alone (pid : Nat) {req : Request} (hcat : Game.paramU32 req.params 0 = 101)
    (hpids : Game.parseM9Pids req.params = [pid]) (w : World) :
    StatsShow env pid ((Game.careerRead env pid w.db).getD 5 0) w req := by
  intro m w' hrun
  let v := Game.careerRead env pid w.db
  obtain ⟨entries, hentries⟩ := entries_of_reply (fun _ => Game.careerV1 v) req (vec1_careerV1 pid v)
  refine ⟨_, entries, ?_, hentries⟩
  have hbody : (Game.statsReply (Game.careerSlots env) [pid]).run w =
      (.ok (wU32 1 ++ [Game.sparkstatsEntry pid Game.noSlots (Game.careerV1 v) 0 0 []].flatten),
        { w with db := (Game.lookupCareer env pid).after w.db }) := rfl
  unfold Game.userStats at hrun
  rw [if_pos hcat, hpids, run_bind_ok hbody] at hrun
  rcases run_bind_cases (Act.mapEach [pid] fun p => do
      Act.ofExcept (Game.index (← Game.getCareerVec0 env p) 5))
    (fun _ => (pure (Game.ok req (wU32 1 ++ [Game.sparkstatsEntry pid Game.noSlots
      (Game.careerV1 v) 0 0 []].flatten)) : Srv Message))
    { w with db := (Game.lookupCareer env pid).after w.db } with ⟨e, -, hb⟩ | ⟨xs, -, hb⟩
  · cases hb.symm.trans hrun
  · cases hb.symm.trans hrun
    rw [hpids]
    rfl

/-! ## The push -/

theorem careerCash_cashOf {S : Stats} (pid : Nat) :
    Triple (fun d : Db => d.Holds S) (Career.careerCash env pid)
      (fun x d => x = cashOf S pid ∧ d.Holds S) fun _ => Flaky env := by
  have hread : Triple (fun d : Db => d.Holds S) (Career.getCareer env pid)
      (fun v d => v = (S.1.get? pid).map Career.unpackVec0 ∧ d.Holds S) fun _ => Flaky env := by
    refine Triple.bind ((Db.read_triple env).mono (fun _ h => h) (fun _ _ h => h) fun _ h => h.1)
      fun t => Triple.pure ?_
    rintro d ⟨rfl, hd⟩
    exact ⟨rfl, hd⟩
  refine Triple.bind hread fun v => Triple.pure ?_
  rintro d ⟨rfl, hd⟩
  refine ⟨?_, hd⟩
  unfold cashOf Stats.career
  cases S.1.get? pid <;> rfl

theorem readCash_cashOf {S : Stats} (g : Gathering) :
    Triple (fun d : Db => d.Holds S) (Game.readCash env g)
      (fun cash d => cash = (g.participants.map fun p => (p.pid, cashOf S p.pid)) ∧ d.Holds S)
      fun _ => Flaky env := by
  refine (Triple.mapEach (R := fun p x => x = (p.pid, cashOf S p.pid)) g.participants
    fun p _ => ?_).mono (fun _ h => h) (fun _ _ h => ⟨eq_map_of_forall₂ h.1, h.2⟩) fun _ h => h
  refine Triple.bind ((Db.dbCon_triple env).mono (fun _ h => h) (fun _ _ h => h) fun _ h => h.1)
    fun _ => ?_
  refine Triple.bind (careerCash_cashOf env p.pid) fun x => Triple.pure ?_
  rintro d ⟨rfl, hd⟩
  exact ⟨rfl, hd⟩

/-- **The push shows the row.** -/
theorem pushShows_career {S : Stats} {d : Db} (hS : d.Holds S) (pid : Nat) :
    PushShows env pid (cashOf S pid) d := by
  intro g cash hcash y hy
  rcases readCash_cashOf env g d hS with ⟨_, d', hrun, rfl, -⟩ | ⟨e, d', hrun, -⟩
  · rw [hrun] at hcash
    cases hcash
    obtain ⟨p, -, hp⟩ := List.mem_map.mp hy
    cases hp
    rfl
  · rw [hrun] at hcash
    cases hcash

/-! ## The row -/

/-- A row stays where no upload of its player is stored. -/
theorem career_of_step (e : Event) {w : World} {S : Stats} (hS : w.db.Holds S) {pid : Nat}
    (h : ¬ Stores env pid e w) :
    ∃ S', (step env e w).db.Holds S' ∧ S'.1.get? pid = S.1.get? pid := by
  rcases Store.step_uploaded env e hS with hk | ⟨port, c, req, -, -, hk | @⟨vec0, rows, new, -, -, h2, h3, h4⟩⟩
  · exact ⟨S, hk.db S hS, rfl⟩
  · exact ⟨S, hk.db S hS, rfl⟩
  · refine ⟨_, h2, ?_⟩
    have hne : pid ≠ (w.heap c).userPid := by
      rintro rfl
      refine h ⟨vec0, rows, ?_⟩
      rw [h3, List.drop_left]
      exact h4
    exact (Dict.get?_set _ _ _ _).trans (if_neg hne)

theorem career_of_unstored (es : List Event) {w : World} {S : Stats} (hS : w.db.Holds S) {pid : Nat}
    (h : Guarded (step env) (fun e w => ¬ Stores env pid e w) es w) :
    ∃ S', (runs (step env) es w).db.Holds S' ∧ S'.1.get? pid = S.1.get? pid := by
  refine runs_invariant (C := fun e w => ¬ Stores env pid e w)
    (I := fun w => ∃ S', w.db.Holds S' ∧ S'.1.get? pid = S.1.get? pid) ?_ es w h ⟨S, hS, rfl⟩
  rintro e s hs ⟨S', hS', hrow⟩
  obtain ⟨S'', hS'', hrow'⟩ := career_of_step env e hS' hs
  exact ⟨S'', hS'', hrow'.trans hrow⟩

/-! ## The upload -/

theorem storeReport_value {pid : Nat} {params : Bytes} {w w' : World} {r : F32 × F32} {x : F32}
    {xs : List F32} (h0 : Game.parseM12SenderVec0 params pid = some (x :: xs))
    (hrun : (Game.storeReport env pid params).run w = (.ok r, w')) :
    ∃ before, (Game.careerRead env pid w.db)[5]? = some before ∧
      r = (before, (x :: xs).getD 5 before) := by
  unfold Game.storeReport at hrun
  rw [run_bind_ok (Game.getCareerVec0_run env pid w)] at hrun
  unfold Game.index at hrun
  cases hb : (Game.careerRead env pid w.db)[5]? with
  | none =>
    rw [hb] at hrun
    cases hrun
  | some before =>
    refine ⟨before, rfl, ?_⟩
    rw [hb, h0] at hrun
    replace hrun : (Act.ofExcept (Game.computeLeaderboardRows (x :: xs)
        (Game.parseM12SenderVec1 params pid)) >>= fun rows => Game.persistMatch env pid (x :: xs) rows >>=
          fun _ => (pure (before, (x :: xs).getD 5 before) : Srv (F32 × F32))).run
        { w with db := (Game.lookupCareer env pid).after w.db } = (.ok r, w') := hrun
    obtain ⟨rows, w1, -, hrun⟩ := ok_of_run_bind hrun
    obtain ⟨saved, w2, -, hrun⟩ := ok_of_run_bind hrun
    cases hrun
    rfl

/-- The reply to an upload: the cash before, and slot 5 of the upload in hand, or else the cash
before. -/
theorem reportStats_reply {port : Port} {c : ConnId} {req : Request} {w w' : World} {m : Message}
    {x : F32} {xs : List F32} (h0 : Game.parseM12SenderVec0 req.params (w.heap c).userPid = some (x :: xs))
    (hrun : (Game.reportStats env port c req).run w = (.ok m, w')) :
    ∃ before txn, (Game.careerRead env (w.heap c).userPid w.db)[5]? = some before ∧
      m = Game.ok req (Game.buildSparkstatsReply (w.heap c).userPid before
        ((x :: xs).getD 5 before) txn) := by
  replace hrun : (Game.storeReport env (w.heap c).userPid req.params >>= fun r => Game.bumpTxn (w.heap c).userPid >>=
      fun txn => Act.ofExcept (Game.masksOf (w.heap c).userPid req.params) >>= fun _ =>
        Game.trackReport env port (w.heap c).userPid >>= fun _ =>
          (pure (Game.ok req (Game.buildSparkstatsReply (w.heap c).userPid r.1 r.2 txn)) : Srv Message)).run w =
      (.ok m, w') := hrun
  obtain ⟨r, w1, hr, hrun⟩ := ok_of_run_bind hrun
  obtain ⟨txn, w2, -, hrun⟩ := ok_of_run_bind hrun
  obtain ⟨_, w3, -, hrun⟩ := ok_of_run_bind hrun
  obtain ⟨_, w4, -, hrun⟩ := ok_of_run_bind hrun
  cases hrun
  obtain ⟨before, hb, rfl⟩ := storeReport_value env h0 hr
  exact ⟨before, txn, hb, rfl⟩

theorem storedDb_holds {S : Stats} {d : Db} (hS : d.Holds S) (pid : Nat) (params : Bytes) :
    ∃ T, (Game.storedDb env pid params d).Holds T := by
  have hread : ((Game.lookupCareer env pid).after d).Holds S :=
    Within.bind (Db.dbCon_kept env) (fun _ => Career.getCareer_kept env pid) d S hS
  unfold Game.storedDb
  split
  · next u _ =>
    rcases (Game.matchTransaction_triple env S pid u.1 u.2).after_cases hread with ⟨-, hd⟩ | hd
    · exact ⟨_, hd⟩
    · exact ⟨_, hd⟩
  · exact ⟨S, hread⟩

/-- What a report leaves that has stored its upload, and what its batch reads. -/
theorem rows_of_stored {S : Stats} {w w' : World} (hS : w.db.Holds S) {port : Port} {c : ConnId}
    {req : Request} {m : Message} {vec0 : List F32}
    (h0 : Game.parseM12SenderVec0 req.params (w.heap c).userPid = some vec0)
    (hrun : (Game.reportStats env port c req).run w = (.ok m, w'))
    (hsaved : ∃ v rows, .persisted (w.heap c).userPid v rows ∈ w'.trace.drop w.trace.length) :
    ∃ T, w'.db.Holds T ∧ (Game.storedDb env (w.heap c).userPid req.params w.db).Holds T ∧
      T.1.get? (w.heap c).userPid = some (Career.packVec0 vec0) := by
  have hup := Game.reportStats_uploaded env hS port c req
  unfold after at hup
  rw [hrun] at hup
  obtain ⟨v, rows, hin⟩ := hsaved
  rcases hup with hk | @⟨v', rows', new, h0', -, hT, -, -⟩
  · have hnone := Store.any_isPersisted_of_kept hk
    rw [List.any_eq_false] at hnone
    exact absurd rfl (hnone _ hin)
  cases h0.symm.trans h0'
  refine ⟨_, hT, ?_, Dict.get?_set_self _ _ _⟩
  -- nothing is stored between the batch and the reply
  obtain ⟨T, hst⟩ := storedDb_holds env hS (w.heap c).userPid req.params
  by_cases hacc : Game.Accepted env (w.heap c).userPid req.params w.db
  · obtain ⟨body, new', hcont, -⟩ := Game.reportStats_counted env port hacc
    let w1 : World :=
      { Game.counted env (w.heap c).userPid req.params w with trace := w.trace ++ new' }
    have hrest : Within StatsKept (Act.ofExcept (Game.masksOf (w.heap c).userPid req.params) >>= fun _ =>
        Game.trackReport env port (w.heap c).userPid >>= fun _ => (pure (Game.ok req body) : Srv Message)) :=
      Within.bind (Within.ofExcept _) fun _ => Within.bind
        (Game.trackReport_within (tolerant_statsKept.batching env) port _) fun _ => Within.pure _
    have hk : StatsKept w1 w' := by
      have hafter := hrest w1
      unfold WithinAt at hafter
      rw [← hcont, hrun] at hafter
      exact hafter
    have hT' := hk.db T hst
    have hTT : T = S.put (w.heap c).userPid vec0 rows' := hT'.1.symm.trans hT.1
    rw [← hTT]
    exact hst
  · obtain ⟨e, he⟩ := Game.reportStats_refused env port hacc
    cases hrun.symm.trans he

/-! ## Total and baseline -/

/-- Before the upload a ReadStats would have shown this cash. -/
def Baseline (w : World) (pid : Nat) (before : F32) : Prop :=
  ∀ req, Game.paramU32 req.params 0 = 101 →
    (Game.parseM9Pids req.params = [pid] ∨ ∀ n, env.readFails n = false) →
    StatsShow env pid before w req

/-- The total is what the batch of the report itself shows, and what every push and every
ReadStats shows from then on, in any run in which the player stores nothing else. -/
structure Served (w w' : World) (pid : Nat) (params : Bytes) (total : F32) : Prop where
  batch : PushShows env pid total (Game.storedDb env pid params w.db)
  later : ∀ env' es, Guarded (step env') (fun e s => ¬ Stores env' pid e s) es w' →
    PushShows env' pid total (runs (step env') es w').db ∧
    ∀ req, Game.paramU32 req.params 0 = 101 → (∀ n, env'.readFails n = false) →
      StatsShow env' pid total (runs (step env') es w') req

theorem baseline_careerRead {S : Stats} {w : World} (hS : w.db.Holds S) {pid : Nat} {before : F32}
    (hb : (Game.careerRead env pid w.db)[5]? = some before) : Baseline env w pid before := by
  have hcash : (Game.careerRead env pid w.db).getD 5 0 = before := by
    rw [List.getD_eq_getElem?_getD, hb]
    rfl
  intro req hcat hreads
  rcases hreads with hpids | hr
  · rw [← hcash]
    exact statsShow_alone env pid hcat hpids w
  · have hread : Game.careerRead env pid w.db = S.career pid := by
      rcases Game.getCareerVec0_triple env hr pid (S := S) w ⟨hS, rfl⟩ with
        ⟨v, w1, hrun, rfl, -⟩ | ⟨_, _, -, hf⟩
      · rw [Game.getCareerVec0_run] at hrun
        exact Except.ok.inj (congrArg Prod.fst hrun)
      · exact hf.elim
    rw [← hcash, hread]
    exact statsShow_career env hr hS pid hcat

theorem served_of_rows {w w' : World} {pid : Nat} {params : Bytes} {vec0 : List F32} {T : Stats}
    (hT : w'.db.Holds T) (hst : (Game.storedDb env pid params w.db).Holds T)
    (hrow : T.1.get? pid = some (Career.packVec0 vec0)) :
    Served env w w' pid params (vec0.getD 5 0) where
  batch := by
    rw [← cashOf_put hrow]
    exact pushShows_career env hst pid
  later := by
    intro env' es hes
    obtain ⟨T', hT', hrow'⟩ := career_of_unstored env' es hT hes
    rw [← cashOf_put (hrow'.trans hrow)]
    exact ⟨pushShows_career env' hT' pid, fun req hcat hr => statsShow_career env' hr hT' pid hcat⟩

/-- A push shows one cash. -/
theorem cash_unique {w w' : World} {pid : Nat} {params : Bytes} {x y : F32} {T : Stats}
    (hT : w'.db.Holds T) (hx : Served env w w' pid params x) (hy : Served env w w' pid params y) :
    x = y := by
  let env' : Env := { env with readFails := fun _ => false }
  let g : Gathering :=
    { id := 0, ownerPid := pid, ownerRemote := ⟨[], 0⟩,
      participants := [{ pid, displayName := [], remote := ⟨[], 0⟩ }] }
  have hcash : ∃ cash, ((Game.readCash env' g).run w'.db).1 = .ok cash ∧ (pid, cashOf T pid) ∈ cash := by
    rcases readCash_cashOf env' g w'.db hT with ⟨_, d', hrun, rfl, -⟩ | ⟨e, d', -, n, hn⟩
    · exact ⟨_, congrArg Prod.fst hrun, List.mem_singleton.mpr rfl⟩
    · cases hn
  obtain ⟨cash, hrun, hin⟩ := hcash
  have h1 := (hx.later env' [] trivial).1 g cash hrun _ hin
  have h2 := (hy.later env' [] trivial).1 g cash hrun _ hin
  exact h1.symm.trans h2

end Totals

open Totals

/-- **The reply to an upload that was stored.**  Its baseline is what a ReadStats would have
shown before; its total is what is served afterwards exactly if the upload has a slot 5, or
the cash before was 0. -/
theorem total_served_iff (env : Env) {S : Stats} {w w' : World} (hS : w.db.Holds S) (port : Port)
    (c : ConnId) (req : Request) (hpid : (w.heap c).userPid < 2 ^ 32) {vec0 : List F32}
    (h0 : Game.parseM12SenderVec0 req.params (w.heap c).userPid = some vec0) (hne : vec0 ≠ [])
    {m : Message} (hrun : (Game.reportStats env port c req).run w = (.ok m, w'))
    (hsaved : ∃ v rows, .persisted (w.heap c).userPid v rows ∈ w'.trace.drop w.trace.length) :
    ∃ ret entry before total, m = Game.ok req ret ∧ SparkStats.readList ret = some [entry] ∧
      entry.vec0[5]? = some before ∧ entry.vec1[10]? = some total ∧
      Baseline env w (w.heap c).userPid before ∧
      (Served env w w' (w.heap c).userPid req.params total ↔
        5 < vec0.length ∨ (Game.careerRead env (w.heap c).userPid w.db)[5]? = some 0) := by
  obtain ⟨x, xs, rfl⟩ := List.exists_cons_of_ne_nil hne
  obtain ⟨before, txn, hb, rfl⟩ := reportStats_reply env h0 hrun
  obtain ⟨T, hT, hst, hrow⟩ := rows_of_stored env hS h0 hrun hsaved
  refine ⟨_, _, before, (x :: xs).getD 5 before, rfl, SparkStats.readList_reply _ _ txn hpid, ?_, ?_,
    baseline_careerRead env hS hb, ?_⟩
  · exact SparkStats.getElem?_slots _ _ 5 (by decide)
  · exact SparkStats.getElem?_slots _ _ 10 (by decide)
  have hserved := served_of_rows env hT hst hrow
  have htotal : Served env w w' (w.heap c).userPid req.params ((x :: xs).getD 5 before) ↔
      (x :: xs).getD 5 before = (x :: xs).getD 5 0 :=
    ⟨fun h => cash_unique env hT h hserved, fun h => by rw [h]; exact hserved⟩
  rw [htotal, hb]
  simp only [List.getD_eq_getElem?_getD, Option.some.injEq]
  by_cases h5 : 5 < (x :: xs).length
  · rw [List.getElem?_eq_getElem h5]
    exact iff_of_true rfl (.inl h5)
  · rw [List.getElem?_eq_none (Nat.not_lt.mp h5)]
    exact (or_iff_right h5).symm

namespace Totals

open SparkStats (readList)

/-- A player that has uploaded 250 of career cash. -/
def player : World := runs (step Sample.env) (Store.session.take 2) Store.player

/-- An upload of five slots, below the cash. -/
def short : Request where
  proto := 60
  method := 12
  callId := 1
  params := wU32 7 ++ wU32 0 ++ wU32 1 ++ (wU32 10000 ++ wQstring "ann".toList ++ wU32 0 ++
    Notification.wVec 5 (fun _ => 0) ++ Notification.wVec 0 (fun _ => 0) ++ wU32 0)

def career : Request where
  proto := 60
  method := 9
  callId := 2
  params := wU32 101 ++ wU32 1 ++ wU32 10000

/-- Slot 10 of every vec1 in an answer. -/
def cashIn : Except Exc Message → Option (List (Option F32))
  | .ok (.ok r) => (readList r.ret).map fun entries => entries.map fun entry => entry.vec1[10]?
  | _ => none

def answered : Except Exc Message × World := (Game.reportStats Sample.env .secure 1 short).run player

/-- The total is 250, and 0 is served. -/
theorem short_upload_total :
    (answered.2.trace.drop player.trace.length).any TraceEntry.isPersisted = true ∧
      cashIn answered.1 = some [some (F32.ofInt 250)] ∧
      cashIn ((Game.userStats Sample.env career).run answered.2).1 = some [some 0] ∧
      ((Career.careerCash Sample.env 10000).run answered.2.db).1.toOption = some 0 := by
  decide +kernel

theorem player_holds : player.db.Holds player.db.tables.stats := by
  have hs : player.db.saved.isNone = true := by decide +kernel
  refine ⟨rfl, fun t ht => ?_⟩
  rw [ht] at hs
  cases hs

theorem total_served_short : ∃ m w', (Game.reportStats Sample.env .secure 1 short).run player = (.ok m, w') ∧
    ∃ ret entry before total, m = Game.ok short ret ∧ readList ret = some [entry] ∧
      entry.vec0[5]? = some before ∧ entry.vec1[10]? = some total ∧
      Baseline Sample.env player 10000 before ∧
      ¬ Served Sample.env player w' 10000 short.params total := by
  have h0 : Game.parseM12SenderVec0 short.params 10000 = some [0, 0, 0, 0, 0] := by decide +kernel
  -- one run of the session, for all that is read off it
  obtain ⟨hpid, hcash, hok, hin⟩ : (player.heap 1).userPid = 10000 ∧
      (Game.careerRead Sample.env 10000 player.db)[5]? = some (F32.ofInt 250) ∧
      ((Game.reportStats Sample.env .secure 1 short).run player).1.toOption.isSome = true ∧
      .persisted 10000 [0, 0, 0, 0, 0] [] ∈
        ((Game.reportStats Sample.env .secure 1 short).run player).2.trace.drop player.trace.length := by
    decide +kernel
  cases hrun : (Game.reportStats Sample.env .secure 1 short).run player with
  | mk r w' =>
    rw [hrun] at hok hin
    cases r with
    | error e => cases hok
    | ok m =>
      rw [← hpid] at h0 hin hcash ⊢
      obtain ⟨ret, entry, before, total, h1, h2, h3, h4, h5, h6⟩ := total_served_iff Sample.env
        player_holds .secure 1 short (by rw [hpid]; decide) h0 (by decide) hrun ⟨_, _, hin⟩
      refine ⟨m, w', rfl, ret, entry, before, total, h1, h2, h3, h4, h5, fun h => ?_⟩
      rcases h6.mp h with hlen | hzero
      · exact absurd hlen (by decide)
      · rw [hcash] at hzero
        exact absurd hzero (by decide)

end Totals
end Ghostbusters
