import GhostbustersServer.Effects.Reports
import GhostbustersServer.Guarantees.Store
import GhostbustersServer.Py.Transaction

/-!
# Match persistence is all or nothing

`_persist_match` runs up to eight statements in one transaction, and any of them may raise.

    Replaced                 the tables with one upload in them: its career and its rows
    matchTransaction_spec    it has put them there, or a ROLLBACK has restored the tables
    matchTransaction_able    with no transaction open, nothing but a failing statement or a
                             row that SQLite refuses is in its way
    persist_all_or_nothing   so for what `_persist_match` returns, and for the next call
-/

namespace Ghostbusters

open Py Act

namespace Persistence

/-- What one upload makes of the tables; of the rows for one category the last one counts. -/
structure Replaced (pid : Nat) (vec0 : List F32) (rows : List (Nat × LeaderboardRow))
    (t t' : Tables) : Prop where
  accounts : t'.accounts = t.accounts
  nextPid : t'.nextPid = t.nextPid
  career : ∀ p, t'.careerStats.get? p =
    if p = pid then some (Career.packVec0 vec0) else t.careerStats.get? p
  board : ∀ p cat, t'.leaderboardStats.get? (p, cat) =
    if p = pid then (Store.rowFor rows cat).or (t.leaderboardStats.get? (p, cat))
    else t.leaderboardStats.get? (p, cat)

/-- The tables after the career and some rows have been written. -/
def written (pid : Nat) (vec0 : List F32) (rows : List (Nat × LeaderboardRow)) (t : Tables) :
    Tables :=
  { t with
    careerStats := t.careerStats.set pid (Career.packVec0 vec0)
    leaderboardStats := rows.foldl (fun b row => b.set (pid, row.1) row.2) t.leaderboardStats }

theorem replaced_written (pid : Nat) (vec0 : List F32) (rows : List (Nat × LeaderboardRow))
    (t : Tables) : Replaced pid vec0 rows t (written pid vec0 rows t) :=
  ⟨rfl, rfl, fun _ => Dict.get?_set _ _ _ _, fun p cat => Store.get?_foldl_set rows _ pid p cat⟩

theorem written_concat {pid : Nat} {vec0 : List F32} {rows : List (Nat × LeaderboardRow)}
    {row : Nat × LeaderboardRow} {t t' : Tables}
    (h : Career.putLeaderboard pid row.1 row.2 (written pid vec0 rows t) = some t') :
    t' = written pid vec0 (rows ++ [row]) t := by
  unfold Career.putLeaderboard at h
  split at h
  · cases h
  · cases h
    unfold written
    rw [List.foldl_append]
    rfl

theorem written_nil {pid : Nat} {vec0 : List F32} {t t' : Tables}
    (h : Career.putCareer pid (Career.packVec0 vec0) t = some t') : t' = written pid vec0 [] t := by
  unfold Career.putCareer at h
  split at h
  · cases h
  · cases h
    rfl

variable (env : Env)

/-! ## Each statement -/

/-- The tables are `t`, and a ROLLBACK would restore `s`. -/
abbrev Stored (t : Tables) (s : Option Tables) : Db → Prop := Act.Stored Db.tables Db.saved t s

theorem openDb_stored (t : Tables) (s : Option Tables) :
    Triple (Stored t s) (Db.openDb env) (fun _ => Stored t s) (Stored t s) :=
  Triple.bind (Db.read_tables env (fun _ h => h.1) fun _ h => h) fun _ => Triple.pure fun _ h => h.2

theorem dbCon_stored (t : Tables) (s : Option Tables) :
    Triple (Stored t s) (Db.dbCon env) (fun _ => Stored t s) (Stored t s) := by
  refine Triple.get_bind fun d hd => ?_
  split
  · exact Triple.pure fun _ h => h ▸ hd
  · refine Triple.mono (P := Stored t s) ?_ (fun _ h => h ▸ hd) (fun _ _ h => h) fun _ h => h
    exact Triple.bind (openDb_stored env t s) fun _ => Triple.modify fun _ h => h

theorem begin_stored (t : Tables) :
    Triple (Stored t none) (Db.begin env) (fun _ => Stored t (some t)) (Stored t none) := by
  rintro d ⟨ht, hs⟩
  unfold Db.begin
  rcases Db.write_cases env some d with hr | ⟨u, hu, hr⟩
  · exact .inr ⟨_, _, run_bind_error hr _, ht, hs⟩
  · cases hu
    refine .inl ⟨(), { d with writes := d.writes + 1, saved := some d.tables }, ?_, ht, congrArg some ht⟩
    rw [run_bind_ok hr, run_get_bind, if_neg (by simp [hs])]
    rfl

/-- Inside a transaction BEGIN raises. -/
theorem begin_refused (t t0 : Tables) :
    Triple (Stored t (some t0)) (Db.begin env) (fun _ _ => False) (Stored t (some t0)) := by
  rintro d ⟨ht, hs⟩
  right
  unfold Db.begin
  rcases Db.write_cases env some d with hr | ⟨u, hu, hr⟩
  · exact ⟨_, _, run_bind_error hr _, ht, hs⟩
  · cases hu
    refine ⟨.databaseError, { d with writes := d.writes + 1 }, ?_, ht, hs⟩
    rw [run_bind_ok hr, run_get_bind, if_pos (by simp [hs])]
    rfl

/-- A statement of the transaction; one that raises has not touched the snapshot. -/
theorem write_stored {t t' t0 : Tables} {f : Tables → Option Tables}
    (h : ∀ u, f t = some u → u = t') :
    Triple (Stored t (some t0)) (Db.write env f) (fun _ => Stored t' (some t0))
      fun d => d.saved = some t0 := by
  rintro d ⟨rfl, hs⟩
  rcases Db.write_cases env f d with hr | ⟨u, hu, hr⟩
  · exact .inr ⟨_, _, hr, hs⟩
  · exact .inl ⟨(), _, hr, h u hu, hs⟩

theorem writeMatch_stored (t : Tables) (pid : Nat) (vec0 : List F32)
    (rows : List (Nat × LeaderboardRow)) :
    Triple (Stored t (some t)) (Game.writeMatch env pid vec0 rows)
      (fun _ d => d.tables = written pid vec0 rows t ∧ d.saved = none)
      fun d => d.saved = some t := by
  -- the rows that are done are in the table
  have hrows := Triple.forEach (E := fun d : Db => d.saved = some t)
    (I := fun done => Stored (written pid vec0 done t) (some t))
    (f := fun row : Nat × LeaderboardRow => Career.upsertLeaderboard env pid row.1 row.2) rows
    (fun done row _ => write_stored env fun u hu => written_concat hu) []
  refine Triple.bind (write_stored env fun u hu => written_nil hu) fun _ => ?_
  refine Triple.bind hrows fun _ => ?_
  refine Triple.bind (write_stored env fun u hu => (Option.some.inj hu).symm) fun _ => ?_
  exact Triple.modify fun d hd => ⟨hd.1, rfl⟩

/-! ## The transaction -/

theorem rollback_stored {t : Tables} (d : Db) (h : d.saved = some t) :
    ∃ d', Db.rollback.run d = (.ok (), d') ∧ Stored t none d' := by
  refine ⟨_, rfl, ?_, rfl⟩
  show d.saved.getD d.tables = t
  rw [h]
  rfl

theorem matchTransaction_eq (pid : Nat) (vec0 : List F32) (rows : List (Nat × LeaderboardRow)) :
    Game.matchTransaction env pid vec0 rows = (do
      Db.dbCon env
      Act.transact (Db.begin env) (Game.writeMatch env pid vec0 rows) Db.rollback) := by
  unfold Game.matchTransaction Act.transact
  congr 1
  funext _
  congr 1
  funext _
  congr 1
  funext r
  cases r <;> rfl

/-- **The upload is in the tables**, or they are as they were; a transaction is open only
if one was open before. -/
theorem matchTransaction_spec (t : Tables) (s : Option Tables) (pid : Nat) (vec0 : List F32)
    (rows : List (Nat × LeaderboardRow)) :
    Triple (Stored t s) (Game.matchTransaction env pid vec0 rows)
      (fun _ d => d.tables = written pid vec0 rows t ∧ d.saved = none) (Stored t s) := by
  rw [matchTransaction_eq]
  refine Triple.bind (dbCon_stored env t s) fun _ => ?_
  cases s with
  | some t0 => exact Triple.bind (begin_refused env t t0) fun _ _ hd => hd.elim
  | none =>
    exact Triple.transact (Q := fun _ t' => t' = written pid vec0 rows t) (begin_stored env t)
      (writeMatch_stored env t pid vec0 rows) fun d hd => rollback_stored d hd

/-- No statement fails from now on. -/
structure Healthy (d : Db) : Prop where
  reads : ∀ n, d.reads ≤ n → env.readFails n = false
  writes : ∀ n, d.writes ≤ n → env.writeFails n = false

/-- Nothing is in the way of the upserts of a player that has an account. -/
def Able (pid : Nat) (d : Db) : Prop := Healthy env d ∧ (d.tables.accounts.get? pid).isSome

variable {env}

theorem Healthy.wrote {d d' : Db} (h : Healthy env d) (hr : d'.reads = d.reads)
    (hw : d'.writes = d.writes + 1) : Healthy env d' :=
  ⟨fun n hn => h.reads n (hr ▸ hn), fun n hn => h.writes n (by omega)⟩

/-- A statement that is not refused. -/
theorem write_healthy {d : Db} (h : Healthy env d) {f : Tables → Option Tables} {t : Tables}
    (hf : f d.tables = some t) :
    (Db.write env f).run d = (.ok (), { d with writes := d.writes + 1, tables := t }) := by
  unfold Db.write
  rw [run_get_bind, run_modify_bind, if_neg (by simp [h.writes d.writes (Nat.le_refl _)]), hf]
  rfl

theorem write_able {pid : Nat} {f : Tables → Option Tables}
    (hf : ∀ t, (t.accounts.get? pid).isSome → ∃ t', f t = some t' ∧ t'.accounts = t.accounts) :
    Triple (Able env pid) (Db.write env f) (fun _ => Able env pid) fun _ => False := by
  rintro d ⟨hd, hacc⟩
  obtain ⟨t', hft, ht'⟩ := hf d.tables hacc
  refine .inl ⟨(), _, write_healthy hd hft, hd.wrote rfl rfl, ?_⟩
  show (t'.accounts.get? pid).isSome
  rw [ht']
  exact hacc

theorem dbCon_able (pid : Nat) :
    Triple (fun d => Able env pid d ∧ d.saved = none) (Db.dbCon env)
      (fun _ d => Able env pid d ∧ d.saved = none) fun _ => False := by
  rintro d ⟨⟨hd, hacc⟩, hs⟩
  left
  unfold Db.dbCon
  rw [run_get_bind]
  split
  · exact ⟨(), d, rfl, ⟨hd, hacc⟩, hs⟩
  · have hread : (Db.read env).run d = (.ok d.tables, { d with reads := d.reads + 1 }) := by
      unfold Db.read
      rw [run_get_bind, run_modify_bind, if_neg (by simp [hd.reads d.reads (Nat.le_refl _)])]
      rfl
    have hopen : (Db.openDb env).run d = (.ok (), { d with reads := d.reads + 1 }) :=
      run_bind_ok hread _
    rw [run_bind_ok hopen]
    exact ⟨(), _, rfl, ⟨⟨fun n hn => hd.reads n (Nat.le_of_succ_le hn), hd.writes⟩, hacc⟩, hs⟩

theorem begin_able (pid : Nat) :
    Triple (fun d => Able env pid d ∧ d.saved = none) (Db.begin env)
      (fun _ => Able env pid) fun _ => False := by
  rintro d ⟨⟨hd, hacc⟩, hs⟩
  refine .inl ⟨(), { d with writes := d.writes + 1, saved := some d.tables }, ?_,
    hd.wrote rfl rfl, hacc⟩
  unfold Db.begin
  rw [run_bind_ok (write_healthy hd rfl), run_get_bind, if_neg (by simp [hs])]
  rfl

theorem putCareer_accepts (pid : Nat) (blob : Bytes) (t : Tables)
    (h : (t.accounts.get? pid).isSome) :
    ∃ t', Career.putCareer pid blob t = some t' ∧ t'.accounts = t.accounts := by
  unfold Career.putCareer
  rw [if_neg (by simpa using Option.isSome_iff_ne_none.mp h)]
  exact ⟨_, rfl, rfl⟩

theorem putLeaderboard_accepts {pid : Nat} {row : Nat × LeaderboardRow}
    (hb : Career.bindable row.2 = true) (t : Tables) (h : (t.accounts.get? pid).isSome) :
    ∃ t', Career.putLeaderboard pid row.1 row.2 t = some t' ∧ t'.accounts = t.accounts := by
  unfold Career.putLeaderboard
  rw [if_neg (by simpa [hb] using Option.isSome_iff_ne_none.mp h)]
  exact ⟨_, rfl, rfl⟩

/-- **Nothing else is in its way.** -/
theorem matchTransaction_able (pid : Nat) (vec0 : List F32) {rows : List (Nat × LeaderboardRow)}
    (hb : ∀ row ∈ rows, Career.bindable row.2 = true) :
    Triple (fun d => Able env pid d ∧ d.saved = none) (Game.matchTransaction env pid vec0 rows)
      (fun _ _ => True) fun _ => False := by
  have hrows := Triple.forEach (E := fun _ : Db => False) (I := fun _ => Able env pid)
    (f := fun row : Nat × LeaderboardRow => Career.upsertLeaderboard env pid row.1 row.2) rows
    (fun _ row hrow => write_able (putLeaderboard_accepts (hb row hrow))) []
  have hbody : Triple (Able env pid) (Game.writeMatch env pid vec0 rows) (fun _ _ => True)
      fun _ => False := by
    refine Triple.bind (write_able (putCareer_accepts pid _)) fun _ => ?_
    refine Triple.bind hrows fun _ => ?_
    refine Triple.bind (write_able fun t _ => ⟨t, rfl, rfl⟩) fun _ => ?_
    exact Triple.modify fun _ _ => trivial
  refine Triple.bind (dbCon_able pid) fun _ => Triple.bind (begin_able pid) fun _ => ?_
  refine Triple.bind hbody.attempt fun r => ?_
  cases r with
  | ok u => exact Triple.pure fun _ h => h
  | error e => exact fun _ h => h.elim

end Persistence

open Persistence

/-- **All or nothing**, whichever statement raises.  No transaction is left open, and the
next call stores its upload unless one of its own statements raises. -/
theorem persist_all_or_nothing (env : Env) (w : World) (pid : Nat) (vec0 : List F32)
    (rows : List (Nat × LeaderboardRow)) :
    ∃ saved w', (Game.persistMatch env pid vec0 rows).run w = (.ok saved, w') ∧
      (saved = true → Replaced pid vec0 rows w.db.tables w'.db.tables ∧ w'.db.saved = none) ∧
      (saved = false → w'.db.tables = w.db.tables ∧ w'.db.saved = w.db.saved) ∧
      (w.db.saved = none → w'.db.saved = none ∧ ∀ pid' vec0' rows', Able env pid' w'.db →
        (∀ row ∈ rows', Career.bindable row.2 = true) →
        ∃ w'', (Game.persistMatch env pid' vec0' rows').run w' = (.ok true, w'')) := by
  obtain ⟨new, hrun, -⟩ := Game.persistMatch_run env pid vec0 rows w
  have hspec := matchTransaction_spec env w.db.tables w.db.saved pid vec0 rows w.db ⟨rfl, rfl⟩
  -- the next call, from wherever no transaction is open
  have hnext : ∀ {w' : World}, w'.db.saved = none → ∀ pid' vec0' rows', Able env pid' w'.db →
      (∀ row ∈ rows', Career.bindable row.2 = true) →
      ∃ w'', (Game.persistMatch env pid' vec0' rows').run w' = (.ok true, w'') := by
    intro w' hs pid' vec0' rows' hable hb
    obtain ⟨new', hrun', -⟩ := Game.persistMatch_run env pid' vec0' rows' w'
    rcases matchTransaction_able pid' vec0' hb w'.db ⟨hable, hs⟩ with ⟨u, d, hd, -⟩ | ⟨e, d, -, he⟩
    · rw [hd] at hrun'
      exact ⟨_, hrun'⟩
    · exact he.elim
  refine ⟨_, _, hrun, ?_⟩
  unfold after
  rcases hspec with ⟨u, d, hd, ht, hs⟩ | ⟨e, d, hd, ht, hs⟩
  · rw [hd]
    refine ⟨fun _ => ⟨?_, hs⟩, fun h => (nomatch h), fun _ => ⟨hs, hnext hs⟩⟩
    show Replaced pid vec0 rows w.db.tables d.tables
    rw [ht]
    exact replaced_written pid vec0 rows w.db.tables
  · rw [hd]
    exact ⟨fun h => (nomatch h), fun _ => ⟨ht, hs⟩, fun h0 => ⟨hs.trans h0, hnext (hs.trans h0)⟩⟩

end Ghostbusters
