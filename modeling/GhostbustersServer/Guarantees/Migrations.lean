import GhostbustersServer.Db.Migrations
import GhostbustersServer.Py.Runs
import GhostbustersServer.Server

/-!
# Migrations and crashes

A script and its entry in `_migrations` are committed one statement after the other, so that
a process that starts over after a crash may find a script half executed.

    exec_size, exec_grows      what a statement does to the database file
    applyMigrations_live       what a run leaves that comes to its end
    applyMigrations_cut        and one that is cut off
    runs_managed               the table of the runner, over any number of runs
    migrated_tables            what the scripts of the repository make
    recovers_iff               the next run repairs it exactly when no statement of a script
                               that has no entry has added anything
-/

namespace Ghostbusters

open Py Act

namespace Sql

/-! ## What a statement adds -/

/-- The tables, indexes and rows of a statement. -/
def adds : Statement → Nat
  | .pragma _ _ => 0
  | .createTable _ _ => 1
  | .createIndex _ _ _ => 1
  | .insert _ _ rows => rows.length

namespace Disk

def size (d : Disk) : Nat := d.master.entries.length + d.rows.length

/-- The same tables, indexes and rows. -/
structure Same (d d' : Disk) : Prop where
  master : d.master.entries.Perm d'.master.entries
  rows : d.rows.Perm d'.rows

theorem Same.refl (d : Disk) : d.Same d := ⟨.refl _, .refl _⟩

theorem Same.size_eq {d d' : Disk} (h : d.Same d') : d.size = d'.size :=
  congrArg₂ (· + ·) h.master.length_eq h.rows.length_eq

/-- Nothing goes. -/
structure Grows (d d' : Disk) : Prop where
  master : ∀ name entry, d.master.get? name = some entry → d'.master.get? name = some entry
  rows : ∃ new, d'.rows = d.rows ++ new

theorem Grows.refl (d : Disk) : d.Grows d := ⟨fun _ _ h => h, [], (List.append_nil _).symm⟩

theorem Grows.trans {d1 d2 d3 : Disk} (h1 : d1.Grows d2) (h2 : d2.Grows d3) : d1.Grows d3 := by
  obtain ⟨new, hnew⟩ := h1.rows
  obtain ⟨new', hnew'⟩ := h2.rows
  refine ⟨fun name entry h => h2.master name entry (h1.master name entry h), new ++ new', ?_⟩
  rw [hnew', hnew, List.append_assoc]

theorem rowsOf_append {d d' : Disk} {new : List (Str × Row)} (h : d'.rows = d.rows ++ new)
    (table : Str) : d'.rowsOf table = d.rowsOf table ++ (new.filter (·.1 = table)).map (·.2) := by
  unfold rowsOf
  rw [h, List.filter_append, List.map_append]

/-- A name that is free is taken. -/
theorem set_fresh {d : Disk} {name : Str} (entry : Entry) (h : d.master.get? name = none) :
    d.Grows { d with master := d.master.set name entry } ∧
      size { d with master := d.master.set name entry } = d.size + 1 := by
  have hentries := Dict.entries_set_of_fresh d.master name entry
    ((Dict.get?_eq_none_iff d.master name).mp h)
  constructor
  · refine ⟨fun other e he => ?_, [], (List.append_nil _).symm⟩
    show (d.master.set name entry).get? other = some e
    rw [Dict.get?_set]
    split
    · next heq =>
      rw [heq, h] at he
      cases he
    · exact he
  · unfold size
    rw [hentries, List.length_append, List.length_singleton, Nat.add_right_comm]

end Disk

theorem createTable_ok {name : Str} {schema : Schema} {d d' : Disk}
    (h : createTable name schema d = .ok d') :
    d.master.get? name = none ∧ d' = { d with master := d.master.set name (.table schema) } := by
  unfold createTable at h
  split at h
  · cases h
  · next hfree =>
    cases h
    exact ⟨Option.not_isSome_iff_eq_none.mp hfree, rfl⟩

theorem createIndex_ok {name table : Str} {columns : List Str} {d d' : Disk}
    (h : createIndex name table columns d = .ok d') :
    d.master.get? name = none ∧ d' = { d with master := d.master.set name (.index table columns) } := by
  unfold createIndex at h
  split at h
  · split at h
    · cases h
    · next hfree =>
      cases h
      exact ⟨Option.not_isSome_iff_eq_none.mp fun hs => hfree (.inl hs), rfl⟩
  · cases h

theorem insertRow_ok {table : Str} {columns : List Str} {schema : Schema} {values : List Value}
    {d d' : Disk} (h : insertRow table columns schema values d = .ok d') :
    (schema.keys.any fun key => (d.rowsOf table).any
        (agree key (fullRow schema columns values (d.rowsOf table)))) = false ∧
      d' = { d with rows := d.rows ++ [(table, fullRow schema columns values (d.rowsOf table))] } := by
  unfold insertRow at h
  dsimp only at h
  split at h
  · cases h
  · split at h
    · cases h
    · split at h
      · cases h
      · next hkeys =>
        cases h
        exact ⟨Bool.not_eq_true _ ▸ hkeys, rfl⟩

theorem insert_ok {table : Str} {columns : List Str} {rows : List (List Value)} {d d' : Disk}
    (h : insert table columns rows d = .ok d') : ∃ schema, d.master.get? table = some (.table schema) ∧
      Process.executeAll (insertRow table columns schema) rows d = .ok d' := by
  unfold insert at h
  split at h
  · next schema hs =>
    refine ⟨schema, hs, ?_⟩
    cases hrun : Process.executeAll (insertRow table columns schema) rows d with
    | error e =>
      rw [hrun] at h
      cases h
    | ok d1 =>
      rw [hrun] at h
      change (if _ then Except.ok d1 else Except.error _) = _ at h
      split at h
      · cases h
        rfl
      · cases h
  · cases h

theorem insertRows_grows {table : Str} {columns : List Str} {schema : Schema}
    {rows : List (List Value)} {d d' : Disk}
    (h : Process.executeAll (insertRow table columns schema) rows d = .ok d') :
    d.Grows d' ∧ d'.size = d.size + rows.length := by
  induction rows generalizing d with
  | nil =>
    cases h
    exact ⟨.refl _, rfl⟩
  | cons values rows ih =>
    obtain ⟨d1, h1, h2⟩ := Process.executeAll_cons_ok.mp h
    obtain ⟨-, hd1⟩ := insertRow_ok h1
    obtain ⟨hgrows, hsize⟩ := ih h2
    have hone : d.Grows d1 ∧ d1.size = d.size + 1 := by
      rw [hd1]
      refine ⟨⟨fun _ _ h => h, _, rfl⟩, ?_⟩
      unfold Disk.size
      rw [List.length_append, List.length_singleton, Nat.add_assoc]
    exact ⟨hone.1.trans hgrows, by rw [hsize, hone.2, List.length_cons]; omega⟩

/-- **A statement** that is executed only adds, and exactly what it says. -/
theorem exec_grows {st : Statement} {d d' : Disk} (h : exec st d = .ok d') :
    d.Grows d' ∧ d'.size = d.size + adds st := by
  cases st with
  | pragma name value =>
    cases h
    exact ⟨.refl _, rfl⟩
  | createTable name schema =>
    obtain ⟨hfree, rfl⟩ := createTable_ok h
    exact Disk.set_fresh _ hfree
  | createIndex name table columns =>
    obtain ⟨hfree, rfl⟩ := createIndex_ok h
    exact Disk.set_fresh _ hfree
  | insert table columns rows =>
    obtain ⟨schema, -, hrun⟩ := insert_ok h
    exact insertRows_grows hrun

theorem exec_idle {st : Statement} {d d' : Disk} (h : exec st d = .ok d') (hadds : adds st = 0) :
    d' = d := by
  cases st with
  | pragma name value =>
    cases h
    rfl
  | createTable name schema => cases hadds
  | createIndex name table columns => cases hadds
  | insert table columns rows =>
    cases List.eq_nil_of_length_eq_zero hadds
    obtain ⟨schema, -, hrun⟩ := insert_ok h
    cases hrun
    rfl

end Sql

namespace Migrations

open Sql

/-! ## The entries of `_migrations` -/

def nameColumn : Str := "name".toList

/-- The table is there, as the runner makes it. -/
def Ready (d : Disk) : Prop := d.master.get? table = some (.table schema)

/-- Nobody else has made a table or an index of its name. -/
def Managed (d : Disk) : Prop := d.master.get? table = none ∨ Ready d

/-- `{r[0] for r in con.execute("SELECT name FROM _migrations")}`. -/
def applied (d : Disk) : List Value := (d.rowsOf table).map (Row.get · nameColumn)

def Done (m : Migration) (d : Disk) : Prop := .text m.name ∈ applied d

instance (m : Migration) (d : Disk) : Decidable (Done m d) :=
  inferInstanceAs (Decidable (.text m.name ∈ applied d))

/-- The scripts that a run executes. -/
def pending (dir : List Migration) (d : Disk) : List Migration := dir.filter fun m => ¬ Done m d

/-- The row that records a script. -/
def rowOf (m : Migration) : Row := [(nameColumn, .text m.name), ("applied_at".toList, .now)]

theorem get_rowOf (m : Migration) : (rowOf m).get nameColumn = .text m.name := rfl

theorem record_ok {m : Migration} {d d' : Disk} (h : exec (record m) d = .ok d') (hd : Ready d) :
    ¬ Done m d ∧ Done m d' := by
  obtain ⟨schema', hschema, hrun⟩ := insert_ok h
  cases hschema.symm.trans hd
  obtain ⟨d1, h1, hend⟩ := Process.executeAll_cons_ok.mp hrun
  cases hend
  obtain ⟨hkeys, hd1⟩ := insertRow_ok h1
  have hrow : fullRow schema ["name".toList] [.text m.name] (d.rowsOf table) = rowOf m := rfl
  rw [hrow] at hkeys hd1
  constructor
  · -- the name would be there twice
    intro hdone
    obtain ⟨row, hin, hname⟩ := List.mem_map.mp hdone
    refine Bool.eq_false_iff.mp hkeys (List.any_eq_true.mpr ⟨[nameColumn], List.mem_singleton_self _,
      List.any_eq_true.mpr ⟨row, hin, ?_⟩⟩)
    show ([nameColumn].all fun column => _) = true
    rw [List.all_cons, List.all_nil, Bool.and_true, get_rowOf, hname]
    simp
  · have hrows : d'.rows = d.rows ++ [(table, rowOf m)] := by rw [hd1]
    unfold Done applied
    rw [Disk.rowsOf_append hrows, List.map_append]
    exact List.mem_append_right _ (List.mem_singleton.mpr (get_rowOf m).symm)

theorem records : Process.Records record exec Ready Done where
  stays := fun _ _ _ h hd => (exec_grows h).1.master _ _ hd
  kept := fun m _ d d' h _ hdone => by
    obtain ⟨new, hnew⟩ := (exec_grows h).1.rows
    unfold Done applied at hdone ⊢
    rw [Disk.rowsOf_append hnew, List.map_append]
    exact List.mem_append_left _ hdone
  once := fun _ _ _ h hd => record_ok h hd

/-! ## A run -/

/-- The file once the table of the runner is there. -/
def prepared (d : Disk) : Disk :=
  if (d.master.get? table).isSome then d else { d with master := d.master.set table (.table schema) }

theorem prepared_of_ready {d : Disk} (h : Ready d) : prepared d = d := by
  unfold prepared
  unfold Ready at h
  rw [h]
  rfl

theorem prepared_of_absent {d : Disk} (h : d.master.get? table = none) :
    prepared d = { d with master := d.master.set table (.table schema) } := by
  unfold prepared
  rw [h]
  rfl

theorem prepared_ready {d : Disk} (hd : Managed d) : Ready (prepared d) := by
  rcases hd with h | h
  · rw [prepared_of_absent h]
    exact Dict.get?_set_self _ _ _
  · rwa [prepared_of_ready h]

theorem applied_prepared (d : Disk) : applied (prepared d) = applied d := by
  unfold prepared
  split <;> rfl

/-- The first statement of a run. -/
theorem create_ok {d : Disk} (hd : Managed d) :
    (createTableIfNotExists table schema d).map (fun d' => ((), d')) = .ok ((), prepared d) := by
  unfold createTableIfNotExists
  rcases hd with h | h
  · rw [prepared_of_absent h]
    unfold createTable
    rw [h]
    rfl
  · rw [prepared_of_ready h]
    unfold Ready at h
    rw [h]
    rfl

/-- The second. -/
theorem select_ok {d : Disk} (hd : Ready d) :
    (select "name".toList table d).map (fun names => (names, d)) = .ok (applied d, d) := by
  unfold select
  unfold Ready at hd
  rw [hd]
  exact congrArg (Except.map _) (if_pos (by decide))

/-- What a run executes behind its first two statements. -/
def statements (dir : List Migration) (d : Disk) : List Statement :=
  Process.plan Migration.script record (pending dir d)

theorem loop_run (dir : List Migration) (d : Disk) (p : Process Disk) :
    (Act.forEach dir fun m => if .text m.name ∈ applied (prepared d) then pure ()
      else do
        Act.forEach m.script (Process.execute exec)
        Process.execute exec (record m)).run p =
      (Act.forEach (statements dir d) (Process.execute exec)).run p := by
  have hloop := Process.run_forEach_scripts Migration.script record exec
    (fun m => decide (Done m d)) dir p
  have hpending : (dir.filter fun m => !decide (Done m d)) = pending dir d := by
    unfold pending
    simp only [decide_not]
  rw [hpending] at hloop
  refine Eq.trans ?_ hloop
  rw [applied_prepared]
  simp only [decide_eq_true_eq]
  rfl

section
variable {dir : List Migration} {d : Disk} (hd : Managed d)
include hd

/-- **A run that comes to its end.** -/
theorem applyMigrations_live {d' : Disk} :
    (applyMigrations dir).run ⟨d, none⟩ = (.ok (), ⟨d', none⟩) ↔
      Process.executeAll exec (statements dir d) (prepared d) = .ok d' := by
  unfold applyMigrations
  rw [run_bind_ok (Process.perform_live_ok (create_ok hd)),
    run_bind_ok (Process.perform_live_ok (select_ok (prepared_ready hd))), loop_run]
  exact Process.forEach_live_iff

/-- **A run that is cut off** behind its first two statements. -/
theorem applyMigrations_cut {d' : Disk}
    (h : Process.executeAll exec (statements dir d) (prepared d) = .ok d') (n : Nat) :
    Process.executeAll exec ((statements dir d).take n) (prepared d) =
      .ok ((applyMigrations dir).after ⟨d, some (n + 2)⟩).store := by
  have hrun : (applyMigrations dir).run ⟨d, some (n + 2)⟩ =
      (Act.forEach (statements dir d) (Process.execute exec)).run ⟨prepared d, some n⟩ := by
    unfold applyMigrations
    rw [run_bind_ok (Process.perform_doomed (create_ok hd) (n + 1)),
      run_bind_ok (Process.perform_doomed (select_ok (prepared_ready hd)) n), loop_run]
  unfold after
  rw [hrun]
  exact Process.forEach_cut h n

end

/-! ## One run after another -/

/-- A process is started on the file, and lives or dies. -/
def restart (run : List Migration × Option Nat) (d : Disk) : Disk :=
  ((applyMigrations run.1).after ⟨d, run.2⟩).store

theorem execute_ready (st : Statement) :
    Within (Keeps fun p : Process Disk => Ready p.store) (Process.execute exec st) :=
  Process.execute_keeps (records.stays st)

/-- The table of the runner is as it makes it, wherever a run ends. -/
theorem restart_managed (run : List Migration × Option Nat) (d : Disk) (hd : Managed d) :
    Managed (restart run d) := by
  have hwithin : WithinAt (Keeps fun p : Process Disk => Managed p.store) (applyMigrations run.1)
      ⟨d, run.2⟩ := by
    have hcreate {d d' : Disk} {u : Unit} (hd : Managed d)
        (h : (createTableIfNotExists table schema d).map (fun d' => ((), d')) = .ok (u, d')) :
        Ready d' := by
      cases (create_ok hd).symm.trans h
      exact prepared_ready hd
    refine WithinAt.bind (Process.perform_keeps (fun d _ d' h hd => .inr (hcreate hd h)) _)
      fun _ p h _ => .inr ?_
    -- the table is there from the first statement on
    have htail : Within (Keeps fun p : Process Disk => Ready p.store) (do
        let applied ← Process.perform fun d => (select "name".toList table d).map fun names => (names, d)
        Act.forEach run.1 fun m =>
          if .text m.name ∈ applied then pure ()
          else do
            Act.forEach m.script (Process.execute exec)
            Process.execute exec (record m)) := by
      refine Within.bind (Process.perform_keeps fun d names d' h hd => ?_) fun applied =>
        Within.forEach _ fun m _ => ?_
      · cases (select_ok hd).symm.trans h
        exact hd
      · split
        · exact Within.pure ()
        · exact Within.bind (Within.forEach _ fun st _ => execute_ready st) fun _ => execute_ready _
    exact htail p (hcreate hd (Process.perform_ok h))
  exact hwithin hd

theorem runs_managed (history : List (List Migration × Option Nat)) :
    Managed (runs restart history Disk.empty) :=
  runs_preserves restart_managed history Disk.empty (.inl rfl)

/-- The file that the scripts of the repository make. -/
def migrated : Disk := restart (migrationsDir, none) Disk.empty

theorem migrationsDir_run :
    (applyMigrations migrationsDir).run ⟨Disk.empty, none⟩ = (.ok (), ⟨migrated, none⟩) :=
  Process.run_live (by decide +kernel) (by decide +kernel)

/-- It holds what the server starts with. -/
theorem migrated_tables :
    (migrated.rowsOf "accounts".toList).map (fun row =>
        (row.get "pid".toList, row.get "psn_id".toList)) =
      Db.migrated.tables.accounts.entries.map (fun e => (.int e.1, .text e.2)) ∧
    ((migrated.rowsOf "counters".toList).filter fun row =>
        row.get nameColumn = .text "next_pid".toList).map (Row.get · "value".toList) =
      [.int Db.migrated.tables.nextPid] ∧
    migrated.rowsOf "career_stats".toList = [] ∧ Db.migrated.tables.careerStats.entries = [] ∧
    migrated.rowsOf "leaderboard_stats".toList = [] ∧
      Db.migrated.tables.leaderboardStats.entries = [] := by
  decide +kernel

/-! ## A run behind one that was cut off -/

section
variable {dir : List Migration} {d0 d1 c : Disk} (hm : Managed d0)
include hm

/-- What is left to a run on a file that holds the first `m` statements of another. -/
theorem pending_restart {m : Nat}
    (hcut : Process.executeAll exec ((statements dir d0).take m) (prepared d0) = .ok (prepared c)) :
    pending dir c = (pending dir d0).filter fun k => ¬ Done k (prepared c) := by
  unfold pending
  rw [List.filter_filter]
  refine List.filter_congr fun k _ => ?_
  have hiff : Done k (prepared c) ↔ Done k c := by
    unfold Done
    rw [applied_prepared]
  have hkept : Done k d0 → Done k (prepared c) := fun hk =>
    records.kept_executeAll hcut (prepared_ready hm) (by unfold Done; rwa [applied_prepared])
  rw [← Bool.decide_and]
  refine decide_eq_decide.mpr ⟨fun hk => ⟨fun h => hk (hiff.mp h), fun h => hk (hiff.mp (hkept h))⟩,
    fun hk h => hk.1 (hiff.mpr h)⟩

theorem restart_iff (hlive : Process.executeAll exec (statements dir d0) (prepared d0) = .ok d1)
    (hc : Managed c) {m : Nat}
    (hcut : Process.executeAll exec ((statements dir d0).take m) (prepared d0) = .ok (prepared c)) :
    (∃ d2, (applyMigrations dir).run ⟨c, none⟩ = (.ok (), ⟨d2, none⟩) ∧ d2.Same d1) ↔
      Process.Clean Migration.script adds m (pending dir d0) := by
  rw [← records.starts_over_iff (fun _ _ _ h => (exec_grows h).2) (fun _ _ _ => exec_idle) Disk.Same.refl
    (fun _ _ => Disk.Same.size_eq) (prepared_ready hm) hlive hcut, ← pending_restart hm hcut]
  exact exists_congr fun d2 => and_congr_left fun _ => applyMigrations_live hc

end

/-- **A crash** after `n` statements of a run that would have come to its end.  The next run
comes to its end, and to the same tables, indexes and rows, exactly when of every script
without an entry the crash has left nothing but PRAGMAs. -/
theorem recovers_iff {dir : List Migration} {d0 d1 : Disk} (hm : Managed d0)
    (hrun : (applyMigrations dir).run ⟨d0, none⟩ = (.ok (), ⟨d1, none⟩)) (n : Nat) :
    (∃ d2, (applyMigrations dir).run ⟨restart (dir, some n) d0, none⟩ = (.ok (), ⟨d2, none⟩) ∧
        d2.Same d1) ↔ Process.Clean Migration.script adds (n - 2) (pending dir d0) := by
  have hlive := (applyMigrations_live hm).mp hrun
  have hready := prepared_ready hm
  rcases n with _ | _ | n
  · -- before the table of the runner is made
    have hcut : restart (dir, some 0) d0 = d0 := by
      unfold restart after applyMigrations
      rw [run_bind_error (Process.perform_dead _ d0)]
    rw [hcut]
    exact restart_iff hm hlive hm rfl
  · have hcut : restart (dir, some 1) d0 = prepared d0 := by
      unfold restart after applyMigrations
      rw [run_bind_ok (Process.perform_doomed (create_ok hm) 0),
        run_bind_error (Process.perform_dead _ _)]
    rw [hcut]
    exact restart_iff hm hlive (.inr hready) (m := 0) (by rw [prepared_of_ready hready]; rfl)
  · have hcut := applyMigrations_cut hm hlive n
    have hc := records.ready_executeAll hcut hready
    exact restart_iff hm hlive (.inr hc) (hcut.trans (congrArg _ (prepared_of_ready hc).symm))

theorem recovers_iff_scripts : ∃ d2,
    (applyMigrations migrationsDir).run ⟨restart (migrationsDir, some 15) Disk.empty, none⟩ =
      (.ok (), ⟨d2, none⟩) ∧ d2.Same migrated :=
  (recovers_iff (.inl rfl) migrationsDir_run 15).mpr (by decide +kernel)

/-- Behind `CREATE TABLE accounts` the next run finds the table there, and raises. -/
theorem accounts_exists :
    ((applyMigrations migrationsDir).run ⟨Disk.empty, none⟩).1 = .ok () ∧
    ((applyMigrations migrationsDir).run ⟨restart (migrationsDir, some 5) Disk.empty, none⟩).1 =
      .error (.raised .databaseError) := by
  decide +kernel

end Migrations
end Ghostbusters
