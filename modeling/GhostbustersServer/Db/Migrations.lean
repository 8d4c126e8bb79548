import GhostbustersServer.Py.Crash
import GhostbustersServer.Py.Dict
import GhostbustersServer.Py.Text

/-!
# Migrations (`db/connection.py`, `db/migrations/*.sql`)

The statements that scripts are made of, as SQLite executes them in autocommit mode: each is
committed as it ends, or raises and has no effect.  The types of columns and what a DELETE
does are not kept, and of a time stamp only that there is one.
-/

namespace Ghostbusters

open Py

namespace Sql

inductive Value where
  | null
  | int (n : Int)
  | text (s : Str)
  | blob (b : Bytes)
  /-- `strftime('%s','now')` -/
  | now
  deriving DecidableEq, Repr

structure Column where
  name : Str
  notNull : Bool := false
  default : Value := .null
  /-- `REFERENCES table(column)` -/
  references : Option (Str × Str) := none
  deriving DecidableEq, Repr

structure Schema where
  columns : List Column
  /-- the `INTEGER PRIMARY KEY`, which numbers a row that does not give it -/
  rowid : Option Str := none
  /-- the columns of each PRIMARY KEY and UNIQUE -/
  keys : List (List Str)
  distinct : (columns.map (·.name)).Nodup := by decide
  deriving DecidableEq, Repr

def Schema.names (schema : Schema) : List Str := schema.columns.map (·.name)

inductive Statement where
  | pragma (name value : Str)
  | createTable (name : Str) (schema : Schema)
  | createIndex (name table : Str) (columns : List Str)
  | insert (table : Str) (columns : List Str) (rows : List (List Value))
  deriving DecidableEq, Repr

/-- Tables and indexes share their names. -/
inductive Entry where
  | table (schema : Schema)
  | index (table : Str) (columns : List Str)
  deriving DecidableEq, Repr

/-- The values of a row, by column. -/
abbrev Row : Type := List (Str × Value)

def Row.get (row : Row) (column : Str) : Value := (row.lookup column).getD .null

/-- The database file. -/
structure Disk where
  /-- `sqlite_master` -/
  master : Dict Str Entry
  /-- the rows of all tables, each with its table -/
  rows : List (Str × Row)

namespace Disk

def empty : Disk := ⟨Dict.empty, []⟩

def rowsOf (d : Disk) (table : Str) : List Row := (d.rows.filter (·.1 = table)).map (·.2)

end Disk

/-! ## Statements -/

def createTable (name : Str) (schema : Schema) (d : Disk) : Except Exc Disk :=
  if (d.master.get? name).isSome then .error .databaseError
  else .ok { d with master := d.master.set name (.table schema) }

def createIndex (name table : Str) (columns : List Str) (d : Disk) : Except Exc Disk :=
  match d.master.get? table with
  | some (.table schema) =>
    if (d.master.get? name).isSome ∨ ¬ columns ⊆ schema.names then .error .databaseError
    else .ok { d with master := d.master.set name (.index table columns) }
  | _ => .error .databaseError

/-- One more than the largest number in a column. -/
def nextRowid (rows : List Row) (column : Str) : Int :=
  match (rows.filterMap fun row =>
    match row.get column with
    | .int n => some n
    | _ => none).max? with
  | some n => n + 1
  | none => 1

/-- A row of `values`, with the defaults of the other columns. -/
def fullRow (schema : Schema) (columns : List Str) (values : List Value) (rows : List Row) : Row :=
  schema.columns.map fun c =>
    let value := ((columns.zip values).lookup c.name).getD c.default
    (c.name, if schema.rowid = some c.name ∧ value = .null then .int (nextRowid rows c.name) else value)

/-- Two rows agree on a key; NULLs never do. -/
def agree (key : List Str) (a b : Row) : Bool :=
  key.all fun column => a.get column ≠ .null && a.get column = b.get column

def insertRow (table : Str) (columns : List Str) (schema : Schema) (values : List Value) (d : Disk) :
    Except Exc Disk :=
  let row := fullRow schema columns values (d.rowsOf table)
  if values.length ≠ columns.length ∨ ¬ columns ⊆ schema.names then .error .databaseError
  else if schema.columns.any fun c => c.notNull && row.get c.name = .null then
    .error .databaseError
  else if schema.keys.any fun key => (d.rowsOf table).any (agree key row) then
    .error .databaseError
  else .ok { d with rows := d.rows ++ [(table, row)] }

/-- The table that a row refers to is there, with that key, and so is the row. -/
def anchored (schema : Schema) (d : Disk) (row : Row) : Bool :=
  schema.columns.all fun c =>
    match c.references with
    | none => true
    | some (table, column) =>
      match d.master.get? table with
      | some (.table parent) =>
        [column] ∈ parent.keys &&
          (row.get c.name = .null || (d.rowsOf table).any fun r => r.get column = row.get c.name)
      | _ => false

/-- All rows or none; references are checked behind the last. -/
def insert (table : Str) (columns : List Str) (rows : List (List Value)) (d : Disk) :
    Except Exc Disk :=
  match d.master.get? table with
  | some (.table schema) => do
    let d' ← Process.executeAll (insertRow table columns schema) rows d
    if (d'.rows.drop d.rows.length).all fun r => anchored schema d' r.2 then .ok d'
    else .error .databaseError
  | _ => .error .databaseError

/-- The PRAGMAs of the scripts set what `open_db` has set already. -/
def exec : Statement → Disk → Except Exc Disk
  | .pragma _ _, d => .ok d
  | .createTable name schema, d => createTable name schema d
  | .createIndex name table columns, d => createIndex name table columns d
  | .insert table columns rows, d => insert table columns rows d

/-- `CREATE TABLE IF NOT EXISTS`. -/
def createTableIfNotExists (name : Str) (schema : Schema) (d : Disk) : Except Exc Disk :=
  match d.master.get? name with
  | some (.table _) => .ok d
  | _ => createTable name schema d

/-- `SELECT column FROM table`. -/
def select (column table : Str) (d : Disk) : Except Exc (List Value) :=
  match d.master.get? table with
  | some (.table schema) =>
    if column ∈ schema.names then .ok ((d.rowsOf table).map (Row.get · column))
    else .error .databaseError
  | _ => .error .databaseError

end Sql

/-! ## The migration runner -/

namespace Migrations

open Sql

structure Migration where
  name : Str
  script : List Statement

def table : Str := "_migrations".toList

def schema : Schema where
  columns := [{ name := "name".toList },
    { name := "applied_at".toList, notNull := true, default := .now }]
  keys := [["name".toList]]

/-- `INSERT INTO _migrations(name) VALUES (?)`. -/
def record (m : Migration) : Statement := .insert table ["name".toList] [[.text m.name]]

/-- `apply_migrations` on the scripts of the directory, in the order of their names. -/
def applyMigrations (dir : List Migration) : Act (Process Disk) (Stop Exc) Unit := do
  Process.perform fun d => (createTableIfNotExists table schema d).map fun d' => ((), d')
  let applied ← Process.perform fun d => (select "name".toList table d).map fun names => (names, d)
  Act.forEach dir fun m =>
    if .text m.name ∈ applied then pure ()
    else do
      Act.forEach m.script (Process.execute exec)
      Process.execute exec (record m)

/-! ## The scripts -/

/-- `REFERENCES accounts(pid)`. -/
def accountsPid : Option (Str × Str) := some ("accounts".toList, "pid".toList)

def init : Migration where
  name := "0001_init.sql".toList
  script :=
    [.pragma "foreign_keys".toList "ON".toList,
     .pragma "journal_mode".toList "WAL".toList,
     .createTable "accounts".toList
      { columns := [{ name := "pid".toList },
          { name := "psn_id".toList, notNull := true },
          { name := "created_at".toList, notNull := true },
          { name := "last_login_at".toList },
          { name := "account_info_public_data".toList, notNull := true
            default := .blob (List.replicate 32 0) }]
        rowid := some "pid".toList
        keys := [["pid".toList], ["psn_id".toList]] },
     .insert "accounts".toList ["pid".toList, "psn_id".toList, "created_at".toList]
      [[.int 1, .text "_server".toList, .now], [.int 2, .text "_authentication".toList, .now]],
     .createTable "stats".toList
      { columns := [{ name := "pid".toList, notNull := true, references := accountsPid },
          { name := "key".toList, notNull := true },
          { name := "value".toList, notNull := true, default := .int 0 },
          { name := "updated_at".toList, notNull := true }]
        keys := [["pid".toList, "key".toList]] },
     .createIndex "stats_leaderboard".toList "stats".toList ["key".toList, "value".toList],
     .createTable "gatherings".toList
      { columns := [{ name := "gathering_id".toList },
          { name := "owner_pid".toList, notNull := true, references := accountsPid },
          { name := "type".toList, notNull := true, default := .text "SparkGame".toList },
          { name := "display_string".toList },
          { name := "properties".toList },
          { name := "created_at".toList, notNull := true },
          { name := "expires_at".toList }]
        rowid := some "gathering_id".toList
        keys := [["gathering_id".toList]] },
     .createIndex "gatherings_by_owner".toList "gatherings".toList ["owner_pid".toList],
     .createTable "participants".toList
      { columns := [{ name := "gathering_id".toList, notNull := true
                      references := some ("gatherings".toList, "gathering_id".toList) },
          { name := "pid".toList, notNull := true, references := accountsPid },
          { name := "joined_at".toList, notNull := true }]
        keys := [["gathering_id".toList, "pid".toList]] },
     .createIndex "participants_by_pid".toList "participants".toList ["pid".toList],
     -- the key of a STRICT table is not NULL
     .createTable "counters".toList
      { columns := [{ name := "name".toList, notNull := true },
          { name := "value".toList, notNull := true }]
        keys := [["name".toList]] },
     .insert "counters".toList ["name".toList, "value".toList]
      [[.text "next_pid".toList, .int 10000], [.text "next_gathering_id".toList, .int 10000]]]

def careerStats : Migration where
  name := "0002_career_stats.sql".toList
  script :=
    [.createTable "career_stats".toList
      { columns := [{ name := "pid".toList, references := accountsPid },
          { name := "vec0".toList, notNull := true },
          { name := "updated_at".toList, notNull := true }]
        rowid := some "pid".toList
        keys := [["pid".toList]] },
     .createTable "leaderboard_stats".toList
      { columns := [{ name := "pid".toList, notNull := true, references := accountsPid },
          { name := "category".toList, notNull := true },
          { name := "cash".toList, notNull := true, default := .int 0 },
          { name := "mode_stat".toList, notNull := true, default := .int 0 },
          { name := "map_id".toList, notNull := true, default := .int 0 },
          { name := "updated_at".toList, notNull := true }]
        keys := [["pid".toList, "category".toList]] },
     .createIndex "leaderboard_by_cat".toList "leaderboard_stats".toList
      ["category".toList, "cash".toList]]

/-- `config.MIGRATIONS_DIR`. -/
def migrationsDir : List Migration := [init, careerStats]

end Migrations
end Ghostbusters
