import GhostbustersServer.Prudp.Payload
import GhostbustersServer.Py.Act
import GhostbustersServer.Py.Dict
import GhostbustersServer.Py.Float32

/-!
# The database (`db/accounts.py`, `db/career.py`)

The tables the running server uses, as SQLite keeps them between statements.  A
statement may raise (`Env.readFails`, `Env.writeFails`), then it has had no
effect; BEGIN keeps a copy that ROLLBACK restores.  Time stamps are not kept:
nothing reads them.
-/

namespace Ghostbusters

open Py

structure LeaderboardRow where
  cash : F32
  modeStat : F32
  mapId : Int
  deriving DecidableEq, Repr

structure Tables where
  /-- `accounts`: pid to psn_id -/
  accounts : Dict Nat Str
  /-- `counters`, the row `next_pid` -/
  nextPid : Nat
  /-- `career_stats`: pid to the packed vec0 -/
  careerStats : Dict Nat Bytes
  /-- `leaderboard_stats`, by (pid, category) -/
  leaderboardStats : Dict (Nat × Nat) LeaderboardRow

structure Db where
  tables : Tables
  /-- what ROLLBACK restores, while a transaction is open -/
  saved : Option Tables := none
  /-- whether the game's shared connection has been opened -/
  opened : Bool := false
  /-- reading and writing statements executed so far -/
  reads : Nat := 0
  writes : Nat := 0

namespace Db

/-- A reading statement is executed. -/
def read (env : Env) : Act Db Exc Tables := do
  let db ← Act.get
  Act.modify fun db => { db with reads := db.reads + 1 }
  if env.readFails db.reads then Act.raise .databaseError else pure db.tables

/-- A writing statement is executed; `f` is its effect, `none` if a constraint or
a parameter is violated. -/
def write (env : Env) (f : Tables → Option Tables) : Act Db Exc Unit := do
  let db ← Act.get
  Act.modify fun db => { db with writes := db.writes + 1 }
  if env.writeFails db.writes then Act.raise .databaseError
  else
    match f db.tables with
    | none => Act.raise .databaseError
    | some t => Act.modify fun db => { db with tables := t }

def begin (env : Env) : Act Db Exc Unit := do
  write env some
  let db ← Act.get
  if db.saved.isSome then Act.raise .databaseError
  else Act.modify fun db => { db with saved := some db.tables }

def commit (env : Env) : Act Db Exc Unit := do
  write env some
  Act.modify fun db => { db with saved := none }

def rollback : Act Db Exc Unit :=
  Act.modify fun db => { db with tables := db.saved.getD db.tables, saved := none }

/-- `db.open_db()`: its PRAGMAs may raise. -/
def openDb (env : Env) : Act Db Exc Unit := do
  let _ ← read env
  pure ()

/-- `_db_con()` of the game protocol: opened once. -/
def dbCon (env : Env) : Act Db Exc Unit := do
  let db ← Act.get
  if db.opened then pure ()
  else do
    openDb env
    Act.modify fun db => { db with opened := true }

end Db

/-! ## Accounts -/

def pidOf? (t : Tables) (psnId : Str) : Option Nat :=
  (t.accounts.entries.find? fun e => e.2 == psnId).map (·.1)

/-- `INSERT INTO accounts`: the PID is the primary key, the name is unique. -/
def insertAccount (pid : Nat) (psnId : Str) (t : Tables) : Option Tables :=
  if (t.accounts.get? pid).isSome ∨ (pidOf? t psnId).isSome then none
  else some { t with accounts := t.accounts.set pid psnId }

/-- The statements between BEGIN IMMEDIATE and COMMIT, and COMMIT. -/
def allocateAccount (env : Env) (psnId : Str) : Act Db Exc Nat := do
  let t ← Db.read env
  let pid := t.nextPid
  Db.write env fun t => some { t with nextPid := t.nextPid + 1 }
  Db.write env (insertAccount pid psnId)
  Db.commit env
  return pid

def findOrCreateAccount (env : Env) (psnId : Str) : Act Db Exc Nat := do
  let t ← Db.read env
  match pidOf? t psnId with
  | some pid => do
    -- last_login_at
    Db.write env some
    return pid
  | none => do
    Db.begin env
    match ← (allocateAccount env psnId).attempt with
    | .ok pid => return pid
    | .error e => do
      Db.rollback
      Act.raise e

def nameForPid (env : Env) (pid : Nat) : Act Db Exc Str := do
  let t ← Db.read env
  return (t.accounts.get? pid).getD ("PID".toList ++ decimal pid)

/-! ## Careers -/

namespace Career

def vec0Len : Nat := 122

def packF32 (x : F32) : Bytes := leBytes 4 x.toNat

/-- The first 122 slots, padded with zeros. -/
def fitVec0 (vec0 : List F32) : List F32 :=
  vec0.take vec0Len ++ List.replicate (vec0Len - vec0.length) 0

def packVec0 (vec0 : List F32) : Bytes := (fitVec0 vec0).flatMap packF32

/-- `n` floats of `b` from its byte `off` on. -/
def floatsAt (b : Bytes) (off n : Nat) : List F32 :=
  (List.range n).map fun i => UInt32.ofNat (ofLE (slice b (off + 4 * i) (off + 4 * i + 4)))

def unpackVec0 (blob : Bytes) : List F32 := floatsAt blob 0 (blob.length / 4)

def getCareer (env : Env) (pid : Nat) : Act Db Exc (Option (List F32)) := do
  let t ← Db.read env
  return (t.careerStats.get? pid).map unpackVec0

/-- Slot 5, or 0.0 if there is no row. -/
def careerCash (env : Env) (pid : Nat) : Act Db Exc F32 := do
  return match ← getCareer env pid with
    | some v => v.getD 5 0
    | none => 0

/-- The row of a PID that has an account (`REFERENCES accounts(pid)`). -/
def putCareer (pid : Nat) (blob : Bytes) (t : Tables) : Option Tables :=
  if (t.accounts.get? pid).isNone then none
  else some { t with careerStats := t.careerStats.set pid blob }

def upsertCareer (env : Env) (pid : Nat) (vec0 : List F32) : Act Db Exc Unit :=
  Db.write env (putCareer pid (packVec0 vec0))

/-! ## Leaderboards -/

def getLeaderboard (env : Env) (pid category : Nat) : Act Db Exc (Option LeaderboardRow) := do
  let t ← Db.read env
  return t.leaderboardStats.get? (pid, category)

/-- The rows of a category with cash above 0, by cash descending; rows of equal
cash stay in the order of their insertion. -/
def rankedForCategory (env : Env) (category : Nat) : Act Db Exc (List (Nat × LeaderboardRow)) := do
  let t ← Db.read env
  let rows := t.leaderboardStats.entries.filter fun e =>
    decide (e.1.2 = category) && F32.isPositive e.2.cash
  return (rows.map fun e => (e.1.1, e.2)).mergeSort fun a b =>
    -- the bit patterns of positive floats are ordered as their values
    decide (b.2.cash.toNat ≤ a.2.cash.toNat)

/-- A NaN is bound as NULL, which the columns refuse; an INTEGER has 64 bits. -/
def bindable (row : LeaderboardRow) : Bool :=
  !F32.isNaN row.cash && !F32.isNaN row.modeStat &&
    decide (-(2 ^ 63) ≤ row.mapId) && decide (row.mapId < 2 ^ 63)

/-- The row as it is bound.  A REAL column drops the sign of -0.0, which is kept here. -/
def putLeaderboard (pid category : Nat) (row : LeaderboardRow) (t : Tables) : Option Tables :=
  if !bindable row ∨ (t.accounts.get? pid).isNone then none
  else some { t with leaderboardStats := t.leaderboardStats.set (pid, category) row }

def upsertLeaderboard (env : Env) (pid category : Nat) (row : LeaderboardRow) : Act Db Exc Unit :=
  Db.write env (putLeaderboard pid category row)

end Career
end Ghostbusters
