import GhostbustersServer.Protocols.Notification

/-!
# Stats and leaderboards (`protocols/game.py`, proto 60, the stats half)

A SparkStats list, in uploads and replies alike:

    [u32 count] ([u32 pid][qString name][u32 h2] [u32 n][f32 * n] three times)*

The client uploads finished totals; the server stores them and serves them back.
-/

namespace Ghostbusters

open Py

namespace Game

def proto : Nat := 60

def methodLeaderboardSelf : Nat := 7

def methodUserStats : Nat := 9

def methodReportStats : Nat := 12

def methodLeaderboardGlobal : Nat := 17

/-- `_ok`. -/
def ok (request : Request) (ret : Bytes) : Message :=
  .ok { proto, method := request.method, callId := request.callId, ret }

/-- `int.from_bytes(p[off:off+4], "little") if len(p) >= off + 4 else 0`. -/
def paramU32 (p : Bytes) (off : Nat) : Nat :=
  if off + 4 ≤ p.length then ofLE (slice p off (off + 4)) else 0

/-! ## The parsers -/

/-- The u32s from `off` on, `count` of them or as many as there are. -/
def pidsFrom (p : Bytes) : Nat → Nat → List Nat
  | 0, _ => []
  | count + 1, off =>
    if p.length < off + 4 then []
    else ofLE (slice p off (off + 4)) :: pidsFrom p count (off + 4)

def parseM9Pids (p : Bytes) : List Nat :=
  if p.length < 8 then []
  else (pidsFrom p (ofLE (slice p 4 8)) 8).filter (· ≠ 0)

/-- `struct.unpack_from("<%df" % n, b, off)`. -/
def unpackFloats (n : Nat) (b : Bytes) (off : Nat) : Except Exc (List F32) :=
  if off + 4 * n ≤ b.length then .ok (Career.floatsAt b off n) else .error .structError

/-- A counted vector at `off`, unpacked or only skipped: its floats and the
offset behind it. -/
def readVec (unpack : Bool) (b : Bytes) (off : Nat) : Except Exc (List F32 × Nat) := do
  let n ← unpackFrom 4 b off
  let v ← if unpack then unpackFloats n b (off + 4) else .ok []
  return (v, off + 4 + 4 * n)

/-- The vector of an entry that a parser is after. -/
inductive Which where
  | vec0
  | vec1
  deriving DecidableEq, Repr

/-- The entries from `off` on: the sender's vector in the first that has its PID. -/
def walk (which : Which) (params : Bytes) (senderPid : Nat) :
    Nat → Nat → Except Exc (Option (List F32))
  | 0, _ => .ok none
  | pcount + 1, off => do
    let pid ← unpackFrom 4 params off
    let nlen ← unpackFrom 2 params (off + 4)
    let (v0, off) ← readVec (which == .vec0) params (off + 4 + (2 + nlen) + 4)
    let (v1, off) ← readVec (which == .vec1) params off
    let (_, off) ← readVec false params off
    if pid = senderPid then
      return some (match which with | .vec0 => v0 | .vec1 => v1)
    else walk which params senderPid pcount off

/-- Behind the gathering id and a counter; an exception gives None. -/
def parseSender (which : Which) (params : Bytes) (senderPid : Nat) : Option (List F32) :=
  match (do walk which params senderPid (← unpackFrom 4 params 8) 12) with
  | .ok v => v
  | .error _ => none

def parseM12SenderVec0 (params : Bytes) (senderPid : Nat) : Option (List F32) :=
  parseSender .vec0 params senderPid

def parseM12SenderVec1 (params : Bytes) (senderPid : Nat) : Option (List F32) :=
  parseSender .vec1 params senderPid

/-! ## The writers -/

def vec0Len : Nat := 122

def vec1Len : Nat := 96

/-- The slots of a vector that are not the default 0.0. -/
abbrev Slots : Type := Nat → F32

def noSlots : Slots := fun _ => 0

/-- One entry; an empty or missing name becomes `PID<n>`. -/
def sparkstatsEntry (pid : Nat) (vec0 vec1 : Slots) (txn vec2Len : Nat) (name : Str) : Bytes :=
  wU32 pid ++ wQstring (if name = [] then "PID".toList ++ decimal pid else name) ++ wU32 txn ++
    Notification.wVec vec0Len vec0 ++ Notification.wVec vec1Len vec1 ++
    Notification.wVec vec2Len noSlots

/-- The reply to an upload: the cash before it and after it. -/
def buildSparkstatsReply (pid : Nat) (vec0Cash vec1Cash : F32) (txn : Nat) : Bytes :=
  wU32 1 ++ sparkstatsEntry pid (fun i => if i = 5 then vec0Cash else 0)
    (fun i => if i = 10 then vec1Cash else 0) txn 0 []

/-! ## Reading the database -/

variable (env : Env)

/-- `stats_version` 1002, everything else 0. -/
def defaultCareerVec0 : List F32 := F32.ofInt 1002 :: List.replicate (Career.vec0Len - 1) 0

/-- `v[i]`. -/
def index (v : List F32) (i : Nat) : Except Exc F32 :=
  match v[i]? with
  | some x => .ok x
  | none => .error .indexError

/-- The stored career or the default one; a read error degrades to the default. -/
def getCareerVec0 (pid : Nat) : Srv (List F32) := do
  let r ← (Srv.useDb do
    Db.dbCon env
    Career.getCareer env pid).attempt
  return match r with
    | .ok (some v) => v
    | _ => defaultCareerVec0

/-- The stored baseline, or `none` for `{}`. -/
def getLeaderboard (pid cat : Nat) : Srv (Option LeaderboardRow) := do
  let r ← (Srv.useDb do
    Db.dbCon env
    Career.getLeaderboard env pid cat).attempt
  return match r with
    | .ok row => row
    | .error _ => none

/-! ## ReadStats -/

/-- Category 101: slot `i` of the career in slot `i + 5`. -/
def careerV1 (v0 : List F32) : Slots := fun k => if 5 ≤ k then v0.getD (k - 5) 0 else 0

/-- Category 102: slots 61 to 80, and 84, of the career 56 lower. -/
def careerV1Cat102 (v0 : List F32) : Slots := fun k =>
  if (5 ≤ k ∧ k ≤ 24) ∨ k = 28 then v0.getD (k + 56) 0 else 0

/-- The entry of one player; `slots` reads what its vec1 carries. -/
def statsEntry (slots : Nat → Srv Slots) (pid : Nat) : Srv Bytes := do
  let vec1 ← slots pid
  return sparkstatsEntry pid noSlots vec1 0 0 []

def statsReply (slots : Nat → Srv Slots) (pids : List Nat) : Srv Bytes := do
  let entries ← Act.mapEach pids (statsEntry slots)
  return wU32 pids.length ++ entries.flatten

def careerSlots (pid : Nat) : Srv Slots := do return careerV1 (← getCareerVec0 env pid)

def careerSlotsCat102 (pid : Nat) : Srv Slots := do return careerV1Cat102 (← getCareerVec0 env pid)

def baselineSlots (cat pid : Nat) : Srv Slots := do
  let lb ← getLeaderboard env pid cat
  return fun k => match lb with
    | some row => if k = 5 then row.cash else if k = 6 then row.modeStat
      else if k = 7 then F32.ofInt row.mapId else 0
    | none => 0

def userStats (request : Request) : Srv Message := do
  let cat := paramU32 request.params 0
  let pids := parseM9Pids request.params
  if cat = 101 then do
    let body ← statsReply (careerSlots env) pids
    -- the cash of every player, for the log
    let _ ← Act.mapEach pids fun pid => do Act.ofExcept (index (← getCareerVec0 env pid) 5)
    return ok request body
  else if cat = 102 then return ok request (← statsReply (careerSlotsCat102 env) pids)
  else if 201 ≤ cat then return ok request (← statsReply (baselineSlots env cat) pids)
  else return ok request (← statsReply (fun _ => pure noSlots) pids)

/-! ## ReportStats: rows and persistence -/

/-- Mode block of an instant upload to leaderboard category. -/
def instantBlockCat : List (Nat × Nat) :=
  [(0, 303), (1, 302), (2, 304), (3, 307), (4, 305), (5, 306)]

/-- `int(x)` of a float. -/
def toInt (x : F32) : Except Exc Int :=
  match F32.trunc x with
  | some n => .ok n
  | none => .error .valueError

def blockRow (vec1 : List F32) (block : Nat × Nat) : Except Exc (Nat × LeaderboardRow) := do
  let base := 7 + 4 * block.1
  let mapId ← toInt (vec1.getD (base + 2) 0)
  return (block.2, { cash := vec1.getD base 0, modeStat := vec1.getD (base + 1) 0, mapId })

/-- Six mode blocks and the cash board from a long vec1, the campaign board from
a shorter one. -/
def computeLeaderboardRows (vec0 : List F32) (vec1 : Option (List F32)) :
    Except Exc (List (Nat × LeaderboardRow)) :=
  match vec1 with
  | none => .ok []
  | some v1 =>
    if 31 ≤ v1.length then do
      let rows ← instantBlockCat.mapM (blockRow v1)
      return rows ++ [(301, { cash := vec0.getD 5 0, modeStat := 0, mapId := 0 })]
    else if 15 ≤ v1.length then
      .ok [(201, { cash := v1.getD 5 0, modeStat := 0, mapId := 0 })]
    else .ok []

/-- The upserts of one upload, and COMMIT. -/
def writeMatch (pid : Nat) (vec0 : List F32) (rows : List (Nat × LeaderboardRow)) :
    Act Db Exc Unit := do
  Career.upsertCareer env pid vec0
  Act.forEach rows fun row => Career.upsertLeaderboard env pid row.1 row.2
  Db.commit env

/-- One transaction: an exception rolls back and is raised again. -/
def matchTransaction (pid : Nat) (vec0 : List F32) (rows : List (Nat × LeaderboardRow)) :
    Act Db Exc Unit := do
  Db.dbCon env
  Db.begin env
  match ← (writeMatch env pid vec0 rows).attempt with
  | .ok _ => pure ()
  | .error e => do
    Db.rollback
    Act.raise e

def persistMatch (pid : Nat) (vec0 : List F32) (rows : List (Nat × LeaderboardRow)) : Srv Bool := do
  match ← (Srv.useDb (matchTransaction env pid vec0 rows)).attempt with
  | .ok _ => do
    Srv.log (.persisted pid vec0 rows)
    return true
  | .error _ => return false

/-! ## Leaderboards -/

def aroundselfLead : Nat := 3

def aroundselfTrail : Nat := 10

/-- The rows of a page, and the rank of the first counted from 0. -/
def leaderboardPage (ranked : List (Nat × LeaderboardRow)) (requesterPid offset count : Nat)
    (aroundSelf : Bool) : List (Nat × LeaderboardRow) × Nat :=
  if ranked = [] then ([], 0)
  else if aroundSelf then
    -- the first row if the requester has none
    let idx := (ranked.findIdx? fun r => r.1 == requesterPid).getD 0
    let start := idx - aroundselfLead
    (((ranked.take (idx + 1 + aroundselfTrail)).drop start).take count, start)
  else ((ranked.drop offset).take count, offset)

/-- One row, `position` places from the top of its board. -/
def leaderboardEntry (position : Nat) (row : Nat × LeaderboardRow) : Srv Bytes := do
  let name ← Srv.useDb (nameForPid env row.1)
  let mpRank ← Act.ofExcept (index (← getCareerVec0 env row.1) 4)
  return sparkstatsEntry row.1 (fun k => if k = 19 then mpRank else 0)
    (fun k => if k = 0 then F32.ofInt position else if k = 5 then row.2.cash
      else if k = 6 then row.2.modeStat else if k = 7 then F32.ofInt row.2.mapId else 0)
    position 1 name

def leaderboardQuery (c : ConnId) (request : Request) : Srv Message := do
  let cat := paramU32 request.params 0
  let offset := paramU32 request.params 4
  let count := paramU32 request.params 8
  let r ← (Srv.useDb do
    Db.dbCon env
    Career.rankedForCategory env cat).attempt
  let ranked := match r with
    | .ok rows => rows
    | .error _ => []
  let conn ← Srv.conn c
  let (page, start) := leaderboardPage ranked conn.userPid offset count
    (request.method == methodLeaderboardSelf)
  Srv.useDb (Db.dbCon env)
  let entries ← Act.mapEach page.zipIdx fun (row, j) => leaderboardEntry env (start + j + 1) row
  return ok request (wU32 page.length ++ entries.flatten)

end Game
end Ghostbusters
