import GhostbustersServer.Protocols.GameStats
import GhostbustersServer.Protocols.Peers

/-!
# Matchmaking (`protocols/game.py`, proto 60, the lobby half)
-/

namespace Ghostbusters

open Py

namespace Game

def methodCreateGathering : Nat := 4

def methodJoinGathering : Nat := 5

def methodFriendsList : Nat := 10

def methodLeaveGathering : Nat := 16

def methodSearchGatherings : Nat := 20

def methodQuickMatch : Nat := 21

def methodInvitationsList : Nat := 22

/-- RendezVous::SessionVoid: the gathering is gone. -/
def errSessionVoid : Nat := 0x80060019

def sessionVoid (request : Request) : Message :=
  .error { proto, callId := request.callId, errorCode := errSessionVoid }

/-! ## The filter of a search -/

structure Filter where
  ranked : Str
  levelId : Str
  jobId : Str
  difficulty : Str
  gameMode : Str
  deriving DecidableEq, Repr

/-- The qstring at offset `i`, and the offset behind it; slices are not checked. -/
def filterQstr (blob : Bytes) (i : Nat) : Str × Nat :=
  let ln := ofLE (slice blob i (i + 2))
  (latin1Decode (rstripNul (slice blob (i + 2) (i + 2 + ln))), i + 2 + ln)

def filterQstrs (blob : Bytes) : Nat → Nat → List Str × Nat
  | 0, i => ([], i)
  | n + 1, i =>
    let (s, i) := filterQstr blob i
    let (ss, i) := filterQstrs blob n i
    (s :: ss, i)

/-- Ranked, then seven slots, then the game mode; the trailer is not read. -/
def parseFilterParams (blob : Bytes) : Option Filter :=
  let (f0, i) := filterQstr blob 0
  let n := ofLE (slice blob i (i + 4))
  if n ≠ 7 then none
  else
    let (slots, i) := filterQstrs blob 7 (i + 4)
    let (fPost, _) := filterQstr blob i
    some { ranked := f0, levelId := slots.getD 0 [], jobId := slots.getD 1 []
           difficulty := slots.getD 2 [], gameMode := fPost }

/-- `any(f.values())`. -/
def Filter.anySet (f : Filter) : Bool :=
  [f.ranked, f.levelId, f.jobId, f.difficulty, f.gameMode].any (· ≠ [])

def setRanked : Nat := 0x00

def setGameMode : Nat := 0x01

def setLevelId : Nat := 0x21

def setJobId : Nat := 0x25

def setDifficulty : Nat := 0x29

/-- One filter field against the value in a gathering's settings: "" is any,
another text must be the value's number. -/
def fieldMatches (want : Str) (value : Nat) : Except Exc Bool :=
  if want = [] then .ok true
  else match parseInt want with
    | some n => .ok (n == value)
    | none => .error .valueError

/-- `a` and, if it holds, `b`. -/
def andThen (a b : Except Exc Bool) : Except Exc Bool := do
  if ← a then b else return false

/-- Settings that cannot be read pass; a field that is no number raises once the
fields before it match. -/
def gatheringMatchesFilter (g : Gathering) (f : Filter) : Except Exc Bool :=
  match g.settingsSlice with
  | none => .ok true
  | some s =>
    let u8 := fun off => (s.getD off 0).toNat
    let u32 := fun off => ofLE (slice s off (off + 4))
    let ranked := f.ranked = [] ∨ u8 setRanked = if f.ranked = ['1'] then 1 else 0
    andThen (.ok (decide ranked)) <|
    andThen (fieldMatches f.gameMode (u8 setGameMode)) <|
    andThen (fieldMatches f.levelId (u32 setLevelId)) <|
    andThen (fieldMatches f.jobId (u32 setJobId)) <|
    fieldMatches f.difficulty (u8 setDifficulty)

/-- The URLs of the host's connection; none without one. -/
def hostUrls (w : World) (g : Gathering) : List Str :=
  match g.hostConn with
  | some c => (w.heap c).stationUrls
  | none => []

/-- `[u32 n]`, `n` structs, `[u32 n]`, `n` url groups. -/
def renderMatches (w : World) (gs : List Gathering) : Except Exc Bytes := do
  let structs ← gs.mapM Gathering.renderSettingsForBrowse
  let groups ← gs.mapM fun g => g.renderUrlGroupForBrowse (hostUrls w g)
  return wU32 gs.length ++ structs.flatten ++ wU32 gs.length ++ groups.flatten

/-- The gatherings that pass the filter, in order. -/
def filterMatches (f : Filter) : List Gathering → Except Exc (List Gathering)
  | [] => .ok []
  | g :: gs => do
    let keep ← gatheringMatchesFilter g f
    let rest ← filterMatches f gs
    return if keep then g :: rest else rest

def searchGatherings (request : Request) : Srv Message := do
  let w ← Act.get
  let joinable := w.lobby.registry.allGatherings.filter fun g => 0 < g.publicRemaining && !g.closed
  let f := if request.params = [] then none else parseFilterParams request.params
  let active ← Act.ofExcept (match f with
    | some f => if f.anySet then filterMatches f joinable else .ok joinable
    | none => .ok joinable)
  return ok request (← Act.ofExcept (renderMatches w active))

/-! ## Create, join, leave -/

def createGathering (c : ConnId) (request : Request) : Srv Message := do
  let conn ← Srv.conn c
  let w ← Act.get
  let (g, reg) := w.lobby.registry.create conn.userPid conn.remote request.params (some c)
  Srv.modifyRegistry fun _ => reg
  return ok request (wU32 g.id)

/-- The lobby that a JoinGathering gets into: it is live, its host has registered
URLs, it has room, and a public slot for a player who is not invited. -/
def admitted (w : World) (userPid : Nat) (request : Request) : Option Gathering :=
  if request.params.length < 4 then none
  else match w.lobby.get (leadingGid request) with
    | none => none
    | some g =>
      if hostUrls w g = [] then none
      else if g.isFull ∨ (userPid ∉ g.invitedPids ∧ g.publicRemaining = 0) then none
      else some g

/-- `[u32 pid][qString name][16B state]`. -/
def participantBlock (p : Participant) : Bytes := wU32 p.pid ++ wQstring p.displayName ++ p.state

/-- The host's URLs, the participants but the joiner, and the embedded gathering. -/
def joinReply (urls : List Str) (g : Gathering) (joinerPid : Nat) : Except Exc Bytes := do
  let existing := g.participants.filter fun p => p.pid != joinerPid
  let embed ← g.renderJoinEmbed g.participants.length
  return wU32 urls.length ++ urls.flatMap wQstring ++ wU32 existing.length ++
    existing.flatMap participantBlock ++ embed

variable (env : Env)

/-- The answer to a joiner that is in, after the probes and the events. -/
def welcome (port : Port) (conn : Connection) (g : Gathering) (request : Request) : Srv Message := do
  let w ← Act.get
  let body ← Act.ofExcept (joinReply (hostUrls w g) g conn.userPid)
  match g.hostConn with
  | some host => NatTraversal.pushProbes env port host conn.stationUrls
  | none => pure ()
  Notification.pushJoin env port g conn.userPid
  Notification.pushParticipantsToJoiner env port g conn.userPid
  return ok request body

def joinGathering (port : Port) (c : ConnId) (request : Request) : Srv Message := do
  let conn ← Srv.conn c
  let w ← Act.get
  match admitted w conn.userPid request with
  | none => return sessionVoid request
  | some g => do
    Srv.modifyRegistry fun reg =>
      (reg.addParticipant g.id conn.userPid (pidName conn.userPid) conn.remote (some c)).2
    let w ← Act.get
    -- the same object, with the joiner in it
    welcome env port conn ((w.lobby.get g.id).getD g) request

def leaveGathering (port : Port) (c : ConnId) (request : Request) : Srv Message := do
  let conn ← Srv.conn c
  let w ← Act.get
  let (removed, reg) := w.lobby.registry.removeParticipant (leadingGid request) conn.userPid
  Srv.modifyRegistry fun _ => reg
  if removed then
    match reg.get (leadingGid request) with
    | some g => Notification.pushLeave env port g conn.userPid
    | none => pure ()
  return ok request []

/-! ## Quick match and the social lists -/

/-- An open lobby of another player whose host has URLs, with a public slot and the
wanted ranked flag. -/
def quickMatchCandidate (w : World) (userPid ranked : Nat) (g : Gathering) : Bool :=
  g.ownerPid != userPid && hostUrls w g != [] && 0 < g.publicRemaining && !g.closed &&
    match g.settingsSlice with
    | some s => (s.getD setRanked 0).toNat == ranked
    | none => true

def quickMatch (c : ConnId) (request : Request) : Srv Message := do
  let conn ← Srv.conn c
  let w ← Act.get
  let ranked := match request.params with
    | [] => 1
    | b :: _ => b.toNat
  let chosen := w.lobby.registry.allGatherings.find? (quickMatchCandidate w conn.userPid ranked)
  return ok request (← Act.ofExcept (renderMatches w chosen.toList))

def socialList (request : Request) : Srv Message := pure (ok request [])

end Game
end Ghostbusters
