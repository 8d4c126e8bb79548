import GhostbustersServer.Prudp.Connection
import GhostbustersServer.Py.Dict
import Mathlib.Data.Finset.Image

/-!
# The gathering registry (`state/gatherings.py`, `state/registry.py`)

A gathering is one matchmaking lobby: the blob its host uploaded, the players in
it (host first), its lock, and the state of its end-of-match reports.  The
registry keeps the lobbies by id and an index from owner PID to id.  Objects are
mutated in place, under their id.
-/

namespace Ghostbusters

open Py

def gatheringIdOffset : Nat := 0x14

def ownerPidOffset : Nat := 0x18

def displayQstringOffset : Nat := 0x34

def settingsBlockSize : Nat := 0x40

def participantCountOffsetInSettings : Nat := 0x11

def publicSlotsOffsetInSettings : Nat := 0x0d

def privateSlotsOffsetInSettings : Nat := 0x15

/-- Host and 3 others. -/
def maxParticipantsPerGathering : Nat := 4

structure Participant where
  pid : Nat
  displayName : Str
  remote : Remote
  state : Bytes := List.replicate 16 0
  conn : Option ConnId := none
  deriving DecidableEq, Repr

/-- Identity of a scheduled timer. -/
abbrev TimerId := Nat

structure Gathering where
  id : Nat
  ownerPid : Nat
  ownerRemote : Remote
  /-- exact bytes of CreateGathering -/
  rawParams : Bytes := []
  hostConn : Option ConnId := none
  participants : List Participant := []
  invitedPids : Finset Nat := ∅
  closed : Bool := false
  expectedM12Pids : Finset Nat := ∅
  receivedM12Pids : Finset Nat := ∅
  m12TimeoutHandle : Option TimerId := none
  deriving DecidableEq

/-- `f"pid_{pid}"`. -/
def pidName (pid : Nat) : Str := "pid_".toList ++ decimal pid

namespace Gathering

variable (g : Gathering)

def pids : List Nat := g.participants.map (·.pid)

/-- The u16 before the display name. -/
def displayLen (raw : Bytes) : Nat := ofLE (slice raw displayQstringOffset (displayQstringOffset + 2))

/-- The 64-byte settings tail, or `none` if the blob is malformed or short. -/
def settingsSlice : Option Bytes :=
  let rp := g.rawParams
  if rp.length < displayQstringOffset + 2 then none
  else
    let start := displayQstringOffset + 2 + displayLen rp
    let stop := start + settingsBlockSize
    if rp.length < stop then none else some (slice rp start stop)

/-- Slots for browse-joinable players; unreadable settings leave all three. -/
def publicSlots : Nat :=
  match g.settingsSlice with
  | none => maxParticipantsPerGathering - 1
  | some s => ofLE (slice s publicSlotsOffsetInSettings (publicSlotsOffsetInSettings + 4))

def nonInvitedJoiners : Nat :=
  g.participants.countP fun p => p.pid != g.ownerPid && decide (p.pid ∉ g.invitedPids)

def publicRemaining : Nat := g.publicSlots - g.nonInvitedJoiners

def isFull : Bool := maxParticipantsPerGathering ≤ g.participants.length

/-- The username before the first space of the display string. -/
def hostDisplayName : Str :=
  if g.rawParams.length < displayQstringOffset + 2 then pidName g.ownerPid
  else
    let dlen := displayLen g.rawParams
    let start := displayQstringOffset + 2
    if g.rawParams.length < start + dlen then pidName g.ownerPid
    else
      let full := utf8DecodeReplace (rstripNul (slice g.rawParams start (start + dlen)))
      full.takeWhile (· != ' ')

/-! ## Rendering -/

/-- The uploaded blob with id and owner overlaid, the count put into its
settings block, and the last byte of that block dropped.  A blob too short for
one of the fields is left as it is from there on. -/
def renderStruct (count : Nat) : Except Exc Bytes := do
  if g.rawParams.length < ownerPidOffset + 4 then return g.rawParams
  let gid ← toBytes 4 g.id
  let owner ← toBytes 4 g.ownerPid
  let buf := patch (patch g.rawParams gatheringIdOffset gid) ownerPidOffset owner
  if buf.length < displayQstringOffset + 2 then return buf
  let settingsStart := displayQstringOffset + 2 + displayLen buf
  let settingsEnd := settingsStart + settingsBlockSize
  if buf.length < settingsEnd then return buf
  let countBytes ← toBytes 4 count
  let buf := patch buf (settingsStart + participantCountOffsetInSettings) countBytes
  return buf.take (settingsEnd - 1)

/-- The struct in a JoinGathering response. -/
def renderJoinEmbed (postJoinCount : Nat) : Except Exc Bytes := g.renderStruct postJoinCount

/-- The struct in a SearchGatherings or QuickMatch response. -/
def renderSettingsForBrowse : Except Exc Bytes := g.renderStruct (g.participants.length - 1)

/-- `[u16 len][url][00]` of one URL; a length above 16 bits raises. -/
def renderUrl (url : Str) : Except Exc Bytes := do
  let urlBytes := utf8Encode url ++ [0]
  let len ← toBytes 2 urlBytes.length
  return len ++ urlBytes

/-- `[u32 gid][u32 url_count][qstring url]*`, of the host's live URLs or else of
the bytes behind the settings block.  `hostUrls` are the `station_urls` of the
host's connection. -/
def renderUrlGroupForBrowse (hostUrls : List Str) : Except Exc Bytes := do
  if g.hostConn.isSome ∧ hostUrls ≠ [] then
    let gid ← toBytes 4 g.id
    let count ← toBytes 4 hostUrls.length
    let urls ← hostUrls.mapM renderUrl
    return gid ++ count ++ urls.flatten
  if g.rawParams.length < displayQstringOffset + 2 then return []
  let settingsEnd := displayQstringOffset + 2 + displayLen g.rawParams + settingsBlockSize
  if g.rawParams.length < settingsEnd then return []
  let gid ← toBytes 4 g.id
  return gid ++ g.rawParams.drop settingsEnd

end Gathering

/-! ## The registry -/

structure GatheringRegistry where
  byId : Dict Nat Gathering
  ownerPidToId : Dict Nat Nat
  /-- the process-wide `_gathering_id_seq`, which only `create` draws from -/
  gatheringIdSeq : Nat

namespace GatheringRegistry

def empty : GatheringRegistry := ⟨Dict.empty, Dict.empty, 10000⟩

variable (reg : GatheringRegistry)

def get (gatheringId : Nat) : Option Gathering := reg.byId.get? gatheringId

def findByOwnerPid (pid : Nat) : Option Gathering :=
  match reg.ownerPidToId.get? pid with
  | some gid => reg.byId.get? gid
  | none => none

def allGatherings : List Gathering := reg.byId.values

def findGatheringsContainingPid (pid : Nat) : List Gathering :=
  reg.byId.values.filter fun g => g.participants.any fun p => p.pid == pid

/-- The gathering stored under an id, mutated in place. -/
def update (gatheringId : Nat) (f : Gathering → Gathering) : GatheringRegistry :=
  { reg with byId := reg.byId.modify gatheringId f }

/-- A gathering with its host as participant 0. -/
def newGathering (gid ownerPid : Nat) (ownerRemote : Remote) (rawParams : Bytes)
    (hostConn : Option ConnId) : Gathering :=
  let g : Gathering := { id := gid, ownerPid, ownerRemote, rawParams, hostConn }
  { g with participants :=
    [{ pid := ownerPid, displayName := g.hostDisplayName, remote := ownerRemote, conn := hostConn }] }

def create (ownerPid : Nat) (ownerRemote : Remote) (rawParams : Bytes) (hostConn : Option ConnId) :
    Gathering × GatheringRegistry :=
  let byId := match reg.ownerPidToId.get? ownerPid with
    | some existingId => reg.byId.erase existingId
    | none => reg.byId
  let gid := reg.gatheringIdSeq
  let g := newGathering gid ownerPid ownerRemote rawParams hostConn
  (g, { byId := byId.set gid g
        ownerPidToId := reg.ownerPidToId.set ownerPid gid
        gatheringIdSeq := gid + 1 })

/-- The participants after a join: a PID already listed keeps its entry, with the
connection refreshed. -/
def joined (ps : List Participant) (pid : Nat) (displayName : Str) (remote : Remote)
    (conn : Option ConnId) : List Participant :=
  if ps.any (fun p => p.pid == pid) then
    match conn with
    | some _ => refresh ps
    | none => ps
  else ps ++ [Participant.mk pid displayName remote (List.replicate 16 0) conn]
where
  /-- the first entry of the PID -/
  refresh : List Participant → List Participant
    | [] => []
    | p :: ps => if p.pid = pid then { p with conn := conn } :: ps else p :: refresh ps

/-- The entry of the player, and the registry with it. -/
def addParticipant (gatheringId pid : Nat) (displayName : Str) (remote : Remote)
    (conn : Option ConnId) : Option Participant × GatheringRegistry :=
  match reg.byId.get? gatheringId with
  | none => (none, reg)
  | some g =>
    let ps := joined g.participants pid displayName remote conn
    (ps.find? fun p => p.pid == pid,
      reg.update gatheringId fun g => { g with participants := ps })

def removeParticipant (gatheringId pid : Nat) : Bool × GatheringRegistry :=
  match reg.byId.get? gatheringId with
  | none => (false, reg)
  | some g =>
    let kept := g.participants.filter fun p => p.pid != pid
    (kept.length != g.participants.length,
      reg.update gatheringId fun g => { g with participants := kept })

/-- A gathering after the player at `remote` has gone; its host's is left to
`destroyByOwnerRemote`. -/
def withoutRemote (remote : Remote) (g : Gathering) : Gathering :=
  if g.ownerRemote = remote then g
  else { g with participants := g.participants.filter fun p => p.remote != remote }

def removeParticipantByRemote (remote : Remote) : Nat × GatheringRegistry :=
  (reg.byId.values.countP fun g =>
      (withoutRemote remote g).participants.length != g.participants.length,
    { reg with byId := reg.byId.mapVals (withoutRemote remote) })

def setClosed (gatheringId : Nat) (value : Bool) : Bool × GatheringRegistry :=
  match reg.byId.get? gatheringId with
  | none => (false, reg)
  | some g =>
    if g.closed = value then (false, reg)
    else (true, reg.update gatheringId fun g => { g with closed := value })

/-- The entry of an owner, dropped if it points at `gatheringId`. -/
def dropOwner (index : Dict Nat Nat) (ownerPid gatheringId : Nat) : Dict Nat Nat :=
  if index.get? ownerPid = some gatheringId then index.erase ownerPid else index

def remove (g : Gathering) (gatheringId : Nat) : GatheringRegistry :=
  { reg with
    byId := reg.byId.erase gatheringId
    ownerPidToId := dropOwner reg.ownerPidToId g.ownerPid gatheringId }

def destroy (gatheringId : Nat) : Bool × GatheringRegistry :=
  match reg.byId.get? gatheringId with
  | none => (false, reg)
  | some g => (true, reg.remove g gatheringId)

def destroyByOwnerRemote (remote : Remote) : Nat × GatheringRegistry :=
  let victims := reg.byId.values.filter fun g => decide (g.ownerRemote = remote)
  (victims.length, victims.foldl (fun reg g => reg.remove g g.id) reg)

def reset : GatheringRegistry :=
  { reg with byId := Dict.empty, ownerPidToId := Dict.empty }

end GatheringRegistry
end Ghostbusters
