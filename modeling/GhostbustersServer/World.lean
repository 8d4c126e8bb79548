import GhostbustersServer.Db.Career
import GhostbustersServer.Rmc.Codec
import GhostbustersServer.State.Gatherings

/-!
# The state of the running server

Both listeners, the lobbies with the timers the event loop holds for them, the
id allocators and the database.  `Connection` objects live in `heap`; the
connection tables and the lobbies hold their ids.

`trace` lists, oldest first, what the server has done that leaves it or that a
reader of the log sees; nothing in the server reads it.
-/

namespace Ghostbusters

open Py

/-- Why a stats batch is fired. -/
inductive Reason where
  | allReported
  | timeout
  deriving DecidableEq, Repr

inductive TraceEntry where
  /-- an encoded packet is handed to the transport -/
  | sendto (remote : Remote) (pkt : PRUDPPacket)
  /-- an RMC message went out to a connection -/
  | sent (port : Port) (conn : ConnId) (msg : Message)
  /-- sending it raised -/
  | sendFailed (port : Port) (conn : ConnId) (msg : Message)
  /-- the connect-ack handler returned for a connection -/
  | connectAck (conn : ConnId)
  /-- `on_payload(conn, body)` is called -/
  | onPayload (port : Port) (conn : ConnId) (body : Bytes)
  /-- the close hooks of a port run for a remote -/
  | closeHooks (port : Port) (remote : Remote)
  /-- a stats batch is fired, with the participants the lobby has at that moment -/
  | statsBatch (gatheringId : Nat) (reason : Reason) (roster : List Nat)
  /-- `_persist_match` returned True -/
  | persisted (pid : Nat) (vec0 : List F32) (rows : List (Nat × LeaderboardRow))
  deriving DecidableEq

/-- A scheduled `_on_m12_timeout(dispatcher, gathering_id)`; the dispatcher is
the one of `port`. -/
structure Timer where
  id : TimerId
  port : Port
  gatheringId : Nat
  deriving DecidableEq, Repr

/-- The lobbies, and the timers that are armed and neither cancelled nor expired. -/
structure Lobby where
  registry : GatheringRegistry
  timers : List Timer
  nextTimer : TimerId

namespace Lobby

def empty : Lobby := ⟨GatheringRegistry.empty, [], 0⟩

def get (l : Lobby) (gatheringId : Nat) : Option Gathering := l.registry.get gatheringId

/-- The gathering stored under an id, mutated in place. -/
def update (l : Lobby) (gatheringId : Nat) (f : Gathering → Gathering) : Lobby :=
  { l with registry := l.registry.update gatheringId f }

end Lobby

structure World where
  heap : ConnId → Connection
  nextConn : ConnId
  /-- `PRUDPServer.connections` of each port -/
  connections : Port → Dict Remote ConnId
  /-- `RMCDispatcher._server_call_id` of each port -/
  serverCallId : Port → Nat
  lobby : Lobby
  /-- `_connection_id_seq` -/
  nextConnectionId : Nat
  db : Db
  /-- `_STATS_TXN_ID` -/
  statsTxnId : Dict Nat Nat
  /-- `time.monotonic()` -/
  now : Nat
  /-- random bytes drawn so far -/
  randomPos : Nat
  trace : List TraceEntry

/-- Code of the server. -/
abbrev Srv (α : Type) : Type := Act World Exc α

namespace Srv

def log (e : TraceEntry) : Srv Unit := Act.modify fun w => { w with trace := w.trace ++ [e] }

/-- The current fields of a connection object. -/
def conn (c : ConnId) : Srv Connection := do return (← Act.get).heap c

/-- A connection object, mutated in place. -/
def setConn (c : ConnId) (f : Connection → Connection) : Srv Unit :=
  Act.modify fun w => { w with heap := Function.update w.heap c (f (w.heap c)) }

/-- Code over the database. -/
def useDb {α : Type} (m : Act Db Exc α) : Srv α := m.zoom World.db fun d w => { w with db := d }

/-- Code over the lobbies. -/
def modifyLobby (f : Lobby → Lobby) : Srv Unit :=
  Act.modify fun w => { w with lobby := f w.lobby }

def modifyRegistry (f : GatheringRegistry → GatheringRegistry) : Srv Unit :=
  modifyLobby fun l => { l with registry := f l.registry }

/-- The gathering stored under an id, mutated in place. -/
def setGathering (gatheringId : Nat) (f : Gathering → Gathering) : Srv Unit :=
  modifyLobby fun l => l.update gatheringId f

/-- The next `n` bytes of `os.urandom`. -/
def random (env : Env) (n : Nat) : Srv (Nat → UInt8) := do
  let w ← Act.get
  Act.modify fun w => { w with randomPos := w.randomPos + n }
  return fun i => env.random (w.randomPos + i)

end Srv
end Ghostbusters
