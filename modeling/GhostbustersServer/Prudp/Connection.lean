import GhostbustersServer.Config

/-!
# PRUDP packets and per-client connection state (`prudp/codec.py`, `prudp/connection.py`)

The bytes of a packet are the business of the packet codec; the server sees the
decoded fields.  A `Connection` object has an identity, `ConnId`: lobbies keep
references to it that outlive its place in a server's connection table.
-/

namespace Ghostbusters

open Py

inductive PacketType where
  | syn
  | connect
  | data
  | disconnect
  | ping
  | other (code : Nat)
  deriving DecidableEq, Repr

structure Flags where
  ack : Bool := false
  reliable : Bool := false
  needAck : Bool := false
  hasSize : Bool := false
  deriving DecidableEq, Repr

structure PRUDPPacket where
  type : PacketType
  flags : Flags := {}
  sessionId : Nat := 0
  packetId : Nat := 0
  fragmentId : Nat := 0
  signature : Bytes := []
  connectionSignature : Bytes := []
  payload : Bytes := []
  deriving DecidableEq, Repr

/-- `(ip, port)` of the client. -/
structure Remote where
  ip : Str
  port : Nat
  deriving DecidableEq, Repr

abbrev ConnId := Nat

inductive ConnState where
  | initial
  | synRecv
  | established
  | closed
  deriving DecidableEq, Repr

structure Connection where
  remote : Remote
  localPort : Port
  state : ConnState := .initial
  clientSessionId : Nat := 0
  serverSessionId : Nat := 0
  clientConnSig : Bytes := [0, 0, 0, 0]
  serverConnSig : Bytes := [0, 0, 0, 0]
  /-- next packet id of our own reliable DATA -/
  outgoingReliableSeq : Nat := 1
  /-- highest client reliable packet id seen -/
  lastClientPid : Nat := 0
  sessionKey : Bytes := []
  /-- the Quazal PID this connection authenticated as, 0 before -/
  userPid : Nat := 0
  /-- server-assigned connection id returned to the client, 0 before -/
  rvConnectionId : Nat := 0
  stationUrls : List Str := []
  /-- plaintexts of the fragments of the unfinished body -/
  fragmentBuffer : Bytes := []
  lastActivity : Nat := 0
  deriving DecidableEq, Repr

instance : Inhabited Connection := ⟨{ remote := ⟨[], 0⟩, localPort := .auth }⟩

/-- `n` bytes of a random source, from its byte `off` on. -/
def urandom (rand : Nat → UInt8) (off n : Nat) : Bytes := (List.range n).map fun i => rand (off + i)

@[simp] theorem urandom_length (rand : Nat → UInt8) (off n : Nat) :
    (urandom rand off n).length = n := by
  simp [urandom]

/-- `Connection.new`: four random bytes of signature, one of session id. -/
def Connection.new (remote : Remote) (localPort : Port) (rand : Nat → UInt8) (now : Nat) :
    Connection where
  remote := remote
  localPort := localPort
  serverConnSig := urandom rand 0 4
  serverSessionId := (rand 4).toNat ||| 1
  lastActivity := now

end Ghostbusters
