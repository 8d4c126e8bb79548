import GhostbustersServer.Crypto.TicketFlow
import GhostbustersServer.Effects.Refinement
import Mathlib.Data.Finset.Max

/-!
# A server to try things on

An environment with its own keys in which nothing fails, and states in which given
connections are established.
-/

namespace Ghostbusters

open Py

section
variable (env : Env)

theorem Payload.open?_obfuscate (h : env.crypto.Lawful) (body : Bytes) :
    Payload.open? env (Payload.obfuscate env (0 :: body)) = some body := by
  unfold Payload.open? Payload.deobfuscate Payload.obfuscate
  rw [h.decrypt_encrypt]
  rfl

theorem Payload.obfuscate_ne_nil (h : env.crypto.Lawful) (b : UInt8) (body : Bytes) :
    Payload.obfuscate env (b :: body) ≠ [] := by
  intro hnil
  have := h.encrypt_length env.rc4Key (b :: body)
  unfold Payload.obfuscate at hnil
  rw [hnil] at this
  simp at this

end

namespace Sample

def env : Env where
  crypto := Crypto.standard [0x67, 0x62]
  rc4Key := [0x43, 0x44]
  publicHost := "127.0.0.1".toList
  zlibCompress := id
  zlibDecompress := fun _ => none
  packetEncodes := fun pkt => decide (pkt.packetId < 2 ^ 16 ∧ pkt.payload.length < 2 ^ 16)
  random := UInt8.ofNat
  readFails := fun _ => false
  writeFails := fun _ => false
  loopRunning := true
  firstOf := fun s => if h : s.Nonempty then s.min' h else 0

theorem env_lawful : env.crypto.Lawful := Crypto.standard_lawful _

theorem env_acks (conn : Connection) (id : Nat) (h : id < 2 ^ 16) :
    env.packetEncodes (PRUDPServer.ackPacket conn .data id) = true :=
  decide_eq_true ⟨h, Nat.two_pow_pos 16⟩

/-- `10.0.0.n`, port 3074. -/
def remote (n : Nat) : Remote := ⟨"10.0.0.".toList ++ decimal n, 3074⟩

/-- An established connection of a player with a URL. -/
def connection (port : Port) (n pid : Nat) : Connection where
  remote := remote n
  localPort := port
  state := .established
  serverSessionId := 1
  serverConnSig := [0, 1, 2, 3]
  sessionKey := List.replicate 16 7
  userPid := pid
  rvConnectionId := n
  stationUrls := ["prudp:/address=10.0.0.".toList ++ decimal n]

/-- The table of a port after `n` connections. -/
def table (conns : List Connection) (port : Port) : Nat → Dict Remote ConnId
  | 0 => Dict.empty
  | n + 1 =>
    if (conns.getD n default).localPort = port then
      (table conns port n).set (conns.getD n default).remote n
    else table conns port n

/-- Nothing has happened yet but that these connections are there. -/
def world (conns : List Connection) : World :=
  { World.initial with
    heap := fun c => conns.getD c default
    nextConn := conns.length
    connections := fun port => table conns port conns.length }

theorem get?_table (conns : List Connection) (port : Port) (n : Nat) (remote : Remote) (c : ConnId)
    (h : (table conns port n).get? remote = some c) :
    c < n ∧ (conns.getD c default).localPort = port ∧ (conns.getD c default).remote = remote := by
  induction n with
  | zero => cases h
  | succ n ih =>
    unfold table at h
    split at h
    · next hp =>
      rw [Dict.get?_set] at h
      split at h
      · next hr =>
        cases h
        exact ⟨Nat.lt_succ_self _, hp, hr.symm⟩
      · exact ⟨Nat.lt_succ_of_lt (ih h).1, (ih h).2⟩
    · exact ⟨Nat.lt_succ_of_lt (ih h).1, (ih h).2⟩

theorem world_sound (conns : List Connection) : Sound (world conns) where
  lt := fun port remote c h => (get?_table conns port conns.length remote c h).1
  home := fun port remote c h => (get?_table conns port conns.length remote c h).2
  indexed := GatheringRegistry.WellIndexed.empty

/-- The body of a request. -/
def body (proto method : Nat) (params : Bytes) : Bytes :=
  ((Rmc.encode (.request { proto, method, callId := 1, params })).toOption).getD []

/-- A request in one packet. -/
def data (packetId proto method : Nat) (params : Bytes) : PRUDPPacket where
  type := .data
  flags := { reliable := true, needAck := true, hasSize := true }
  packetId := packetId
  payload := Payload.obfuscate env (0 :: body proto method params)

def syn : PRUDPPacket where
  type := .syn

/-- A CONNECT that answers the first SYN the server sees: its signature is the first
four bytes of the random source. -/
def connect (payload : Bytes) : PRUDPPacket where
  type := .connect
  signature := [0, 1, 2, 3]
  payload := payload

/-- The payload of a client that holds a ticket for PID 10000. -/
def ticketPayload : Bytes :=
  Payload.obfuscate env (0 :: Kerberos.connectPayload env.crypto (List.replicate 16 7)
    (Kerberos.sealedTicket env.crypto authPid 10000 (List.replicate 16 7) []) 10000 7 8)

theorem proven_ticketPayload :
    PRUDPServer.proven env .secure (connect ticketPayload) = some (List.replicate 16 7, 10000, 8) := by
  have hlen : (Kerberos.sealedTicket env.crypto authPid 10000 (List.replicate 16 7) []).length = 36 :=
    Kerberos.sealedTicket_length env_lawful _ _ _ _
  have hopen : Payload.open? env (connect ticketPayload).payload = _ :=
    Payload.open?_obfuscate env env_lawful _
  have hticket := @Kerberos.extractTicketPayload_sealedTicket env.crypto env_lawful authPid 10000
    (List.replicate 16 7) [] rfl (by decide)
  unfold PRUDPServer.proven
  rw [if_pos ⟨rfl, Payload.obfuscate_ne_nil env env_lawful _ _⟩, hopen]
  simp only
  rw [Kerberos.verifyConnect_connectPayload env_lawful (by omega) (by omega) (by decide)
    (by decide) (by decide) hticket]
  rfl

end Sample
end Ghostbusters
