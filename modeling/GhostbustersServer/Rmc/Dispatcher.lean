import GhostbustersServer.World

/-!
# Sending (`rmc/dispatcher.py`, the packet construction of `prudp/server.py`)

A packet that the codec refuses raises before it reaches the transport, after
its packet id has been used up.
-/

namespace Ghostbusters

open Py

namespace PRUDPServer

variable (env : Env)

/-- `_send`: encode, then hand to the transport. -/
def sendPacket (c : ConnId) (pkt : PRUDPPacket) : Srv Unit := do
  let conn ← Srv.conn c
  if env.packetEncodes pkt then Srv.log (.sendto conn.remote pkt) else Act.raise .encodeError

/-- `_base_packet`: the signature is the peer's. -/
def basePacket (conn : Connection) (type : PacketType) (flags : Flags) : PRUDPPacket where
  type := type
  flags := flags
  signature := conn.clientConnSig

def sendSynAck (c : ConnId) : Srv Unit := do
  let conn ← Srv.conn c
  sendPacket env c { basePacket conn .syn { ack := true } with
    signature := [0, 0, 0, 0], connectionSignature := conn.serverConnSig }

def sendConnectAck (c : ConnId) (clientPid : Nat) (ackPayload : Bytes) : Srv Unit := do
  let conn ← Srv.conn c
  let p := { basePacket conn .connect { ack := true } with
    sessionId := conn.serverSessionId, packetId := clientPid, connectionSignature := [0, 0, 0, 0] }
  sendPacket env c (if ackPayload = [] then p
    else { p with flags := { ack := true, hasSize := true }
                  payload := Payload.wrap env ackPayload false })

/-- The packet of `_send_data_ack`, `_send_ping_ack` and `_send_disconnect_ack`. -/
def ackPacket (conn : Connection) (type : PacketType) (clientPid : Nat) : PRUDPPacket :=
  { basePacket conn type { ack := true } with
    sessionId := conn.serverSessionId, packetId := clientPid }

def sendAck (type : PacketType) (c : ConnId) (clientPid : Nat) : Srv Unit := do
  let conn ← Srv.conn c
  sendPacket env c (ackPacket conn type clientPid)

def sendDataAck (c : ConnId) (clientPid : Nat) : Srv Unit := sendAck env .data c clientPid

def sendPingAck (c : ConnId) (clientPid : Nat) : Srv Unit := sendAck env .ping c clientPid

def sendDisconnectAck (c : ConnId) (clientPid : Nat) : Srv Unit :=
  sendAck env .disconnect c clientPid

/-- `send_reliable_data`: the packet id is counted up before the packet is encoded. -/
def sendReliableData (c : ConnId) (body : Bytes) (compress : Bool) : Srv Unit := do
  let conn ← Srv.conn c
  Srv.setConn c fun conn => { conn with outgoingReliableSeq := conn.outgoingReliableSeq + 1 }
  sendPacket env c
    { basePacket conn .data { reliable := true, needAck := true, hasSize := true } with
      sessionId := conn.serverSessionId
      packetId := conn.outgoingReliableSeq
      payload := Payload.wrap env body compress }

end PRUDPServer

namespace RMCDispatcher

variable (env : Env)

/-- The message is encoded and sent as reliable DATA, compressed on connections
of the secure port. -/
def sendMessage (c : ConnId) (msg : Message) : Srv Unit := do
  let body ← Act.ofExcept (Rmc.encode msg)
  let conn ← Srv.conn c
  PRUDPServer.sendReliableData env c body (conn.localPort == .secure)

/-- `_send` of the dispatcher of a port. -/
def send (port : Port) (c : ConnId) (msg : Message) : Srv Unit := do
  match ← (sendMessage env c msg).attempt with
  | .ok _ => Srv.log (.sent port c msg)
  | .error e => do
    Srv.log (.sendFailed port c msg)
    Act.raise e

/-- `send_request`: a push, under the next call id of the dispatcher. -/
def sendRequest (port : Port) (c : ConnId) (proto method : Nat) (params : Bytes) : Srv Unit := do
  let w ← Act.get
  let callId := w.serverCallId port
  Act.modify fun w => { w with serverCallId := Function.update w.serverCallId port (callId + 1) }
  send env port c (.request { proto, method, callId, params })

end RMCDispatcher
end Ghostbusters
