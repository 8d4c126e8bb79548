import GhostbustersServer.Server

/-!
# The datagrams (`datagram_received` of `prudp/server.py`)

A datagram holds any number of packets, and one that the codec cannot read none.  An
exception that leaves the handling of a packet leaves `datagram_received`, too: the packets
behind it are not looked at.
-/

namespace Ghostbusters

open Py

/-- What the event loop calls the server with. -/
inductive Input where
  /-- a datagram from `remote` reaches a port -/
  | datagram (port : Port) (remote : Remote) (raw : Bytes)
  /-- `reap_idle(timeout)` of a port -/
  | reap (port : Port) (timeout : Nat)
  /-- a timer expires -/
  | timer (id : TimerId)
  | elapse (dt : Nat)

variable (env : Env)

-- `codec.decode(raw)`, `none` when it raises
variable (decode : Bytes → Option (List PRUDPPacket))

def PRUDPServer.datagramReceived (port : Port) (remote : Remote) (raw : Bytes) : Srv Unit :=
  match decode raw with
  | none => pure ()
  | some packets => Act.forEach packets fun pkt => handle env port pkt remote

def handleInput : Input → Srv Unit
  | .datagram port remote raw => PRUDPServer.datagramReceived env decode port remote raw
  | .reap port timeout => PRUDPServer.reapIdle port timeout
  | .timer id => expire env id
  | .elapse dt => Act.modify fun w => { w with now := w.now + dt }

def receive (i : Input) (w : World) : World := (handleInput env decode i).after w

end Ghostbusters
