import GhostbustersServer.Dns.Upstream
import GhostbustersServer.Prudp.Connection
import Mathlib.Data.List.DropRight
import Mathlib.Data.List.Infix

/-!
# The DNS shim (`dns_shim.py`, `_ShimProtocol`)

Every datagram of a client starts a task of `_handle`.  It answers the lookup of a
hijacked host itself; any other waits in `await self.upstream.query(data)`, and sends what
the call returns.

A step is one callback of the event loop: a task up to its end or its `await`, or a
callback of the forwarder with the tasks that go on behind it.
-/

namespace Ghostbusters

open Py

namespace Dns

/-- What the shim uses of `dnslib`: records of type `R`, and their packed replies. -/
structure Dnslib (R : Type) where
  /-- `DNSRecord.parse(data)`, `none` when it raises -/
  parse : Bytes → Option R
  /-- `str(q.qname)` and `q.qtype` of each question -/
  questions : R → List (Str × Nat)
  /-- the packed reply with one A record: name, address, time to live; `none` when it raises -/
  reply : R → Str → Str → Nat → Option Bytes
  /-- the packed reply with the code SERVFAIL -/
  servfail : R → Option Bytes

/-- The settings of `config.py`, and `str.lower`. -/
structure Settings where
  publicHost : Str
  hijackAll : Bool
  hijackDomains : List Str
  lower : Str → Str

/-- `QTYPE.A`. -/
def qtypeA : Nat := 1

/-- `HIJACK_TTL`. -/
def hijackTtl : Nat := 60

/-- `_should_hijack`. -/
def shouldHijack (cfg : Settings) (qname : Str) : Bool :=
  if cfg.hijackAll then true
  else
    let host := cfg.lower (qname.rdropWhile (· == '.'))
    cfg.hijackDomains.any fun dom => decide (cfg.lower dom <:+: host)

/-- A task of `_handle` that waits for a call of `query`, and its locals. -/
structure Task (R : Type) where
  call : CallId
  data : Bytes
  addr : Remote
  req : R
  deriving DecidableEq, Repr

structure ShimProtocol (R : Type) where
  upstream : UpstreamProtocol
  tasks : List (Task R)
  /-- what has been sent to clients -/
  sent : List (Remote × Bytes)

inductive ShimEvent where
  /-- a client's datagram arrives -/
  | datagram (data : Bytes) (addr : Remote)
  /-- the resolver's reply to the query of a call arrives -/
  | reply (f : CallId) (data : Bytes)
  | timeout (f : CallId)
  deriving DecidableEq, Repr

/-- How `_handle` goes on with a datagram. -/
inductive Disposition (R : Type) where
  | ignored
  /-- the answer that is sent, unless making it raises -/
  | hijacked (answer : Option Bytes)
  | forwarded (req : R)

variable {R : Type} (lib : Dnslib R) (cfg : Settings)

/-- `_handle`, up to the query. -/
def disposition (data : Bytes) : Disposition R :=
  match lib.parse data with
  | none => .ignored
  | some req =>
    match lib.questions req with
    | [] => .ignored
    | (qname, qtype) :: _ =>
      if qtype = qtypeA ∧ shouldHijack cfg qname then
        .hijacked (lib.reply req qname cfg.publicHost hijackTtl)
      else .forwarded req

/-- What a task sends once its call has returned. -/
def answerOf (u : UpstreamProtocol) (t : Task R) : Option (Remote × Bytes) :=
  match u.outcome t.call with
  | .waiting => none
  | .reply data => some (t.addr, data)
  | .servfail => (lib.servfail t.req).map fun data => (t.addr, data)

namespace ShimProtocol

def start : ShimProtocol R := ⟨.start, [], []⟩

/-- The tasks whose call has returned go on. -/
def resume (s : ShimProtocol R) : ShimProtocol R :=
  { s with tasks := s.tasks.filter fun t => s.upstream.outcome t.call = .waiting
           sent := s.sent ++ s.tasks.filterMap (answerOf lib s.upstream) }

def datagramReceived (data : Bytes) (addr : Remote) (s : ShimProtocol R) : ShimProtocol R :=
  match disposition lib cfg data with
  | .ignored => s
  | .hijacked answer => { s with sent := s.sent ++ answer.toList.map fun a => (addr, a) }
  | .forwarded req =>
    resume lib { s with upstream := s.upstream.query data
                        tasks := s.tasks ++ [⟨s.upstream.nextCall, data, addr, req⟩] }

end ShimProtocol

def shimStep : ShimEvent → ShimProtocol R → ShimProtocol R
  | .datagram data addr, s => s.datagramReceived lib cfg data addr
  | .reply _ data, s =>
    ({ s with upstream := s.upstream.datagramReceived data } : ShimProtocol R).resume lib
  | .timeout f, s => ({ s with upstream := s.upstream.expire f } : ShimProtocol R).resume lib

end Dns
end Ghostbusters
