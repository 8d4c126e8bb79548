import GhostbustersServer.Py.Bytes
import GhostbustersServer.Py.Dict
import GhostbustersServer.Py.Runs

/-!
# The DNS forwarder (`dns_shim.py`, `_UpstreamProtocol`)

A lookup that the shim does not answer itself goes to one resolver, as the client sent
it.  The futures of the calls that wait are kept by transaction id, 16 bits that the
client chose.

The event loop runs one callback after the other.  A step is one of them: a call of
`query` up to its `await`; a datagram of the resolver, with the return of the call that it
completes; a `wait_for` that expires, with the clean-up behind it.
-/

namespace Ghostbusters

open Py

namespace Dns

abbrev CallId : Type := Nat

/-- The future of a call of `query`, and what the call returns. -/
inductive Outcome where
  | waiting
  /-- the reply that goes back to the client -/
  | reply (data : Bytes)
  /-- None: the client gets a SERVFAIL -/
  | servfail
  deriving DecidableEq, Repr

structure Call where
  raw : Bytes
  outcome : Outcome
  deriving DecidableEq, Repr

structure UpstreamProtocol where
  /-- `_pending` -/
  pending : Dict Nat CallId
  calls : CallId → Call
  nextCall : CallId

/-- `int.from_bytes(data[:2], "big")`. -/
def txid (data : Bytes) : Nat := ofBE (data.take 2)

namespace UpstreamProtocol

def start : UpstreamProtocol := ⟨Dict.empty, fun _ => ⟨[], .servfail⟩, 0⟩

def outcome (u : UpstreamProtocol) (f : CallId) : Outcome := (u.calls f).outcome

def raw (u : UpstreamProtocol) (f : CallId) : Bytes := (u.calls f).raw

/-- `fut.set_result`, or the cancellation by `wait_for`. -/
def finish (u : UpstreamProtocol) (f : CallId) (o : Outcome) : UpstreamProtocol :=
  { u with calls := Function.update u.calls f ⟨u.raw f, o⟩ }

def datagramReceived (data : Bytes) (u : UpstreamProtocol) : UpstreamProtocol :=
  if data.length < 2 then u
  else
    match u.pending.get? (txid data) with
    | none => u
    | some f =>
      let u := { u with pending := u.pending.erase (txid data) }
      if u.outcome f = .waiting then u.finish f (.reply data) else u

/-- A message without an id is not forwarded. -/
def query (raw : Bytes) (u : UpstreamProtocol) : UpstreamProtocol :=
  if raw.length < 2 then
    { u with calls := Function.update u.calls u.nextCall ⟨raw, .servfail⟩
             nextCall := u.nextCall + 1 }
  else
    { pending := u.pending.set (txid raw) u.nextCall
      calls := Function.update u.calls u.nextCall ⟨raw, .waiting⟩
      nextCall := u.nextCall + 1 }

/-- The `wait_for` of a call expires, unless its future is done. -/
def expire (f : CallId) (u : UpstreamProtocol) : UpstreamProtocol :=
  if u.outcome f = .waiting then
    { u.finish f .servfail with pending := u.pending.erase (txid (u.raw f)) }
  else u

end UpstreamProtocol

inductive Event where
  /-- a client's lookup is forwarded -/
  | query (raw : Bytes)
  /-- the resolver's reply to the query of a call arrives; the code sees its bytes only -/
  | reply (f : CallId) (data : Bytes)
  | timeout (f : CallId)
  deriving DecidableEq, Repr

def step : Event → UpstreamProtocol → UpstreamProtocol
  | .query raw, u => u.query raw
  | .reply _ data, u => u.datagramReceived data
  | .timeout f, u => u.expire f

/-! ## What a step does to the calls -/

namespace UpstreamProtocol

variable {u : UpstreamProtocol}

theorem outcome_finish (f g : CallId) (o : Outcome) :
    (u.finish f o).outcome g = if g = f then o else u.outcome g := by
  unfold finish outcome
  by_cases h : g = f
  · subst h
    simp
  · simp [h]

@[simp] theorem raw_finish (f g : CallId) (o : Outcome) : (u.finish f o).raw g = u.raw g := by
  unfold finish raw
  by_cases h : g = f
  · subst h
    simp
  · simp [h]

theorem outcome_query (data : Bytes) (g : CallId) : (u.query data).outcome g =
    if g = u.nextCall then if data.length < 2 then .servfail else .waiting else u.outcome g := by
  unfold query outcome
  by_cases h : g = u.nextCall
  · subst h
    by_cases hl : data.length < 2 <;> simp [hl]
  · by_cases hl : data.length < 2 <;> simp [hl, h]

theorem raw_query (data : Bytes) (g : CallId) :
    (u.query data).raw g = if g = u.nextCall then data else u.raw g := by
  unfold query raw
  by_cases h : g = u.nextCall
  · subst h
    by_cases hl : data.length < 2 <;> simp [hl]
  · by_cases hl : data.length < 2 <;> simp [hl, h]

theorem nextCall_query (data : Bytes) : (u.query data).nextCall = u.nextCall + 1 := by
  unfold query
  split <;> rfl

theorem pending_query (data : Bytes) (t : Nat) : (u.query data).pending.get? t =
    if 2 ≤ data.length ∧ t = txid data then some u.nextCall else u.pending.get? t := by
  unfold query
  by_cases hl : data.length < 2
  · rw [if_pos hl, if_neg fun h => absurd hl (Nat.not_lt.mpr h.1)]
  · rw [if_neg hl]
    simp only [Dict.get?_set, Nat.not_lt.mp hl, true_and]

/-- A datagram whose id nobody waits under is dropped. -/
theorem datagramReceived_none {data : Bytes} (h : u.pending.get? (txid data) = none) :
    u.datagramReceived data = u := by
  unfold datagramReceived
  rw [h]
  split <;> rfl

theorem datagramReceived_some {data : Bytes} {f : CallId} (hl : 2 ≤ data.length)
    (h : u.pending.get? (txid data) = some f) (hf : u.outcome f = .waiting) :
    u.datagramReceived data =
      { u.finish f (.reply data) with pending := u.pending.erase (txid data) } := by
  unfold datagramReceived
  rw [if_neg (Nat.not_lt.mpr hl), h]
  exact if_pos hf

theorem expire_waiting {f : CallId} (hf : u.outcome f = .waiting) :
    u.expire f = { u.finish f .servfail with pending := u.pending.erase (txid (u.raw f)) } :=
  if_pos hf

theorem expire_done {f : CallId} (hf : u.outcome f ≠ .waiting) : u.expire f = u := if_neg hf

end UpstreamProtocol
end Dns
end Ghostbusters
