import GhostbustersServer.Py.Bytes

/-!
# RMC framing (`rmc/codec.py`)

    Request        [u32 size][u8 proto|0x80][u32 call_id][u32 method][params]
    Response (OK)  [u32 size][u8 proto][u8 1][u32 call_id][u32 method|0x8000][ret]
    Response (ERR) [u32 size][u8 proto][u8 0][u32 err_code][u32 call_id]

`size` is the length of everything after itself.
-/

namespace Ghostbusters

open Py

def requestBit : Nat := 0x80

def responseMethodBit : Nat := 0x8000

structure Request where
  proto : Nat
  method : Nat
  callId : Nat
  params : Bytes
  deriving DecidableEq, Repr

structure ResponseOK where
  proto : Nat
  method : Nat
  callId : Nat
  ret : Bytes
  deriving DecidableEq, Repr

structure ResponseError where
  proto : Nat
  callId : Nat
  errorCode : Nat
  deriving DecidableEq, Repr

inductive Message where
  | request (r : Request)
  | ok (r : ResponseOK)
  | error (r : ResponseError)
  deriving DecidableEq, Repr

namespace Rmc

def decode (body : Bytes) : Except Exc Message := do
  if body.length < 5 then throw .valueError
  let size ← unpackFrom 4 body 0
  if size + 4 ≠ body.length then throw .valueError
  let protoByte := (body.getD 4 0).toNat
  let proto := protoByte &&& 0x7F
  if protoByte &&& requestBit ≠ 0 then
    if body.length < 13 then throw .valueError
    let callId ← unpackFrom 4 body 5
    let method ← unpackFrom 4 body 9
    return .request { proto, method, callId, params := body.drop 13 }
  else
    if body.length < 6 then throw .valueError
    if body.getD 5 0 ≠ 0 then
      if body.length < 14 then throw .valueError
      let callId ← unpackFrom 4 body 6
      let rawMethod ← unpackFrom 4 body 10
      -- `& ~RESPONSE_METHOD_BIT` of a 32-bit value
      let method := rawMethod &&& (0xFFFFFFFF ^^^ responseMethodBit)
      return .ok { proto, method, callId, ret := body.drop 14 }
    else
      if body.length < 14 then throw .valueError
      let errorCode ← unpackFrom 4 body 6
      let callId ← unpackFrom 4 body 10
      return .error { proto, callId, errorCode }

/-- `bytes([v])`. -/
def byte (v : Nat) : Except Exc Bytes :=
  if v < 256 then .ok [UInt8.ofNat v] else .error .valueError

/-- The bytes after the size word. -/
def encodeBody : Message → Except Exc Bytes
  | .request r => do
    let proto ← byte (r.proto ||| requestBit)
    let callId ← pack 4 r.callId
    let method ← pack 4 r.method
    return proto ++ callId ++ method ++ r.params
  | .ok r => do
    let proto ← byte (r.proto &&& 0x7F)
    let callId ← pack 4 r.callId
    let method ← pack 4 (r.method ||| responseMethodBit)
    return proto ++ [1] ++ callId ++ method ++ r.ret
  | .error r => do
    let proto ← byte (r.proto &&& 0x7F)
    let errorCode ← pack 4 r.errorCode
    let callId ← pack 4 r.callId
    return proto ++ [0] ++ errorCode ++ callId

def encode (msg : Message) : Except Exc Bytes := do
  let body ← encodeBody msg
  let size ← pack 4 body.length
  return size ++ body

end Rmc
end Ghostbusters
