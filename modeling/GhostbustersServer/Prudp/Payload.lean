import GhostbustersServer.Crypto.Kerberos
import Mathlib.Data.Finset.Basic

/-!
# Obfuscation and compression of payloads (`prudp/payload.py`), and the environment

`Env` is everything the server takes from outside its own sources: the cipher and
compression libraries, the packet codec's verdict on an outgoing packet, the
configured keys, and the random bytes and database failures of one run.
-/

namespace Ghostbusters

open Py

structure Env where
  crypto : Crypto
  /-- `config.RC4_KEY` -/
  rc4Key : Bytes
  /-- `config.PUBLIC_HOST` -/
  publicHost : Str
  /-- `zlib.compress(data)` -/
  zlibCompress : Bytes → Bytes
  /-- `zlib.decompress(data)`, `none` when it raises -/
  zlibDecompress : Bytes → Option Bytes
  /-- whether `codec.encode(packet)` returns -/
  packetEncodes : PRUDPPacket → Bool
  /-- the bytes `os.urandom` hands out, in order -/
  random : Nat → UInt8
  /-- whether the `n`-th reading statement on the database raises -/
  readFails : Nat → Bool
  /-- whether the `n`-th writing statement (or BEGIN or COMMIT) raises -/
  writeFails : Nat → Bool
  /-- whether `asyncio.get_running_loop()` finds a loop -/
  loopRunning : Bool
  /-- `next(iter(s))` of a non-empty set of ints -/
  firstOf : Finset Nat → Nat

namespace Payload

variable (env : Env)

def deobfuscate (payload : Bytes) : Bytes := env.crypto.arc4Decrypt env.rc4Key payload

def obfuscate (payload : Bytes) : Bytes := env.crypto.arc4Encrypt env.rc4Key payload

/-- `none` when `zlib.decompress` raises. -/
def unpackCompressed : Bytes → Option Bytes
  | [] => some []
  | ratio :: data => if ratio = 0 then some data else env.zlibDecompress data

def packCompressed (body : Bytes) (compress : Bool) : Bytes :=
  if !compress then 0 :: body
  else
    let z := env.zlibCompress body
    let ratio := max 1 (min 255 (body.length / max 1 z.length))
    UInt8.ofNat ratio :: z

/-- The plaintext an incoming payload stands for. -/
def open? (payload : Bytes) : Option Bytes := unpackCompressed env (deobfuscate env payload)

/-- The payload of an outgoing body. -/
def wrap (body : Bytes) (compress : Bool) : Bytes := obfuscate env (packCompressed env body compress)

end Payload
end Ghostbusters
