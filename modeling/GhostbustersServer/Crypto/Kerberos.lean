import GhostbustersServer.Prudp.Connection

/-!
# Quazal Kerberos (`crypto/kerberos.py`)

    kerb_cipher = enc(K_client, session_key(16) | server_pid | ticket_len | ticket)
    ticket      = enc(K_target, source_pid | session_key(16) | padding)
    reqd        = enc(session_key, pid | cid | check)
    enc(K, p)   = c | HMAC_MD5(K, c)   where c = RC4(K, p)

The ciphers and digests are libraries: `Crypto` holds them as functions.
-/

namespace Ghostbusters

open Py

structure Crypto where
  /-- `ARC4.new(key).encrypt(data)` -/
  arc4Encrypt : Bytes → Bytes → Bytes
  /-- `ARC4.new(key).decrypt(data)` -/
  arc4Decrypt : Bytes → Bytes → Bytes
  /-- `hashlib.md5(data).digest()` -/
  md5 : Bytes → Bytes
  /-- `hmac.new(key, data, hashlib.md5).digest()` -/
  hmacMd5 : Bytes → Bytes → Bytes
  /-- `config.KDF_PASSWORD` -/
  kdfPassword : Bytes

namespace Kerberos

variable (cr : Crypto)

def kdfBase : Nat := 65000

def kdfMax : Nat := 1024

def sessionKeySize : Nat := 16

def hmacTagSize : Nat := 16

def loginCipherSize : Nat := 88

def requestTicketCipherSize : Nat := 98

/-- 16-byte master key for a given PID. -/
def deriveUserKey (pid : Nat) : Bytes := cr.md5^[kdfBase + pid % kdfMax] cr.kdfPassword

def encryptThenMac (key plaintext : Bytes) : Bytes :=
  let ct := cr.arc4Encrypt key plaintext
  ct ++ cr.hmacMd5 key ct

def decryptAndVerify (key ctWithTag : Bytes) : Except Exc Bytes :=
  if ctWithTag.length < hmacTagSize then .error .valueError
  else
    let ct := ctWithTag.take (ctWithTag.length - hmacTagSize)
    let tag := ctWithTag.drop (ctWithTag.length - hmacTagSize)
    if tag ≠ cr.hmacMd5 key ct then .error .valueError
    else .ok (cr.arc4Decrypt key ct)

/-! ## The issuing side -/

/-- `padding` draws the random bytes behind the header. -/
def buildInnerTicket (targetPid sourcePid : Nat) (sessionKey : Bytes) (totalSize : Nat)
    (padding : Nat → Bytes) : Except Exc Bytes := do
  if sessionKey.length ≠ sessionKeySize then throw .assertionError
  if totalSize < hmacTagSize + 4 + sessionKeySize then throw .valueError
  let padSize := totalSize - hmacTagSize - 4 - sessionKeySize
  let source ← toBytes 4 sourcePid
  return encryptThenMac cr (deriveUserKey cr targetPid) (source ++ sessionKey ++ padding padSize)

/-- The session key is drawn from `rand` first, the ticket's padding after it. -/
def buildKerbCipher (clientPid targetPid totalSize : Nat) (rand : Nat → UInt8) :
    Except Exc (Bytes × Bytes) := do
  let sessionKey := urandom rand 0 sessionKeySize
  let ticketLen := totalSize - hmacTagSize - sessionKeySize - 4 - 4
  let ticket ← buildInnerTicket cr targetPid clientPid sessionKey ticketLen
    (urandom rand sessionKeySize)
  let target ← toBytes 4 targetPid
  let len ← toBytes 4 ticketLen
  let plain := sessionKey ++ target ++ len ++ ticket
  return (encryptThenMac cr (deriveUserKey cr clientPid) plain, sessionKey)

def buildLoginCipher (clientPid securePid : Nat) (rand : Nat → UInt8) :
    Except Exc (Bytes × Bytes) :=
  buildKerbCipher cr clientPid securePid loginCipherSize rand

def buildRequestTicketCipher (clientPid targetPid : Nat) (rand : Nat → UInt8) :
    Except Exc (Bytes × Bytes) :=
  buildKerbCipher cr clientPid targetPid requestTicketCipherSize rand

/-! ## The accepting side -/

/-- `(session_key, source_pid)` of a forwarded ticket. -/
def extractTicketPayload (ticket : Bytes) (securePid : Nat) : Except Exc (Bytes × Nat) := do
  let plain ← decryptAndVerify cr (deriveUserKey cr securePid) ticket
  if plain.length < 4 + sessionKeySize then throw .valueError
  return (slice plain 4 (4 + sessionKeySize), ofLE (plain.take 4))

/-- `(pid, cid, check_value)`. -/
def parseReqd (reqd sessionKey : Bytes) : Except Exc (Nat × Nat × Nat) := do
  let plain ← decryptAndVerify cr sessionKey reqd
  if plain.length < 12 then throw .valueError
  return (ofLE (slice plain 0 4), ofLE (slice plain 4 8), ofLE (slice plain 8 12))

/-- `[u32 4][u32 check + 1]`; the session key is not used. -/
def buildConnectAckToken (checkValue : Nat) : Bytes :=
  leBytes 4 4 ++ leBytes 4 ((checkValue + 1) % 2 ^ 32)

/-- What a CONNECT payload proves: the fields of a ticket and the check value of
the `reqd` behind it (`handle_connect_ack` of `protocols/secure_connection.py`, up
to its assignments). -/
def verifyConnect (incoming : Bytes) : Except Exc (Bytes × Nat × Nat) := do
  if incoming.length < 8 then throw .valueError
  let tsize ← unpackFrom 4 incoming 0
  if tsize = 0 ∨ incoming.length < 4 + tsize + 4 then throw .valueError
  let ticket := slice incoming 4 (4 + tsize)
  let rsizeOff := 4 + tsize
  let rsize ← unpackFrom 4 incoming rsizeOff
  let reqdOff := rsizeOff + 4
  if incoming.length < reqdOff + rsize then throw .valueError
  let reqd := slice incoming reqdOff (reqdOff + rsize)
  -- the ticket of RequestTicket was made for the auth service's PID
  let (sessionKey, sourcePid) ← extractTicketPayload cr ticket authPid
  let (_, _, checkValue) ← parseReqd cr reqd sessionKey
  return (sessionKey, sourcePid, checkValue)

/-- `handle_connect_ack`: the token and the connection it leaves, which is
assigned only once both parts have verified. -/
def handleConnectAck (conn : Connection) (incoming : Bytes) : Except Exc (Bytes × Connection) := do
  let (sessionKey, sourcePid, checkValue) ← verifyConnect cr incoming
  return (buildConnectAckToken checkValue,
    { conn with sessionKey := sessionKey, userPid := sourcePid })

end Kerberos
end Ghostbusters
