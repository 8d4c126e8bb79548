import GhostbustersServer.Crypto.Acceptance
import GhostbustersServer.Py.Ciphers
import GhostbustersServer.Rmc.Types

/-!
# A ticket from its issue to its acceptance

The auth service seals a session key and a ticket for the client; the client
opens them, forwards the ticket and proves the key; the secure service accepts.

    decryptAndVerify k (encryptThenMac k p) = p          (decryptAndVerify_encryptThenMac)
    the envelope of `n` bytes for a client and a target  (buildKerbCipher_eq)
    issue, open, forward, accept                         (ticket_accepted)

The ciphers enter through `Crypto.Lawful` only.
-/

namespace Ghostbusters

open Py

/-- What is assumed of the libraries. -/
structure Crypto.Lawful (cr : Crypto) : Prop where
  decrypt_encrypt : ∀ key data, cr.arc4Decrypt key (cr.arc4Encrypt key data) = data
  encrypt_length : ∀ key data, (cr.arc4Encrypt key data).length = data.length
  hmac_length : ∀ key data, (cr.hmacMd5 key data).length = 16

/-- The libraries the server runs with. -/
def Crypto.standard (kdfPassword : Bytes) : Crypto where
  arc4Encrypt := arc4
  arc4Decrypt := arc4
  md5 := Py.md5
  hmacMd5 := Py.hmacMd5
  kdfPassword := kdfPassword

theorem Crypto.standard_lawful (kdfPassword : Bytes) : (Crypto.standard kdfPassword).Lawful where
  decrypt_encrypt := arc4_arc4
  encrypt_length := arc4_length
  hmac_length := Py.hmacMd5_length

namespace Kerberos

variable {cr : Crypto}

/-! ## The envelope -/

theorem encryptThenMac_length (h : cr.Lawful) (key plaintext : Bytes) :
    (encryptThenMac cr key plaintext).length = plaintext.length + 16 := by
  unfold encryptThenMac
  simp only [List.length_append, h.hmac_length, h.encrypt_length]

theorem decryptAndVerify_encryptThenMac (h : cr.Lawful) (key plaintext : Bytes) :
    decryptAndVerify cr key (encryptThenMac cr key plaintext) = .ok plaintext := by
  have hl := encryptThenMac_length h key plaintext
  have hc : (encryptThenMac cr key plaintext).length - hmacTagSize =
      (cr.arc4Encrypt key plaintext).length := by
    rw [hl, h.encrypt_length]
    exact Nat.add_sub_cancel _ _
  have hsplit : encryptThenMac cr key plaintext =
      cr.arc4Encrypt key plaintext ++ cr.hmacMd5 key (cr.arc4Encrypt key plaintext) := rfl
  unfold decryptAndVerify
  rw [if_neg (by rw [hl]; unfold hmacTagSize; omega)]
  simp only [hc]
  rw [hsplit, List.take_left, List.drop_left, if_neg (by simp), h.decrypt_encrypt]

/-- A sealed ticket: the client's PID, the session key, padding. -/
def sealedTicket (cr : Crypto) (targetPid sourcePid : Nat) (sessionKey padding : Bytes) : Bytes :=
  encryptThenMac cr (deriveUserKey cr targetPid) (leBytes 4 sourcePid ++ sessionKey ++ padding)

/-- The sealed answer to the client: session key, target, and ticket with its length. -/
def sealedAnswer (cr : Crypto) (clientPid targetPid : Nat) (sessionKey ticket : Bytes) : Bytes :=
  encryptThenMac cr (deriveUserKey cr clientPid)
    (sessionKey ++ leBytes 4 targetPid ++ leBytes 4 ticket.length ++ ticket)

theorem sealedTicket_length (h : cr.Lawful) (targetPid sourcePid : Nat)
    (sessionKey padding : Bytes) :
    (sealedTicket cr targetPid sourcePid sessionKey padding).length =
      4 + sessionKey.length + padding.length + 16 := by
  unfold sealedTicket
  rw [encryptThenMac_length h]
  simp only [List.length_append, leBytes_length]

theorem buildInnerTicket_eq {targetPid sourcePid totalSize : Nat} {sessionKey : Bytes}
    (padding : Nat → Bytes) (hs : sourcePid < 2 ^ 32) (hk : sessionKey.length = 16)
    (ht : 36 ≤ totalSize) :
    buildInnerTicket cr targetPid sourcePid sessionKey totalSize padding =
      .ok (sealedTicket cr targetPid sourcePid sessionKey (padding (totalSize - 36))) := by
  have e : totalSize - hmacTagSize - 4 - sessionKeySize = totalSize - 36 := by
    unfold hmacTagSize sessionKeySize
    omega
  unfold buildInnerTicket
  rw [if_neg (by rw [hk]; unfold sessionKeySize; omega),
    if_neg (by unfold hmacTagSize sessionKeySize; omega)]
  simp only [e, toBytes_word hs]
  rfl

/-- The cipher of `totalSize` bytes that the auth service makes from its random bytes. -/
theorem buildKerbCipher_eq (h : cr.Lawful) {clientPid targetPid totalSize : Nat}
    (rand : Nat → UInt8) (hc : clientPid < 2 ^ 32) (ht : targetPid < 2 ^ 32)
    (hlo : 76 ≤ totalSize) (hhi : totalSize < 2 ^ 32) :
    ∃ ticket, ticket = sealedTicket cr targetPid clientPid (urandom rand 0 16)
        (urandom rand 16 (totalSize - 76)) ∧ ticket.length = totalSize - 40 ∧
      buildKerbCipher cr clientPid targetPid totalSize rand =
        .ok (sealedAnswer cr clientPid targetPid (urandom rand 0 16) ticket,
          urandom rand 0 16) := by
  have hk : sessionKeySize = 16 := rfl
  have e1 : totalSize - hmacTagSize - 16 - 4 - 4 = totalSize - 40 := by
    unfold hmacTagSize
    omega
  have e2 : totalSize - 40 - 36 = totalSize - 76 := by omega
  have hlen : (sealedTicket cr targetPid clientPid (urandom rand 0 16)
      (urandom rand 16 (totalSize - 76))).length = totalSize - 40 := by
    rw [sealedTicket_length h, urandom_length, urandom_length]
    omega
  refine ⟨_, rfl, hlen, ?_⟩
  have hinner : buildInnerTicket cr targetPid clientPid (urandom rand 0 16) (totalSize - 40)
      (urandom rand 16) = .ok (sealedTicket cr targetPid clientPid (urandom rand 0 16)
        (urandom rand 16 (totalSize - 76))) := by
    rw [buildInnerTicket_eq (urandom rand 16) hc (urandom_length rand 0 16) (by omega), e2]
  have hl : totalSize - 40 < 2 ^ 32 := by omega
  unfold buildKerbCipher sealedAnswer
  simp only [hk, e1, hinner, hlen, toBytes_word ht, toBytes_word hl]
  rfl

/-! ## The client -/

/-- What the client reads from the cipher it was sent. -/
structure OpenedCipher where
  sessionKey : Bytes
  targetPid : Nat
  ticketLen : Nat
  ticket : Bytes

/-- The client opens a cipher with its own key. -/
def clientOpen (cr : Crypto) (clientPid : Nat) (cipher : Bytes) : Except Exc OpenedCipher := do
  let plain ← decryptAndVerify cr (deriveUserKey cr clientPid) cipher
  let ticketLen := ofLE (slice plain 20 24)
  return { sessionKey := slice plain 0 16, targetPid := ofLE (slice plain 16 20), ticketLen
           ticket := slice plain 24 (24 + ticketLen) }

/-- The payload of a CONNECT. -/
def connectPayload (cr : Crypto) (sessionKey ticket : Bytes) (pid cid check : Nat) : Bytes :=
  let reqd := encryptThenMac cr sessionKey (leBytes 4 pid ++ leBytes 4 cid ++ leBytes 4 check)
  leBytes 4 ticket.length ++ ticket ++ (leBytes 4 reqd.length ++ reqd)

theorem clientOpen_sealedAnswer (h : cr.Lawful) {clientPid targetPid : Nat}
    {sessionKey ticket : Bytes} (hk : sessionKey.length = 16) (ht : targetPid < 2 ^ 32)
    (hl : ticket.length < 2 ^ 32) :
    clientOpen cr clientPid (sealedAnswer cr clientPid targetPid sessionKey ticket) =
      .ok { sessionKey, targetPid, ticketLen := ticket.length, ticket } := by
  unfold clientOpen sealedAnswer
  rw [decryptAndVerify_encryptThenMac h]
  have s1 : slice (sessionKey ++ leBytes 4 targetPid ++ leBytes 4 ticket.length ++ ticket) 0 16 =
      sessionKey := by
    have := slice_append [] sessionKey (leBytes 4 targetPid ++ leBytes 4 ticket.length ++ ticket)
      16 hk.symm
    simpa [List.append_assoc] using this
  have s2 : slice (sessionKey ++ leBytes 4 targetPid ++ leBytes 4 ticket.length ++ ticket) 16 20 =
      leBytes 4 targetPid := by
    have := slice_append sessionKey (leBytes 4 targetPid) (leBytes 4 ticket.length ++ ticket)
      4 (by simp)
    simpa [List.append_assoc, hk] using this
  have s3 : slice (sessionKey ++ leBytes 4 targetPid ++ leBytes 4 ticket.length ++ ticket) 20 24 =
      leBytes 4 ticket.length := by
    have := slice_append (sessionKey ++ leBytes 4 targetPid) (leBytes 4 ticket.length) ticket
      4 (by simp)
    simpa [List.append_assoc, hk] using this
  have s4 : slice (sessionKey ++ leBytes 4 targetPid ++ leBytes 4 ticket.length ++ ticket) 24
      (24 + ticket.length) = ticket := by
    have := slice_append (sessionKey ++ leBytes 4 targetPid ++ leBytes 4 ticket.length) ticket []
      ticket.length rfl
    simpa [List.append_assoc, hk] using this
  have r1 : ofLE (leBytes 4 targetPid) = targetPid := ofLE_leBytes_of_lt 4 targetPid (by omega)
  have r2 : ofLE (leBytes 4 ticket.length) = ticket.length :=
    ofLE_leBytes_of_lt 4 ticket.length (by omega)
  show Except.ok _ = Except.ok _
  simp only [s1, s2, s3, r1, r2, s4]

/-! ## The accepting side -/

theorem extractTicketPayload_sealedTicket (h : cr.Lawful) {targetPid sourcePid : Nat}
    {sessionKey padding : Bytes} (hk : sessionKey.length = 16) (hs : sourcePid < 2 ^ 32) :
    extractTicketPayload cr (sealedTicket cr targetPid sourcePid sessionKey padding) targetPid =
      .ok (sessionKey, sourcePid) := by
  unfold extractTicketPayload sealedTicket
  rw [decryptAndVerify_encryptThenMac h]
  have hlen : ¬ (leBytes 4 sourcePid ++ sessionKey ++ padding).length < 4 + sessionKeySize := by
    simp only [List.length_append, leBytes_length, hk]
    unfold sessionKeySize
    omega
  have s1 : slice (leBytes 4 sourcePid ++ sessionKey ++ padding) 4 (4 + sessionKeySize) =
      sessionKey := by
    have := slice_append (leBytes 4 sourcePid) sessionKey padding 16 hk.symm
    simpa [sessionKeySize] using this
  have s2 : (leBytes 4 sourcePid ++ sessionKey ++ padding).take 4 = leBytes 4 sourcePid := by
    rw [List.append_assoc]
    exact List.take_left' (leBytes_length 4 sourcePid)
  simp only [bind, Except.bind]
  rw [if_neg hlen, s1, s2, ofLE_leBytes_of_lt 4 sourcePid (by omega)]
  rfl

theorem parseReqd_sealed (h : cr.Lawful) {sessionKey : Bytes} {pid cid check : Nat}
    (hp : pid < 2 ^ 32) (hc : cid < 2 ^ 32) (hv : check < 2 ^ 32) :
    parseReqd cr (encryptThenMac cr sessionKey
      (leBytes 4 pid ++ leBytes 4 cid ++ leBytes 4 check)) sessionKey = .ok (pid, cid, check) := by
  unfold parseReqd
  rw [decryptAndVerify_encryptThenMac h]
  have s1 : slice (leBytes 4 pid ++ leBytes 4 cid ++ leBytes 4 check) 0 4 = leBytes 4 pid := by
    have := slice_append [] (leBytes 4 pid) (leBytes 4 cid ++ leBytes 4 check) 4 (by simp)
    simpa [List.append_assoc] using this
  have s2 : slice (leBytes 4 pid ++ leBytes 4 cid ++ leBytes 4 check) 4 8 = leBytes 4 cid := by
    have := slice_append (leBytes 4 pid) (leBytes 4 cid) (leBytes 4 check) 4 (by simp)
    simpa using this
  have s3 : slice (leBytes 4 pid ++ leBytes 4 cid ++ leBytes 4 check) 8 12 = leBytes 4 check := by
    have := slice_append (leBytes 4 pid ++ leBytes 4 cid) (leBytes 4 check) [] 4 (by simp)
    simpa using this
  simp only [bind, Except.bind]
  rw [if_neg (by simp), s1, s2, s3, ofLE_leBytes_of_lt 4 pid (by omega),
    ofLE_leBytes_of_lt 4 cid (by omega), ofLE_leBytes_of_lt 4 check (by omega)]
  rfl

/-- The two parts of a CONNECT payload are found where the client put them. -/
theorem verifyConnect_connectPayload (h : cr.Lawful) {sessionKey ticket : Bytes}
    {sourcePid pid cid check : Nat} (hpos : 0 < ticket.length) (hlt : ticket.length < 2 ^ 32)
    (hp : pid < 2 ^ 32) (hc : cid < 2 ^ 32) (hv : check < 2 ^ 32)
    (ht : extractTicketPayload cr ticket authPid = .ok (sessionKey, sourcePid)) :
    verifyConnect cr (connectPayload cr sessionKey ticket pid cid check) =
      .ok (sessionKey, sourcePid, check) := by
  have hr := @parseReqd_sealed cr h sessionKey pid cid check hp hc hv
  unfold connectPayload
  generalize hreqd : encryptThenMac cr sessionKey
    (leBytes 4 pid ++ leBytes 4 cid ++ leBytes 4 check) = reqd at hr ⊢
  have hrl : reqd.length = 28 := by
    rw [← hreqd, encryptThenMac_length h]
    simp
  have hparts : Parts (leBytes 4 ticket.length ++ ticket ++ (leBytes 4 reqd.length ++ reqd)) ticket reqd :=
    ⟨hlt, by omega, [], by simp⟩
  exact verifyConnect_eq_ok.mpr ⟨ticket, reqd, hparts, hpos, ht, pid, cid, hr⟩

/-- **The ticket flow.**  Whatever random bytes the auth service draws: its cipher
has 98 bytes, the client reads from it AUTH_PID and a ticket of the declared
length, and the secure service accepts what the client then sends, for the
client's PID and under the client's key. -/
theorem ticket_accepted (h : cr.Lawful) (rand : Nat → UInt8) (conn : Connection)
    (clientPid cid check : Nat) (hp : clientPid < 2 ^ 32) (hc : cid < 2 ^ 32)
    (hv : check < 2 ^ 32) :
    ∃ cipher sessionKey opened,
      buildRequestTicketCipher cr clientPid authPid rand = .ok (cipher, sessionKey) ∧
      cipher.length = 98 ∧
      clientOpen cr clientPid cipher = .ok opened ∧
      opened.sessionKey = urandom rand 0 16 ∧ opened.sessionKey = sessionKey ∧
      opened.targetPid = authPid ∧ opened.ticket.length = opened.ticketLen ∧
      handleConnectAck cr conn
          (connectPayload cr opened.sessionKey opened.ticket clientPid cid check) =
        .ok (leBytes 4 4 ++ leBytes 4 ((check + 1) % 2 ^ 32),
          { conn with userPid := clientPid, sessionKey := opened.sessionKey }) := by
  have ha : authPid < 2 ^ 32 := by decide
  have hlo : 76 ≤ requestTicketCipherSize := by decide
  obtain ⟨ticket, hticket, hlen, hcipher⟩ := buildKerbCipher_eq h rand hp ha hlo (by decide)
  have hlen' : ticket.length = 58 := hlen
  have hopen : clientOpen cr clientPid
      (sealedAnswer cr clientPid authPid (urandom rand 0 16) ticket) = .ok
        { sessionKey := urandom rand 0 16, targetPid := authPid
          ticketLen := ticket.length, ticket } :=
    clientOpen_sealedAnswer h (urandom_length _ _ _) ha (by omega)
  refine ⟨_, _, _, hcipher, ?_, hopen, rfl, rfl, rfl, rfl, ?_⟩
  · unfold sealedAnswer
    rw [encryptThenMac_length h]
    simp [hlen']
  · have hextract : extractTicketPayload cr ticket authPid = .ok (urandom rand 0 16, clientPid) := by
      rw [hticket]
      exact extractTicketPayload_sealedTicket h (urandom_length _ _ _) hp
    unfold handleConnectAck
    rw [verifyConnect_connectPayload h (by omega) (by omega) hp hc hv hextract]
    rfl

theorem ticket_accepted_standard :
    ∃ cipher sessionKey opened,
      buildRequestTicketCipher (Crypto.standard [0x67, 0x62]) 10000 authPid UInt8.ofNat =
        .ok (cipher, sessionKey) ∧
      cipher.length = 98 ∧
      clientOpen (Crypto.standard [0x67, 0x62]) 10000 cipher = .ok opened ∧
      opened.sessionKey = urandom UInt8.ofNat 0 16 ∧ opened.sessionKey = sessionKey ∧
      opened.targetPid = authPid ∧ opened.ticket.length = opened.ticketLen ∧
      handleConnectAck (Crypto.standard [0x67, 0x62]) default
          (connectPayload (Crypto.standard [0x67, 0x62]) opened.sessionKey opened.ticket 10000 7
            0xe2450886) =
        .ok (leBytes 4 4 ++ leBytes 4 ((0xe2450886 + 1) % 2 ^ 32),
          { (default : Connection) with userPid := 10000, sessionKey := opened.sessionKey }) :=
  ticket_accepted (Crypto.standard_lawful _) UInt8.ofNat default 10000 7 0xe2450886 (by decide)
    (by decide) (by decide)

end Kerberos
end Ghostbusters
