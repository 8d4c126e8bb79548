import GhostbustersServer.Crypto.Kerberos
import GhostbustersServer.Py.Act

/-!
# What the secure service accepts

    Parts b ticket reqd       b starts with both parts, each behind its length
    Sealed cr key b ct        b is ct and its HMAC

    verifyConnect_eq_ok       a payload proves exactly what its two parts say, and both have
                              to be sealed, the second under the key found in the first
    connectAck_accepts_iff    so the handler accepts these payloads and no others
    connectAck_run            and leaves the connection alone when it raises
-/

namespace Ghostbusters

open Py

namespace Kerberos

variable (cr : Crypto)

/-! ## The handler on the connection object -/

/-- `handle_connect_ack`, statement by statement. -/
def connectAck (incoming : Bytes) : Act Connection Exc Bytes := do
  if incoming.length < 8 then Act.raise .valueError
  else do
    let tsize ← Act.ofExcept (unpackFrom 4 incoming 0)
    if tsize = 0 ∨ incoming.length < 4 + tsize + 4 then Act.raise .valueError
    else do
      let ticket := slice incoming 4 (4 + tsize)
      let rsizeOff := 4 + tsize
      let rsize ← Act.ofExcept (unpackFrom 4 incoming rsizeOff)
      let reqdOff := rsizeOff + 4
      if incoming.length < reqdOff + rsize then Act.raise .valueError
      else do
        let reqd := slice incoming reqdOff (reqdOff + rsize)
        let (sessionKey, sourcePid) ← Act.ofExcept (extractTicketPayload cr ticket authPid)
        let (_, _, checkValue) ← Act.ofExcept (parseReqd cr reqd sessionKey)
        Act.modify fun conn => { conn with sessionKey := sessionKey }
        Act.modify fun conn => { conn with userPid := sourcePid }
        return buildConnectAckToken checkValue

/-- **Both assignments or none**: the handler is the pure one, and a connection of which it
has not made anything yet is as it was. -/
theorem connectAck_run (incoming : Bytes) (conn : Connection) :
    (connectAck cr incoming).run conn = match handleConnectAck cr conn incoming with
      | .ok (token, conn') => (.ok token, conn')
      | .error e => (.error e, conn) := by
  unfold connectAck handleConnectAck verifyConnect
  by_cases h8 : incoming.length < 8
  · simp only [if_pos h8]
    rfl
  simp only [if_neg h8]
  cases unpackFrom 4 incoming 0 with
  | error e => rfl
  | ok tsize =>
    rw [Act.run_bind_ok (Act.run_ofExcept _ _)]
    conv => rhs; dsimp only [bind, Except.bind]
    by_cases ht : tsize = 0 ∨ incoming.length < 4 + tsize + 4
    · simp only [if_pos ht]
      rfl
    simp only [if_neg ht]
    cases unpackFrom 4 incoming (4 + tsize) with
    | error e => rfl
    | ok rsize =>
      rw [Act.run_bind_ok (Act.run_ofExcept _ _)]
      dsimp only
      by_cases hr : incoming.length < 4 + tsize + 4 + rsize
      · simp only [if_pos hr]
        rfl
      simp only [if_neg hr]
      cases extractTicketPayload cr (slice incoming 4 (4 + tsize)) authPid with
      | error e => rfl
      | ok r =>
        rw [Act.run_bind_ok (Act.run_ofExcept _ _)]
        dsimp only
        cases parseReqd cr (slice incoming (4 + tsize + 4) (4 + tsize + 4 + rsize)) r.1 <;> rfl

/-! ## What is accepted -/

/-- Both parts of a payload stand at its start, each behind its length. -/
def Parts (b ticket reqd : Bytes) : Prop :=
  ticket.length < 2 ^ 32 ∧ reqd.length < 2 ^ 32 ∧
    ∃ rest, b = leBytes 4 ticket.length ++ ticket ++ leBytes 4 reqd.length ++ reqd ++ rest

/-- The last 16 bytes are the HMAC of the rest. -/
def Sealed (key b ct : Bytes) : Prop :=
  b = ct ++ cr.hmacMd5 key ct ∧ (cr.hmacMd5 key ct).length = hmacTagSize

variable {cr}

theorem decryptAndVerify_eq_ok {key b plain : Bytes} :
    decryptAndVerify cr key b = .ok plain ↔ ∃ ct, Sealed cr key b ct ∧ plain = cr.arc4Decrypt key ct := by
  unfold decryptAndVerify
  constructor
  · intro h
    split at h
    · cases h
    · next hlen =>
      dsimp only at h
      split at h
      · cases h
      · next htag =>
        cases h
        rw [not_not] at htag
        refine ⟨b.take (b.length - hmacTagSize), ⟨?_, ?_⟩, rfl⟩
        · rw [← htag, List.take_append_drop]
        · rw [← htag, List.length_drop]
          omega
  · rintro ⟨ct, ⟨rfl, hlen⟩, rfl⟩
    have hsub : (ct ++ cr.hmacMd5 key ct).length - hmacTagSize = ct.length := by
      rw [List.length_append, hlen, Nat.add_sub_cancel]
    rw [if_neg (by rw [List.length_append, hlen]; omega)]
    dsimp only
    rw [hsub, List.take_left, List.drop_left, if_neg (not_not.mpr rfl)]

theorem extractTicketPayload_eq_ok {ticket key : Bytes} {securePid pid : Nat} :
    extractTicketPayload cr ticket securePid = .ok (key, pid) ↔
      ∃ ct, Sealed cr (deriveUserKey cr securePid) ticket ct ∧
        20 ≤ (cr.arc4Decrypt (deriveUserKey cr securePid) ct).length ∧
        key = slice (cr.arc4Decrypt (deriveUserKey cr securePid) ct) 4 20 ∧
        pid = ofLE ((cr.arc4Decrypt (deriveUserKey cr securePid) ct).take 4) := by
  unfold extractTicketPayload
  constructor
  · intro h
    obtain ⟨plain, hp, h⟩ := Act.ok_of_bind h
    obtain ⟨ct, hct, rfl⟩ := decryptAndVerify_eq_ok.mp hp
    split at h
    · cases h
    · next hlen =>
      cases h
      exact ⟨ct, hct, Nat.not_lt.mp hlen, rfl, rfl⟩
  · rintro ⟨ct, hct, hlen, rfl, rfl⟩
    have hlen' : ¬ (cr.arc4Decrypt (deriveUserKey cr securePid) ct).length < 4 + sessionKeySize :=
      Nat.not_lt.mpr hlen
    rw [decryptAndVerify_eq_ok.mpr ⟨ct, hct, rfl⟩]
    simp only [bind, Except.bind]
    rw [if_neg hlen']
    rfl

theorem parseReqd_eq_ok {reqd key : Bytes} {pid cid check : Nat} :
    parseReqd cr reqd key = .ok (pid, cid, check) ↔
      ∃ ct, Sealed cr key reqd ct ∧ 12 ≤ (cr.arc4Decrypt key ct).length ∧
        pid = ofLE (slice (cr.arc4Decrypt key ct) 0 4) ∧
        cid = ofLE (slice (cr.arc4Decrypt key ct) 4 8) ∧
        check = ofLE (slice (cr.arc4Decrypt key ct) 8 12) := by
  unfold parseReqd
  constructor
  · intro h
    obtain ⟨plain, hp, h⟩ := Act.ok_of_bind h
    obtain ⟨ct, hct, rfl⟩ := decryptAndVerify_eq_ok.mp hp
    split at h
    · cases h
    · next hlen =>
      cases h
      exact ⟨ct, hct, Nat.not_lt.mp hlen, rfl, rfl, rfl⟩
  · rintro ⟨ct, hct, hlen, rfl, rfl, rfl⟩
    rw [decryptAndVerify_eq_ok.mpr ⟨ct, hct, rfl⟩]
    simp only [bind, Except.bind]
    rw [if_neg (Nat.not_lt.mpr hlen)]
    rfl

/-- The parts are where the handler looks for them. -/
theorem parts_iff {b ticket reqd : Bytes} : Parts b ticket reqd ↔
    8 + ticket.length + reqd.length ≤ b.length ∧ ofLE (slice b 0 4) = ticket.length ∧
      slice b 4 (4 + ticket.length) = ticket ∧
      ofLE (slice b (4 + ticket.length) (4 + ticket.length + 4)) = reqd.length ∧
      slice b (4 + ticket.length + 4) (4 + ticket.length + 4 + reqd.length) = reqd := by
  constructor
  · rintro ⟨ht, hr, rest, rfl⟩
    have h4 : (leBytes 4 ticket.length ++ ticket).length = 4 + ticket.length := by simp
    have h8 : (leBytes 4 ticket.length ++ ticket ++ leBytes 4 reqd.length).length =
        4 + ticket.length + 4 := by
      simp only [List.length_append, leBytes_length]
    refine ⟨?_, ?_, ?_, ?_, ?_⟩
    · simp only [List.length_append, leBytes_length]
      omega
    · rw [slice_between [] (leBytes 4 ticket.length) (ticket ++ leBytes 4 reqd.length ++ reqd ++ rest)
        0 4 (by simp) rfl (by simp), ofLE_leBytes_of_lt 4 _ ht]
    · exact slice_between (leBytes 4 ticket.length) ticket (leBytes 4 reqd.length ++ reqd ++ rest)
        _ _ (by simp) (leBytes_length _ _) rfl
    · rw [slice_between (leBytes 4 ticket.length ++ ticket) (leBytes 4 reqd.length) (reqd ++ rest)
        _ _ (by simp) h4 (by simp), ofLE_leBytes_of_lt 4 _ hr]
    · exact slice_between (leBytes 4 ticket.length ++ ticket ++ leBytes 4 reqd.length) reqd rest
        _ _ rfl h8 rfl
  · rintro ⟨hlen, ht, hticket, hr, hreqd⟩
    have hword : ∀ i, i + 4 ≤ b.length → (slice b i (i + 4)).length = 4 := by
      intro i hi
      rw [slice_length]
      omega
    have hlt : ∀ i, i + 4 ≤ b.length → ofLE (slice b i (i + 4)) < 2 ^ 32 := by
      intro i hi
      have := ofLE_lt (slice b i (i + 4))
      rwa [hword i hi] at this
    have hle : ∀ i, i + 4 ≤ b.length → leBytes 4 (ofLE (slice b i (i + 4))) = slice b i (i + 4) := by
      intro i hi
      have := leBytes_ofLE (slice b i (i + 4))
      rwa [hword i hi] at this
    refine ⟨ht ▸ hlt 0 (by omega), hr ▸ hlt _ (by omega), b.drop (4 + ticket.length + 4 + reqd.length), ?_⟩
    have h0 := hle 0 (by omega)
    have h1 := hle (4 + ticket.length) (by omega)
    rw [Nat.zero_add, ht] at h0
    rw [hr] at h1
    calc b = b.drop 0 := rfl
      _ = slice b 0 4 ++ (slice b 4 (4 + ticket.length) ++
          (slice b (4 + ticket.length) (4 + ticket.length + 4) ++
          (slice b (4 + ticket.length + 4) (4 + ticket.length + 4 + reqd.length) ++
            b.drop (4 + ticket.length + 4 + reqd.length)))) := by
        rw [slice_append_drop _ _ _ (by omega), slice_append_drop _ _ _ (by omega),
          slice_append_drop _ _ _ (by omega), slice_append_drop _ _ _ (by omega)]
      _ = _ := by
        rw [hticket, hreqd, h0, h1]
        simp only [List.append_assoc]

/-- **What a payload proves.** -/
theorem verifyConnect_eq_ok {incoming key : Bytes} {pid check : Nat} :
    verifyConnect cr incoming = .ok (key, pid, check) ↔
      ∃ ticket reqd, Parts incoming ticket reqd ∧ 0 < ticket.length ∧
        extractTicketPayload cr ticket authPid = .ok (key, pid) ∧
        ∃ p c, parseReqd cr reqd key = .ok (p, c, check) := by
  unfold verifyConnect
  constructor
  · intro h
    split at h
    · cases h
    · next h8 =>
      obtain ⟨tsize, htsize, h⟩ := Act.ok_of_bind h
      split at h
      · cases h
      · next ht =>
        obtain ⟨rsize, hrsize, h⟩ := Act.ok_of_bind h
        dsimp only at h
        split at h
        · cases h
        · next hr =>
          obtain ⟨⟨key', pid'⟩, hextract, h⟩ := Act.ok_of_bind h
          obtain ⟨⟨p, c, check'⟩, hreqd, h⟩ := Act.ok_of_bind h
          cases h
          have ht' : ofLE (slice incoming 0 4) = tsize := unpackFrom_value htsize
          have hr' : ofLE (slice incoming (4 + tsize) (4 + tsize + 4)) = rsize := unpackFrom_value hrsize
          have htl : (slice incoming 4 (4 + tsize)).length = tsize := by
            rw [slice_length]
            omega
          have hrl : (slice incoming (4 + tsize + 4) (4 + tsize + 4 + rsize)).length = rsize := by
            rw [slice_length]
            omega
          refine ⟨_, _, parts_iff.mpr ?_, by omega, hextract, p, c, hreqd⟩
          rw [htl, hrl]
          exact ⟨by omega, ht', rfl, hr', rfl⟩
  · rintro ⟨ticket, reqd, hparts, hpos, hextract, p, c, hreqd⟩
    obtain ⟨hlen, ht, hticket, hr, hrest⟩ := parts_iff.mp hparts
    have u1 : unpackFrom 4 incoming 0 = .ok ticket.length := unpackFrom_eq (by omega) ht
    have u2 : unpackFrom 4 incoming (4 + ticket.length) = .ok reqd.length := unpackFrom_eq (by omega) hr
    rw [if_neg (by omega), u1]
    simp only [bind, Except.bind]
    rw [if_neg (by omega)]
    simp only [u2]
    rw [if_neg (by omega)]
    simp only [hticket, hrest, hextract, hreqd, pure, Except.pure]

/-- **Acceptance is exact and atomic**: the handler raises and leaves the connection as it
was, or the payload carries a sealed ticket and a request sealed under its session key, and
the connection has PID and key of the ticket. -/
theorem connectAck_accepts_iff (cr : Crypto) (incoming : Bytes) (conn : Connection) :
    (∀ e conn', (connectAck cr incoming).run conn = (.error e, conn') → conn' = conn) ∧
    ∀ token conn', (connectAck cr incoming).run conn = (.ok token, conn') ↔
      ∃ ticket reqd ct plain ct' plain', Parts incoming ticket reqd ∧ 0 < ticket.length ∧
        Sealed cr (deriveUserKey cr authPid) ticket ct ∧
        plain = cr.arc4Decrypt (deriveUserKey cr authPid) ct ∧ 20 ≤ plain.length ∧
        Sealed cr (slice plain 4 20) reqd ct' ∧
        plain' = cr.arc4Decrypt (slice plain 4 20) ct' ∧ 12 ≤ plain'.length ∧
        conn' = { conn with sessionKey := slice plain 4 20, userPid := ofLE (plain.take 4) } ∧
        token = leBytes 4 4 ++ leBytes 4 ((ofLE (slice plain' 8 12) + 1) % 2 ^ 32) := by
  rw [connectAck_run]
  unfold handleConnectAck
  constructor
  · intro e conn' h
    cases hv : verifyConnect cr incoming with
    | error e' =>
      rw [hv] at h
      cases h
      rfl
    | ok r =>
      rw [hv] at h
      cases h
  · intro token conn'
    constructor
    · intro h
      cases hv : verifyConnect cr incoming with
      | error e =>
        rw [hv] at h
        cases h
      | ok r =>
        obtain ⟨key, pid, check⟩ := r
        rw [hv] at h
        cases h
        obtain ⟨ticket, reqd, hparts, hpos, hextract, p, c, hreqd⟩ := verifyConnect_eq_ok.mp hv
        obtain ⟨ct, hct, hlen, rfl, rfl⟩ := extractTicketPayload_eq_ok.mp hextract
        obtain ⟨ct', hct', hlen', -, -, rfl⟩ := parseReqd_eq_ok.mp hreqd
        exact ⟨ticket, reqd, ct, _, ct', _, hparts, hpos, hct, rfl, hlen, hct', rfl, hlen', rfl, rfl⟩
    · rintro ⟨ticket, reqd, ct, _, ct', _, hparts, hpos, hct, rfl, hlen, hct', rfl, hlen', rfl, rfl⟩
      have hextract := extractTicketPayload_eq_ok.mpr ⟨ct, hct, hlen, rfl, rfl⟩
      have hreqd := parseReqd_eq_ok.mpr ⟨ct', hct', hlen', rfl, rfl, rfl⟩
      rw [verifyConnect_eq_ok.mpr ⟨ticket, reqd, hparts, hpos, hextract, _, _, hreqd⟩]
      rfl

end Kerberos
end Ghostbusters
