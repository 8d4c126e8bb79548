import GhostbustersServer.Rmc.Codec
import Mathlib.Data.Nat.Bitwise

/-!
# Framing, both ways

`Reads b m` says where in `b` each field of `m` stands.

    decode b = .ok m ↔ Reads b m                          (decode_eq_ok_iff)
    decode b = .ok m, or decode b = .error .valueError    (decode_cases)

What is encoded is read back if its length fits the size word, and a request that is
read is encoded as it came.  An answer is, unless it has a flag or bytes that its
encoder would not write.
-/

namespace Ghostbusters

open Py

namespace Rmc

/-! ## Bits -/

theorem proto_bits {p : Nat} (h : p < 128) :
    p ||| requestBit < 256 ∧ (p ||| requestBit) &&& 0x7F = p ∧ (p ||| requestBit) &&& requestBit ≠ 0 ∧
      p &&& 0x7F = p ∧ p &&& requestBit = 0 := by
  have hall : ∀ p : Fin 128, p.val ||| requestBit < 256 ∧ (p.val ||| requestBit) &&& 0x7F = p.val ∧
      (p.val ||| requestBit) &&& requestBit ≠ 0 ∧ p.val &&& 0x7F = p.val ∧
      p.val &&& requestBit = 0 := by decide
  exact hall ⟨p, h⟩

/-- The first byte is the seven bits of the protocol, with the request bit or without. -/
theorem protoByte_bits {x : Nat} (h : x < 256) :
    x &&& 0x7F < 128 ∧ (x &&& requestBit ≠ 0 → (x &&& 0x7F) ||| requestBit = x) ∧
      (x &&& requestBit = 0 → x &&& 0x7F = x) := by
  have hall : ∀ x : Fin 256, x.val &&& 0x7F < 128 ∧
      (x.val &&& requestBit ≠ 0 → (x.val &&& 0x7F) ||| requestBit = x.val) ∧
      (x.val &&& requestBit = 0 → x.val &&& 0x7F = x.val) := by decide +kernel
  exact hall ⟨x, h⟩

/-- `& ~RESPONSE_METHOD_BIT` of a 32-bit value. -/
def withoutBit (method : Nat) : Nat := method &&& (0xFFFFFFFF ^^^ responseMethodBit)

theorem testBit_responseMethodBit (i : Nat) : responseMethodBit.testBit i = decide (15 = i) := by
  show Nat.testBit (2 ^ 15) i = decide (15 = i)
  exact Nat.testBit_two_pow

theorem testBit_withoutBit (m i : Nat) :
    (withoutBit m).testBit i = (m.testBit i && decide (i < 32) && decide (i ≠ 15)) := by
  have h1 : (0xFFFFFFFF : Nat).testBit i = decide (i < 32) := Nat.testBit_two_pow_sub_one 32 i
  unfold withoutBit
  rw [Nat.testBit_and, Nat.testBit_xor, h1, testBit_responseMethodBit]
  by_cases h15 : i = 15
  · subst h15
    simp
  · simp [h15, Ne.symm h15]

theorem testBit_withBit (m i : Nat) :
    (m ||| responseMethodBit).testBit i = (m.testBit i || decide (i = 15)) := by
  rw [Nat.testBit_or, testBit_responseMethodBit]
  by_cases h15 : i = 15
  · subst h15
    simp
  · simp [h15, Ne.symm h15]

theorem testBit_high {m i : Nat} (h : m < 2 ^ 32) (hi : 32 ≤ i) : m.testBit i = false :=
  Nat.testBit_lt_two_pow (h.trans_le (Nat.pow_le_pow_right (by omega) hi))

theorem withBit_lt {m : Nat} (h : m < 2 ^ 32) : m ||| responseMethodBit < 2 ^ 32 :=
  Nat.or_lt_two_pow h (by decide)

theorem withoutBit_lt (m : Nat) : withoutBit m < 2 ^ 32 :=
  Nat.and_lt_two_pow m (by decide)

theorem withoutBit_withBit {m : Nat} (h : m < 2 ^ 32) (hbit : m.testBit 15 = false) :
    withoutBit (m ||| responseMethodBit) = m := by
  apply Nat.eq_of_testBit_eq
  intro i
  rw [testBit_withoutBit, testBit_withBit]
  by_cases h15 : i = 15
  · subst h15
    simp [hbit]
  · by_cases hi : i < 32
    · simp [h15, hi]
    · rw [testBit_high h (by omega)]
      simp [h15]

theorem withBit_withoutBit_iff {m : Nat} (h : m < 2 ^ 32) :
    withoutBit m ||| responseMethodBit = m ↔ m.testBit 15 = true := by
  constructor
  · intro he
    rw [← he, testBit_withBit]
    simp
  · intro hbit
    apply Nat.eq_of_testBit_eq
    intro i
    rw [testBit_withBit, testBit_withoutBit]
    by_cases h15 : i = 15
    · subst h15
      simp [hbit]
    · by_cases hi : i < 32
      · simp [h15, hi]
      · rw [testBit_high h (by omega)]
        simp [h15]

/-! ## Where the fields stand -/

/-- The byte of the protocol, and the success byte of an answer. -/
def byteAt (b : Bytes) (i : Nat) : Nat := (b.getD i 0).toNat

theorem byteAt_lt (b : Bytes) (i : Nat) : byteAt b i < 256 := (b.getD i 0).toNat_lt

def requestAt (b : Bytes) : Request :=
  { proto := byteAt b 4 &&& 0x7F, callId := ofLE (slice b 5 9), method := ofLE (slice b 9 13)
    params := b.drop 13 }

def okAt (b : Bytes) : ResponseOK :=
  { proto := byteAt b 4 &&& 0x7F, callId := ofLE (slice b 6 10)
    method := withoutBit (ofLE (slice b 10 14)), ret := b.drop 14 }

def errorAt (b : Bytes) : ResponseError :=
  { proto := byteAt b 4 &&& 0x7F, errorCode := ofLE (slice b 6 10), callId := ofLE (slice b 10 14) }

/-- The size word is right, and every field of the message is inside `b`. -/
def Reads (b : Bytes) (m : Message) : Prop :=
  ofLE (slice b 0 4) + 4 = b.length ∧
  match m with
  | .request r => 13 ≤ b.length ∧ byteAt b 4 &&& requestBit ≠ 0 ∧ r = requestAt b
  | .ok r => 14 ≤ b.length ∧ byteAt b 4 &&& requestBit = 0 ∧ byteAt b 5 ≠ 0 ∧ r = okAt b
  | .error r => 14 ≤ b.length ∧ byteAt b 4 &&& requestBit = 0 ∧ byteAt b 5 = 0 ∧ r = errorAt b

theorem unpackFrom_inside (n : Nat) (b : Bytes) (off : Nat) (h : off + n ≤ b.length) :
    unpackFrom n b off = .ok (ofLE (slice b off (off + n))) := if_pos h

theorem byteAt_eq_zero_iff (b : Bytes) (i : Nat) : byteAt b i = 0 ↔ b.getD i 0 = 0 := by
  unfold byteAt
  rw [← UInt8.toNat_inj]
  rfl

/-- `decode` without its exceptions on the way. -/
theorem decode_eq (b : Bytes) : decode b =
    if b.length < 5 ∨ ofLE (slice b 0 4) + 4 ≠ b.length then .error .valueError
    else if byteAt b 4 &&& requestBit ≠ 0 then
      if b.length < 13 then .error .valueError else .ok (.request (requestAt b))
    else if b.length < 14 then .error .valueError
    else if byteAt b 5 ≠ 0 then .ok (.ok (okAt b)) else .ok (.error (errorAt b)) := by
  have hthrow : ∀ {α β : Type} (k : α → Except Exc β),
      ((throw Exc.valueError : Except Exc α) >>= k) = .error .valueError := fun _ => rfl
  have hok : ∀ {α β : Type} (a : α) (k : α → Except Exc β),
      ((Except.ok a : Except Exc α) >>= k) = k a := fun _ _ => rfl
  have hbyte : ∀ i, (b.getD i 0).toNat = byteAt b i := fun _ => rfl
  unfold decode
  by_cases h5 : b.length < 5
  · simp only [h5, if_true, true_or, hthrow]
  rw [unpackFrom_inside 4 b 0 (by omega)]
  by_cases hsize : ofLE (slice b 0 4) + 4 = b.length
  swap
  · simp only [h5, hsize, if_true, if_false, false_or, ne_eq, not_false_eq_true, hthrow, hok]
  simp only [h5, hsize, if_false, false_or, ne_eq, not_true_eq_false, hok, hbyte]
  by_cases hreq : byteAt b 4 &&& requestBit = 0
  swap
  · by_cases h13 : b.length < 13
    · simp only [hreq, h13, if_true, not_false_eq_true, hthrow]
    · simp only [hreq, h13, if_true, if_false, not_false_eq_true, hok,
        unpackFrom_inside 4 b 5 (show 5 + 4 ≤ b.length by omega),
        unpackFrom_inside 4 b 9 (show 9 + 4 ≤ b.length by omega)]
      rfl
  simp only [hreq, if_false, not_true_eq_false, ← byteAt_eq_zero_iff]
  by_cases h14 : b.length < 14
  · by_cases h6 : b.length < 6
    · simp only [h6, h14, if_true, hthrow]
    · by_cases hs : byteAt b 5 = 0
      · simp only [h6, h14, hs, if_true, if_false, not_true_eq_false, hthrow]
      · simp only [h6, h14, hs, if_true, if_false, not_false_eq_true, hthrow]
  · have h6 : ¬ b.length < 6 := by omega
    have h610 := unpackFrom_inside 4 b 6 (show 6 + 4 ≤ b.length by omega)
    have h1014 := unpackFrom_inside 4 b 10 (show 10 + 4 ≤ b.length by omega)
    by_cases hs : byteAt b 5 = 0
    · simp only [h6, h14, hs, if_false, not_true_eq_false, hok, h610, h1014]
      rfl
    · simp only [h6, h14, hs, if_true, if_false, not_false_eq_true, hok, h610, h1014]
      rfl

theorem decode_eq_ok_iff (b : Bytes) (m : Message) : decode b = .ok m ↔ Reads b m := by
  rw [decode_eq]
  unfold Reads
  by_cases h : b.length < 5 ∨ ofLE (slice b 0 4) + 4 ≠ b.length
  · rw [if_pos h]
    constructor
    · intro he
      cases he
    · rintro ⟨hsize, hm⟩
      rcases h with h | h
      · cases m <;> exact absurd hm.1 (by omega)
      · exact absurd hsize h
  · rw [if_neg h]
    rw [not_or, not_not] at h
    by_cases hreq : byteAt b 4 &&& requestBit = 0
    · rw [if_neg (fun hn => hn hreq)]
      by_cases h14 : b.length < 14
      · rw [if_pos h14]
        constructor
        · intro he
          cases he
        · rintro ⟨-, hm⟩
          cases m with
          | request r => exact absurd hreq hm.2.1
          | ok r => exact absurd hm.1 (by omega)
          | error r => exact absurd hm.1 (by omega)
      · rw [if_neg h14]
        by_cases hs : byteAt b 5 = 0
        · rw [if_neg (fun hn => hn hs)]
          cases m <;> simp [h.2, hreq, hs, Nat.not_lt.mp h14, eq_comm]
        · rw [if_pos hs]
          cases m <;> simp [h.2, hreq, hs, Nat.not_lt.mp h14, eq_comm]
    · rw [if_pos hreq]
      by_cases h13 : b.length < 13
      · rw [if_pos h13]
        constructor
        · intro he
          cases he
        · rintro ⟨-, hm⟩
          cases m with
          | request r => exact absurd hm.1 (by omega)
          | ok r => exact absurd hm.2.1 hreq
          | error r => exact absurd hm.2.1 hreq
      · rw [if_neg h13]
        cases m <;> simp [h.2, hreq, Nat.not_lt.mp h13, eq_comm]

/-- **Every byte string** is a message or a ValueError. -/
theorem decode_cases (b : Bytes) : decode b = .error .valueError ∨ ∃ m, decode b = .ok m := by
  rw [decode_eq]
  split
  · exact .inl rfl
  · split
    · split
      · exact .inl rfl
      · exact .inr ⟨_, rfl⟩
    · split
      · exact .inl rfl
      · split <;> exact .inr ⟨_, rfl⟩

/-! ## Encoding -/

/-- A body behind its size word. -/
def frame (body : Bytes) : Except Exc Bytes := do
  let size ← pack 4 body.length
  return size ++ body

theorem frame_fits {body : Bytes} (h : body.length < 2 ^ 32) :
    frame body = .ok (leBytes 4 body.length ++ body) := by
  unfold frame pack
  rw [if_pos (show body.length < 256 ^ 4 by omega)]
  rfl

theorem frame_large {body : Bytes} (h : 2 ^ 32 ≤ body.length) :
    frame body = .error .structError := by
  unfold frame pack
  rw [if_neg (show ¬ body.length < 256 ^ 4 by omega)]
  rfl

theorem encode_eq (m : Message) : encode m = encodeBody m >>= frame := rfl

theorem pack_word {v : Nat} (h : v < 2 ^ 32) : pack 4 v = .ok (leBytes 4 v) :=
  if_pos (show v < 256 ^ 4 by omega)

theorem encode_request (r : Request) (hp : r.proto < 128) (hc : r.callId < 2 ^ 32)
    (hm : r.method < 2 ^ 32) :
    encode (.request r) = frame (UInt8.ofNat (r.proto ||| requestBit) ::
      (leBytes 4 r.callId ++ leBytes 4 r.method ++ r.params)) := by
  have hbyte : byte (r.proto ||| requestBit) = .ok [UInt8.ofNat (r.proto ||| requestBit)] :=
    if_pos (proto_bits hp).1
  rw [encode_eq]
  simp only [encodeBody, hbyte, pack_word hc, pack_word hm]
  rfl

theorem encode_ok (r : ResponseOK) (hp : r.proto < 128) (hc : r.callId < 2 ^ 32)
    (hm : r.method < 2 ^ 32) :
    encode (.ok r) = frame (UInt8.ofNat r.proto :: 1 ::
      (leBytes 4 r.callId ++ leBytes 4 (r.method ||| responseMethodBit) ++ r.ret)) := by
  have hbyte : byte (r.proto &&& 0x7F) = .ok [UInt8.ofNat r.proto] := by
    rw [(proto_bits hp).2.2.2.1]
    exact if_pos (show r.proto < 256 by omega)
  rw [encode_eq]
  simp only [encodeBody, hbyte, pack_word hc, pack_word (withBit_lt hm)]
  rfl

theorem encode_error (r : ResponseError) (hp : r.proto < 128) (hc : r.callId < 2 ^ 32)
    (he : r.errorCode < 2 ^ 32) :
    encode (.error r) = frame (UInt8.ofNat r.proto :: 0 ::
      (leBytes 4 r.errorCode ++ leBytes 4 r.callId)) := by
  have hbyte : byte (r.proto &&& 0x7F) = .ok [UInt8.ofNat r.proto] := by
    rw [(proto_bits hp).2.2.2.1]
    exact if_pos (show r.proto < 256 by omega)
  rw [encode_eq]
  simp only [encodeBody, hbyte, pack_word hc, pack_word he]
  rfl

/-! ## What is encoded is read back -/

theorem byteAt_between {b : Bytes} (pre post : Bytes) (x i : Nat)
    (hb : b = pre ++ UInt8.ofNat x :: post) (hi : pre.length = i) (hx : x < 256) :
    byteAt b i = x := by
  subst hb hi
  unfold byteAt
  rw [List.getD_append_right _ _ _ _ (Nat.le_refl _), Nat.sub_self, List.getD_cons_zero,
    UInt8.toNat_ofNat', Nat.mod_eq_of_lt hx]

theorem ofLE_word {v : Nat} (h : v < 2 ^ 32) : ofLE (leBytes 4 v) = v :=
  ofLE_leBytes_of_lt 4 v (by omega)

/-- The size word of a frame. -/
theorem frame_size {body : Bytes} (h : body.length < 2 ^ 32) :
    ofLE (slice (leBytes 4 body.length ++ body) 0 4) + 4 =
      (leBytes 4 body.length ++ body).length := by
  have hword : slice (leBytes 4 body.length ++ body) 0 4 = leBytes 4 body.length :=
    slice_between [] (leBytes 4 body.length) body 0 4 rfl rfl (by simp)
  rw [hword, ofLE_word h]
  simp
  omega

theorem decode_encode_request (r : Request) (hp : r.proto < 128) (hc : r.callId < 2 ^ 32)
    (hm : r.method < 2 ^ 32) (hlen : 9 + r.params.length < 2 ^ 32) :
    ∃ b, encode (.request r) = .ok b ∧ decode b = .ok (.request r) := by
  obtain ⟨body, hbody⟩ : ∃ body, body = UInt8.ofNat (r.proto ||| requestBit) ::
      (leBytes 4 r.callId ++ leBytes 4 r.method ++ r.params) := ⟨_, rfl⟩
  have hsize : body.length = 9 + r.params.length := by
    subst hbody
    simp
    omega
  refine ⟨leBytes 4 body.length ++ body, ?_, ?_⟩
  · rw [encode_request r hp hc hm, ← hbody, frame_fits (by omega)]
  · rw [decode_eq_ok_iff]
    obtain ⟨hx, h7F, hbit, -⟩ := proto_bits hp
    have h4 : byteAt (leBytes 4 body.length ++ body) 4 = r.proto ||| requestBit :=
      byteAt_between (leBytes 4 body.length) _ _ 4 (by rw [hbody]) (by simp) hx
    have h5 : slice (leBytes 4 body.length ++ body) 5 9 = leBytes 4 r.callId :=
      slice_between (leBytes 4 body.length ++ [UInt8.ofNat (r.proto ||| requestBit)]) _
        (leBytes 4 r.method ++ r.params) 5 9 (by rw [hbody]; simp) (by simp) (by simp)
    have h9 : slice (leBytes 4 body.length ++ body) 9 13 = leBytes 4 r.method :=
      slice_between (leBytes 4 body.length ++ UInt8.ofNat (r.proto ||| requestBit) ::
        leBytes 4 r.callId) _ r.params 9 13 (by rw [hbody]; simp) (by simp) (by simp)
    have h13 : (leBytes 4 body.length ++ body).drop 13 = r.params := by
      rw [hbody]
      simp [leBytes]
    refine ⟨frame_size (by omega), ?_, ?_, ?_⟩
    · simp
      omega
    · rw [h4]
      exact hbit
    · unfold requestAt
      rw [h4, h5, h9, h13, h7F, ofLE_word hc, ofLE_word hm]

/-- Where the fields of an answer stand. -/
theorem answer_fields {b : Bytes} (size x y : Nat) (u v post : Bytes)
    (hb : b = leBytes 4 size ++ UInt8.ofNat x :: UInt8.ofNat y :: (u ++ v ++ post))
    (hx : x < 256) (hy : y < 256) (hu : u.length = 4) (hv : v.length = 4) :
    byteAt b 4 = x ∧ byteAt b 5 = y ∧ slice b 6 10 = u ∧ slice b 10 14 = v ∧
      b.drop 14 = post := by
  have h5 : (leBytes 4 size ++ [UInt8.ofNat x]).length = 5 := by simp
  have h6 : (leBytes 4 size ++ [UInt8.ofNat x, UInt8.ofNat y]).length = 6 := by simp
  have h10 : (leBytes 4 size ++ UInt8.ofNat x :: UInt8.ofNat y :: u).length = 10 := by simp [hu]
  have h14 : (leBytes 4 size ++ UInt8.ofNat x :: UInt8.ofNat y :: (u ++ v)).length = 14 := by
    simp [hu, hv]
  refine ⟨byteAt_between _ _ x 4 hb (by simp) hx,
    byteAt_between _ (u ++ v ++ post) y 5 (by rw [hb]; simp) h5 hy,
    slice_between _ _ (v ++ post) 6 10 (by rw [hb]; simp) h6 (by rw [hu]),
    slice_between _ _ post 10 14 (by rw [hb]; simp) h10 (by rw [hv]), ?_⟩
  rw [← h14, show b = (leBytes 4 size ++ UInt8.ofNat x :: UInt8.ofNat y :: (u ++ v)) ++ post by
    rw [hb]; simp]
  exact List.drop_left

theorem decode_encode_ok (r : ResponseOK) (hp : r.proto < 128) (hc : r.callId < 2 ^ 32)
    (hm : r.method < 2 ^ 32) (hbit : r.method.testBit 15 = false)
    (hlen : 10 + r.ret.length < 2 ^ 32) :
    ∃ b, encode (.ok r) = .ok b ∧ decode b = .ok (.ok r) := by
  obtain ⟨body, hbody⟩ : ∃ body, body = UInt8.ofNat r.proto :: UInt8.ofNat 1 ::
      (leBytes 4 r.callId ++ leBytes 4 (r.method ||| responseMethodBit) ++ r.ret) := ⟨_, rfl⟩
  have hsize : body.length = 10 + r.ret.length := by
    subst hbody
    simp
    omega
  refine ⟨leBytes 4 body.length ++ body, ?_, ?_⟩
  · have henc := encode_ok r hp hc hm
    rw [show (1 : UInt8) = UInt8.ofNat 1 from rfl, ← hbody] at henc
    rw [henc, frame_fits (by omega)]
  · rw [decode_eq_ok_iff]
    obtain ⟨h4, h5, h6, h10, h14⟩ := answer_fields body.length r.proto 1 (leBytes 4 r.callId)
      (leBytes 4 (r.method ||| responseMethodBit)) r.ret (by rw [← hbody])
      (by omega) (by omega) (leBytes_length 4 _) (leBytes_length 4 _)
    obtain ⟨-, -, -, h7F, h80⟩ := proto_bits hp
    refine ⟨frame_size (by omega), ?_, ?_, ?_, ?_⟩
    · simp
      omega
    · rw [h4]
      exact h80
    · rw [h5]
      omega
    · unfold okAt
      rw [h4, h6, h10, h14, h7F, ofLE_word hc, ofLE_word (withBit_lt hm), withoutBit_withBit hm hbit]

theorem decode_encode_error (r : ResponseError) (hp : r.proto < 128) (hc : r.callId < 2 ^ 32)
    (he : r.errorCode < 2 ^ 32) :
    ∃ b, encode (.error r) = .ok b ∧ decode b = .ok (.error r) := by
  obtain ⟨body, hbody⟩ : ∃ body, body = UInt8.ofNat r.proto :: UInt8.ofNat 0 ::
      (leBytes 4 r.errorCode ++ leBytes 4 r.callId ++ []) := ⟨_, rfl⟩
  have hsize : body.length = 10 := by
    subst hbody
    simp
  refine ⟨leBytes 4 body.length ++ body, ?_, ?_⟩
  · have henc := encode_error r hp hc he
    rw [show (0 : UInt8) = UInt8.ofNat 0 from rfl,
      ← List.append_nil (leBytes 4 r.errorCode ++ leBytes 4 r.callId), ← hbody] at henc
    rw [henc, frame_fits (by omega)]
  · rw [decode_eq_ok_iff]
    obtain ⟨h4, h5, h6, h10, -⟩ := answer_fields body.length r.proto 0 (leBytes 4 r.errorCode)
      (leBytes 4 r.callId) [] (by rw [← hbody])
      (by omega) (by omega) (leBytes_length 4 _) (leBytes_length 4 _)
    obtain ⟨-, -, -, h7F, h80⟩ := proto_bits hp
    refine ⟨frame_size (by omega), ?_, ?_, h5, ?_⟩
    · simp
      omega
    · rw [h4]
      exact h80
    · unfold errorAt
      rw [h4, h6, h10, h7F, ofLE_word hc, ofLE_word he]

/-! ## What is read is encoded as it came -/

/-- A body, one byte and then the rest of it. -/
theorem drop_eq_cons (b : Bytes) (i : Nat) (h : i < b.length) :
    b.drop i = UInt8.ofNat (byteAt b i) :: b.drop (i + 1) := by
  rw [List.drop_eq_getElem_cons h]
  unfold byteAt
  rw [List.getD_eq_getElem _ _ h, UInt8.ofNat_toNat]

theorem word_length {b : Bytes} {i j : Nat} (hj : i + 4 = j) (h : j ≤ b.length) :
    (slice b i j).length = 4 := by
  rw [slice_length]
  omega

theorem leBytes_slice {b : Bytes} {i j : Nat} (hj : i + 4 = j) (h : j ≤ b.length) :
    leBytes 4 (ofLE (slice b i j)) = slice b i j := by
  have hread := leBytes_ofLE (slice b i j)
  rw [word_length hj h] at hread
  exact hread

theorem ofLE_slice_lt {b : Bytes} {i j : Nat} (hj : i + 4 = j) (h : j ≤ b.length) :
    ofLE (slice b i j) < 2 ^ 32 := by
  have hlt := ofLE_lt (slice b i j)
  rw [word_length hj h] at hlt
  exact hlt

theorem frame_eq_iff {b body : Bytes} (hsize : ofLE (slice b 0 4) + 4 = b.length)
    (hlen : body.length < 2 ^ 32) : frame body = .ok b ↔ body = b.drop 4 := by
  have hword : leBytes 4 (b.length - 4) = b.take 4 := by
    have h := leBytes_slice (show 0 + 4 = 4 from rfl) (show 4 ≤ b.length by omega)
    rw [show ofLE (slice b 0 4) = b.length - 4 by omega] at h
    exact h
  rw [frame_fits hlen, Except.ok.injEq]
  constructor
  · intro h
    rw [← h, List.drop_left' (leBytes_length 4 _)]
  · intro h
    rw [h, List.length_drop, hword, List.take_append_drop]

theorem encode_requestAt {b : Bytes} (hsize : ofLE (slice b 0 4) + 4 = b.length)
    (hlen : 13 ≤ b.length) (hbit : byteAt b 4 &&& requestBit ≠ 0) :
    encode (.request (requestAt b)) = .ok b := by
  obtain ⟨hlt, hreq, -⟩ := protoByte_bits (byteAt_lt b 4)
  have hword := ofLE_slice_lt (show 0 + 4 = 4 from rfl) (show 4 ≤ b.length by omega)
  rw [encode_request _ hlt (ofLE_slice_lt rfl (by omega)) (ofLE_slice_lt rfl (by omega))]
  show frame (UInt8.ofNat (byteAt b 4 &&& 0x7F ||| requestBit) :: (leBytes 4 (ofLE (slice b 5 9)) ++
    leBytes 4 (ofLE (slice b 9 13)) ++ b.drop 13)) = .ok b
  rw [hreq hbit, leBytes_slice (show 5 + 4 = 9 from rfl) (by omega), leBytes_slice (show 9 + 4 = 13 from rfl) (by omega),
    List.append_assoc, slice_append_drop b 9 13 (by omega), slice_append_drop b 5 9 (by omega),
    ← drop_eq_cons b 4 (by omega)]
  rw [frame_eq_iff hsize]
  rw [List.length_drop]
  omega

/-- The body of an answer, split at its fixed fields. -/
theorem answer_body {b : Bytes} (h : 14 ≤ b.length) :
    b.drop 4 = UInt8.ofNat (byteAt b 4) :: UInt8.ofNat (byteAt b 5) ::
      (slice b 6 10 ++ slice b 10 14 ++ b.drop 14) := by
  rw [List.append_assoc, slice_append_drop b 10 14 (by omega), slice_append_drop b 6 10 (by omega),
    ← drop_eq_cons b 5 (by omega), ← drop_eq_cons b 4 (by omega)]

theorem encode_okAt_iff {b : Bytes} (hsize : ofLE (slice b 0 4) + 4 = b.length)
    (hlen : 14 ≤ b.length) (hbit : byteAt b 4 &&& requestBit = 0) :
    encode (.ok (okAt b)) = .ok b ↔
      byteAt b 5 = 1 ∧ (ofLE (slice b 10 14)).testBit 15 = true := by
  obtain ⟨hlt, -, hans⟩ := protoByte_bits (byteAt_lt b 4)
  have h10 := ofLE_slice_lt (show 10 + 4 = 14 from rfl) hlen
  have hword := ofLE_slice_lt (show 0 + 4 = 4 from rfl) (show 4 ≤ b.length by omega)
  rw [encode_ok _ hlt (ofLE_slice_lt rfl (by omega)) (withoutBit_lt _)]
  show frame (UInt8.ofNat (byteAt b 4 &&& 0x7F) :: 1 :: (leBytes 4 (ofLE (slice b 6 10)) ++
    leBytes 4 (withoutBit (ofLE (slice b 10 14)) ||| responseMethodBit) ++ b.drop 14)) = .ok b ↔ _
  rw [hans hbit, leBytes_slice (show 6 + 4 = 10 from rfl) (by omega), frame_eq_iff hsize, answer_body hlen,
    ← withBit_withoutBit_iff h10]
  swap
  · simp [slice_length]
    omega
  constructor
  · intro he
    rw [List.cons.injEq, List.cons.injEq] at he
    obtain ⟨-, h5, he⟩ := he
    constructor
    · rw [show byteAt b 5 = (UInt8.ofNat (byteAt b 5)).toNat by
        rw [UInt8.toNat_ofNat', Nat.mod_eq_of_lt (byteAt_lt b 5)], ← h5]
      rfl
    · have hcut := List.append_cancel_left (List.append_cancel_right he)
      have hread := congrArg ofLE hcut
      rw [ofLE_word (withBit_lt (withoutBit_lt _))] at hread
      exact hread
  · rintro ⟨h5, hm⟩
    rw [h5, hm, leBytes_slice (show 10 + 4 = 14 from rfl) (by omega)]
    rfl

theorem encode_errorAt_iff {b : Bytes} (hsize : ofLE (slice b 0 4) + 4 = b.length)
    (hlen : 14 ≤ b.length) (hbit : byteAt b 4 &&& requestBit = 0) (h5 : byteAt b 5 = 0) :
    encode (.error (errorAt b)) = .ok b ↔ b.length = 14 := by
  obtain ⟨hlt, -, hans⟩ := protoByte_bits (byteAt_lt b 4)
  rw [encode_error _ hlt (ofLE_slice_lt rfl (by omega)) (ofLE_slice_lt rfl (by omega))]
  show frame (UInt8.ofNat (byteAt b 4 &&& 0x7F) :: 0 :: (leBytes 4 (ofLE (slice b 6 10)) ++
    leBytes 4 (ofLE (slice b 10 14)))) = .ok b ↔ _
  rw [hans hbit, leBytes_slice (show 6 + 4 = 10 from rfl) (by omega), leBytes_slice (show 10 + 4 = 14 from rfl) (by omega),
    frame_eq_iff hsize, answer_body hlen, h5]
  swap
  · simp [slice_length]
    omega
  constructor
  · intro he
    have hl := congrArg List.length he
    simp only [List.length_cons, List.length_append, List.length_drop, slice_length] at hl
    omega
  · intro h14
    rw [show b.drop 14 = [] from List.drop_eq_nil_of_le (by omega), List.append_nil]
    rfl

/-! ## The whole format -/

/-- A message whose numbers are in the ranges of their fields. -/
def InRange : Message → Prop
  | .request r => r.proto < 128 ∧ r.callId < 2 ^ 32 ∧ r.method < 2 ^ 32
  | .ok r => r.proto < 128 ∧ r.callId < 2 ^ 32 ∧ r.method < 2 ^ 32 ∧ r.method.testBit 15 = false
  | .error r => r.proto < 128 ∧ r.callId < 2 ^ 32 ∧ r.errorCode < 2 ^ 32

/-- The length of a message behind its size word. -/
def size : Message → Nat
  | .request r => 9 + r.params.length
  | .ok r => 10 + r.ret.length
  | .error _ => 10

/-- The message keeps every bit of the answer `b` it was read from. -/
def Kept (b : Bytes) : Message → Prop
  | .request _ => True
  | .ok _ => byteAt b 5 ≤ 1 ∧ (ofLE (slice b 10 14)).testBit 15 = true
  | .error _ => byteAt b 5 ≤ 1 ∧ b.length = 14

theorem decode_encode (m : Message) (hm : InRange m) (hsize : size m < 2 ^ 32) :
    ∃ b, encode m = .ok b ∧ decode b = .ok m := by
  cases m with
  | request r => exact decode_encode_request r hm.1 hm.2.1 hm.2.2 hsize
  | ok r => exact decode_encode_ok r hm.1 hm.2.1 hm.2.2.1 hm.2.2.2 hsize
  | error r => exact decode_encode_error r hm.1 hm.2.1 hm.2.2

theorem encode_decode {b : Bytes} {m : Message} (h : Reads b m) :
    encode m = .ok b ↔ Kept b m := by
  obtain ⟨hsize, hm⟩ := h
  cases m with
  | request r =>
    obtain ⟨hlen, hbit, rfl⟩ := hm
    exact iff_of_true (encode_requestAt hsize hlen hbit) trivial
  | ok r =>
    obtain ⟨hlen, hbit, h5, rfl⟩ := hm
    rw [encode_okAt_iff hsize hlen hbit]
    show _ ↔ byteAt b 5 ≤ 1 ∧ _
    rw [show byteAt b 5 = 1 ↔ byteAt b 5 ≤ 1 by omega]
  | error r =>
    obtain ⟨hlen, hbit, h5, rfl⟩ := hm
    rw [encode_errorAt_iff hsize hlen hbit h5]
    show _ ↔ byteAt b 5 ≤ 1 ∧ _
    rw [h5]
    exact ⟨fun h => ⟨Nat.zero_le 1, h⟩, fun h => h.2⟩

theorem encode_large (m : Message) (hm : InRange m) (hsize : 2 ^ 32 ≤ size m) :
    encode m = .error .structError := by
  cases m with
  | request r =>
    have hlen : 2 ^ 32 ≤ 9 + r.params.length := hsize
    rw [encode_request r hm.1 hm.2.1 hm.2.2]
    apply frame_large
    simp
    omega
  | ok r =>
    have hlen : 2 ^ 32 ≤ 10 + r.ret.length := hsize
    rw [encode_ok r hm.1 hm.2.1 hm.2.2.1]
    apply frame_large
    simp
    omega
  | error r => exact absurd hsize (show ¬ 2 ^ 32 ≤ 10 by omega)

/-- **Framing.**  What fits its size word is read back as it was, and what is read is
    encoded as it came unless an answer has bits that are not kept. -/
theorem framing :
    (∀ m, InRange m → size m < 2 ^ 32 → ∃ b, encode m = .ok b ∧ decode b = .ok m) ∧
    (∀ m, InRange m → 2 ^ 32 ≤ size m → encode m = .error .structError) ∧
    ∀ b, (decode b = .error .valueError ∨ ∃ m, decode b = .ok m ∧ Reads b m) ∧
      ∀ m, decode b = .ok m → (encode m = .ok b ↔ Kept b m) := by
  refine ⟨decode_encode, encode_large, fun b => ⟨?_, ?_⟩⟩
  · rcases decode_cases b with h | ⟨m, hm⟩
    · exact .inl h
    · exact .inr ⟨m, hm, (decode_eq_ok_iff b m).mp hm⟩
  · intro m hm
    exact encode_decode ((decode_eq_ok_iff b m).mp hm)

/-- An answer to Register, there and back. -/
theorem framing_register :
    ∃ b, encode (.ok { proto := 11, method := 1, callId := 7, ret := [1, 0] }) = .ok b ∧
      decode b = .ok (.ok { proto := 11, method := 1, callId := 7, ret := [1, 0] }) :=
  framing.1 _ ⟨by decide, by decide, by decide, by decide⟩ (by decide)

theorem encode_params_large {params : Bytes} (h : params.length = 2 ^ 32) :
    InRange (.request { proto := 11, method := 1, callId := 7, params }) ∧
      encode (.request { proto := 11, method := 1, callId := 7, params }) =
        .error .structError := by
  have hrange : InRange (.request { proto := 11, method := 1, callId := 7, params }) :=
    ⟨show 11 < 128 by omega, show 7 < 2 ^ 32 by omega, show 1 < 2 ^ 32 by omega⟩
  refine ⟨hrange, encode_large _ hrange ?_⟩
  show 2 ^ 32 ≤ 9 + params.length
  omega

/-- Params of 2^32 bytes have no frame. -/
theorem params_too_large :
    InRange (.request { proto := 11, method := 1, callId := 7, params := List.replicate (2 ^ 32) 0 }) ∧
      encode (.request { proto := 11, method := 1, callId := 7
                         params := List.replicate (2 ^ 32) 0 }) = .error .structError :=
  encode_params_large List.length_replicate

end Rmc
end Ghostbusters
