import GhostbustersServer.Py.Text

/-!
# UTF-8 that was encoded is decoded

    utf8Step_encodeChar      one character is decoded from its own bytes
    decode_encode            so is a whole text, and nothing is replaced
    length_encode_decode     a byte string that was decoded and is encoded again: its
                             characters keep their bytes, each error takes three
-/

namespace Py

theorem toNat_byte {n : Nat} (h : n < 256) : (UInt8.ofNat n).toNat = n := by
  rw [UInt8.toNat_ofNat', Nat.mod_eq_of_lt h]

theorem isContinuation_iff (b : UInt8) : isContinuation b = true ↔ b.toNat / 64 = 2 := by
  unfold isContinuation
  exact beq_iff_eq

theorem secondOk_iff (lead second : UInt8) : secondOk lead second = true ↔
    second.toNat / 64 = 2 ∧ ¬ (lead.toNat = 0xE0 ∧ second.toNat < 0xA0) ∧
      ¬ (lead.toNat = 0xED ∧ 0xA0 ≤ second.toNat) ∧ ¬ (lead.toNat = 0xF0 ∧ second.toNat < 0x90) ∧
      ¬ (lead.toNat = 0xF4 ∧ 0x90 ≤ second.toNat) := by
  unfold secondOk
  simp only [Bool.and_eq_true, Bool.not_eq_true', Bool.and_eq_false_iff, beq_eq_false_iff_ne,
    decide_eq_false_iff_not, isContinuation_iff, ne_eq, ← UInt8.toNat_inj, UInt8.lt_iff_toNat_lt,
    UInt8.le_iff_toNat_le]
  simp only [show (0xE0 : UInt8).toNat = 0xE0 from rfl, show (0xED : UInt8).toNat = 0xED from rfl,
    show (0xF0 : UInt8).toNat = 0xF0 from rfl, show (0xF4 : UInt8).toNat = 0xF4 from rfl,
    show (0xA0 : UInt8).toNat = 0xA0 from rfl, show (0x90 : UInt8).toNat = 0x90 from rfl]
  omega

/-! ## One step, by the length of the sequence -/

section
variable {b b1 b2 b3 : UInt8} (rest : Bytes)

theorem not_ascii (h : 0x80 ≤ b.toNat) : ¬ b < 0x80 := fun hlt =>
  Nat.not_lt.mpr h (UInt8.lt_iff_toNat_lt.mp hlt)

theorem inRange_iff (lo hi : UInt8) :
    (decide (lo ≤ b) && decide (b ≤ hi)) = true ↔ lo.toNat ≤ b.toNat ∧ b.toNat ≤ hi.toNat := by
  rw [Bool.and_eq_true, decide_eq_true_eq, decide_eq_true_eq, UInt8.le_iff_toNat_le,
    UInt8.le_iff_toNat_le]

theorem utf8Step_one (h : b.toNat < 0x80) : utf8Step b rest = (Char.ofNat b.toNat, 1) := by
  unfold utf8Step
  exact if_pos (UInt8.lt_iff_toNat_lt.mpr h)

theorem utf8Step_two (hlo : 0xC2 ≤ b.toNat) (hhi : b.toNat ≤ 0xDF) (h1 : isContinuation b1 = true) :
    utf8Step b (b1 :: rest) = (Char.ofNat (b.toNat % 32 * 64 + low6 b1), 2) := by
  unfold utf8Step
  rw [if_neg (not_ascii (by omega)), if_pos ((inRange_iff 0xC2 0xDF).mpr ⟨hlo, hhi⟩)]
  exact if_pos h1

theorem utf8Step_three (hlo : 0xE0 ≤ b.toNat) (hhi : b.toNat ≤ 0xEF) (h1 : secondOk b b1 = true)
    (h2 : isContinuation b2 = true) : utf8Step b (b1 :: b2 :: rest) =
      (Char.ofNat (b.toNat % 16 * 4096 + low6 b1 * 64 + low6 b2), 3) := by
  have htwo : ¬ (b.toNat ≤ 0xDF) := by omega
  unfold utf8Step
  rw [if_neg (not_ascii (by omega)), if_neg fun h => htwo ((inRange_iff 0xC2 0xDF).mp h).2,
    if_pos ((inRange_iff 0xE0 0xEF).mpr ⟨hlo, hhi⟩)]
  simp only [h1, h2, Bool.not_true, Bool.false_eq_true, if_false, if_true]

theorem utf8Step_four (hlo : 0xF0 ≤ b.toNat) (hhi : b.toNat ≤ 0xF4) (h1 : secondOk b b1 = true)
    (h2 : isContinuation b2 = true) (h3 : isContinuation b3 = true) :
    utf8Step b (b1 :: b2 :: b3 :: rest) =
      (Char.ofNat (b.toNat % 8 * 262144 + low6 b1 * 4096 + low6 b2 * 64 + low6 b3), 4) := by
  have htwo : ¬ (b.toNat ≤ 0xDF) := by omega
  have hthree : ¬ (b.toNat ≤ 0xEF) := by omega
  unfold utf8Step
  rw [if_neg (not_ascii (by omega)), if_neg fun h => htwo ((inRange_iff 0xC2 0xDF).mp h).2,
    if_neg fun h => hthree ((inRange_iff 0xE0 0xEF).mp h).2,
    if_pos ((inRange_iff 0xF0 0xF4).mpr ⟨hlo, hhi⟩)]
  simp only [h1, h2, h3, Bool.not_true, Bool.false_eq_true, if_false, if_true]

end

/-! ## A text -/

/-- A scalar value: below the surrogates or above them. -/
theorem scalar (c : Char) : c.toNat < 0xD800 ∨ 0xDFFF < c.toNat ∧ c.toNat < 0x110000 := c.valid

/-- **A character** is decoded from its bytes, whatever follows. -/
theorem utf8Step_encodeChar (c : Char) (rest : Bytes) :
    ∃ b bytes, String.utf8EncodeChar c = b :: bytes ∧
      utf8Step b (bytes ++ rest) = (c, (b :: bytes).length) := by
  have hc := scalar c
  have hback : ∀ n, n = c.toNat → Char.ofNat n = c := by
    rintro n rfl
    exact Char.ofNat_toNat c
  have hcont : ∀ n, isContinuation (UInt8.ofNat (n % 0x40 + 0x80)) = true := by
    intro n
    rw [isContinuation_iff, toNat_byte (by omega)]
    omega
  have hlow : ∀ n, low6 (UInt8.ofNat (n % 0x40 + 0x80)) = n % 0x40 := by
    intro n
    unfold low6
    rw [toNat_byte (by omega)]
    omega
  unfold String.utf8EncodeChar
  simp only [show c.val.toNat = c.toNat from rfl]
  generalize c.toNat = v at hc hback
  split
  · next h =>
    refine ⟨_, _, rfl, (utf8Step_one _ ?_).trans ?_⟩
    · rw [toNat_byte (by omega)]
      omega
    · rw [toNat_byte (by omega), hback v rfl]
      rfl
  · split
    · next h1 h2 =>
      refine ⟨_, _, rfl, (utf8Step_two _ ?_ ?_ (hcont v)).trans ?_⟩
      · rw [toNat_byte (by omega)]
        omega
      · rw [toNat_byte (by omega)]
        omega
      · rw [toNat_byte (by omega), hlow, hback _ (by omega)]
        rfl
    · split
      · next h1 h2 h3 =>
        refine ⟨_, _, rfl, (utf8Step_three _ ?_ ?_ ?_ (hcont v)).trans ?_⟩
        · rw [toNat_byte (by omega)]
          omega
        · rw [toNat_byte (by omega)]
          omega
        · rw [secondOk_iff, toNat_byte (by omega), toNat_byte (by omega)]
          omega
        · rw [toNat_byte (by omega), hlow, hlow, hback _ (by omega)]
          rfl
      · next h1 h2 h3 =>
        refine ⟨_, _, rfl, (utf8Step_four _ ?_ ?_ ?_ (hcont (v / 64)) (hcont v)).trans ?_⟩
        · rw [toNat_byte (by omega)]
          omega
        · rw [toNat_byte (by omega)]
          omega
        · rw [secondOk_iff, toNat_byte (by omega), toNat_byte (by omega)]
          omega
        · rw [toNat_byte (by omega), hlow, hlow, hlow, hback _ (by omega)]
          rfl

/-- There is at least one byte for each character. -/
theorem utf8Loop_encode (s : Str) (n : Nat) (h : s.length ≤ n) : utf8Loop n (utf8Encode s) = s := by
  induction s generalizing n with
  | nil => cases n <;> rfl
  | cons c s ih =>
    obtain ⟨n, rfl⟩ : ∃ m, n = m + 1 := ⟨n - 1, by rw [List.length_cons] at h; omega⟩
    obtain ⟨b, bytes, hb, hstep⟩ := utf8Step_encodeChar c (utf8Encode s)
    have hcons : utf8Encode (c :: s) = b :: (bytes ++ utf8Encode s) := by
      show String.utf8EncodeChar c ++ utf8Encode s = _
      rw [hb]
      rfl
    rw [hcons]
    unfold utf8Loop
    rw [hstep, show b :: (bytes ++ utf8Encode s) = (b :: bytes) ++ utf8Encode s from rfl,
      List.drop_left, ih n (Nat.le_of_succ_le_succ h)]

theorem length_le_utf8Encode (s : Str) : s.length ≤ (utf8Encode s).length := by
  induction s with
  | nil => exact Nat.le_refl 0
  | cons c s ih =>
    have hc : 1 ≤ (String.utf8EncodeChar c).length := by
      rw [String.length_utf8EncodeChar]
      exact c.utf8Size_pos
    show _ ≤ (String.utf8EncodeChar c ++ utf8Encode s).length
    rw [List.length_append, List.length_cons]
    omega

/-- **What was encoded is decoded**, and nothing is replaced. -/
theorem decode_encode (s : Str) : utf8DecodeReplace (utf8Encode s) = s :=
  utf8Loop_encode s _ (length_le_utf8Encode s)

/-! ## Bytes that were decoded, encoded again -/

theorem utf8Size_eq_ite (c : Char) : c.utf8Size =
    if c.toNat ≤ 0x7F then 1 else if c.toNat ≤ 0x7FF then 2
      else if c.toNat ≤ 0xFFFF then 3 else 4 := rfl

theorem utf8Size_ofNat {v : Nat} (h : v < 0xD800 ∨ 0xDFFF < v ∧ v < 0x110000) :
    (Char.ofNat v).utf8Size =
      if v ≤ 0x7F then 1 else if v ≤ 0x7FF then 2 else if v ≤ 0xFFFF then 3 else 4 := by
  have hv : (Char.ofNat v).toNat = v := by
    unfold Char.ofNat
    rw [dif_pos h]
    rfl
  rw [utf8Size_eq_ite, hv]

/-- A step that replaces nothing takes the bytes of its character. -/
theorem utf8Step_size (b : UInt8) (rest : Bytes) : (utf8Step b rest).1 = replacementChar ∨
    (utf8Step b rest).1.utf8Size = (utf8Step b rest).2 := by
  have hlow : ∀ x, low6 x < 64 := fun x => Nat.mod_lt _ (by decide)
  fun_cases utf8Step b rest
  case case1 h =>
    have hb : b.toNat < 0x80 := UInt8.lt_iff_toNat_lt.mp h
    exact .inr (by rw [utf8Size_ofNat (by omega), if_pos (by omega)])
  case case2 _ h b1 _ _ =>
    have hb : 0xC2 ≤ b.toNat ∧ b.toNat ≤ 0xDF := (inRange_iff 0xC2 0xDF).mp h
    have h1 := hlow b1
    exact .inr (by rw [utf8Size_ofNat (by omega), if_neg (by omega), if_pos (by omega)])
  case case6 _ _ h b1 b2 _ hsecond _ =>
    have hb : 0xE0 ≤ b.toNat ∧ b.toNat ≤ 0xEF := (inRange_iff 0xE0 0xEF).mp h
    have h1 := (secondOk_iff b b1).mp (by simpa using hsecond)
    have h2 := hlow b2
    have hval : low6 b1 = b1.toNat % 64 := rfl
    exact .inr (by rw [utf8Size_ofNat (by omega), if_neg (by omega), if_neg (by omega),
      if_pos (by omega)])
  case case12 _ _ _ h b1 b2 b3 _ hsecond _ _ =>
    have hb : 0xF0 ≤ b.toNat ∧ b.toNat ≤ 0xF4 := (inRange_iff 0xF0 0xF4).mp h
    have h1 := (secondOk_iff b b1).mp (by simpa using hsecond)
    have h2 := hlow b2
    have h3 := hlow b3
    have hval : low6 b1 = b1.toNat % 64 := rfl
    exact .inr (by rw [utf8Size_ofNat (by omega), if_neg (by omega), if_neg (by omega),
      if_neg (by omega)])
  all_goals exact .inl rfl

/-- The bytes of a byte string when each of its errors is taken for three; `n` bounds the
number of characters. -/
def widenedLoop : Nat → Bytes → Nat
  | 0, _ => 0
  | _ + 1, [] => 0
  | n + 1, b :: rest =>
    (if (utf8Step b rest).1 = replacementChar then 3 else (utf8Step b rest).2) +
      widenedLoop n ((b :: rest).drop (utf8Step b rest).2)

def widened (b : Bytes) : Nat := widenedLoop b.length b

/-- A byte that is a character or an error by itself, over and over. -/
theorem widened_replicate {b : UInt8} {c : Char} (h : ∀ rest, utf8Step b rest = (c, 1)) (n : Nat) :
    widened (List.replicate n b) = n * if c = replacementChar then 3 else 1 := by
  have hloop : ∀ m, widenedLoop m (List.replicate m b) =
      m * if c = replacementChar then 3 else 1 := by
    intro m
    induction m with
    | zero => rw [Nat.zero_mul]; rfl
    | succ m ih =>
      rw [List.replicate_succ]
      unfold widenedLoop
      rw [h, List.drop_one, List.tail_cons, ih, Nat.succ_mul, Nat.add_comm]
  unfold widened
  rw [List.length_replicate, hloop]

theorem length_encode_loop (n : Nat) (b : Bytes) :
    (utf8Encode (utf8Loop n b)).length = widenedLoop n b := by
  induction n generalizing b with
  | zero => rfl
  | succ n ih =>
    cases b with
    | nil => rfl
    | cons b rest =>
      unfold utf8Loop widenedLoop
      rw [← ih]
      show (String.utf8EncodeChar _ ++ utf8Encode _).length = _
      rw [List.length_append, String.length_utf8EncodeChar]
      congr 1
      split
      · next h =>
        rw [h]
        rfl
      · next h => exact (utf8Step_size b rest).resolve_left h

/-- **Decoded and encoded again**: only an error changes how many bytes there are. -/
theorem length_encode_decode (b : Bytes) : (utf8Encode (utf8DecodeReplace b)).length = widened b :=
  length_encode_loop b.length b

end Py
