import GhostbustersServer.Py.Bytes

/-!
# Text

A Python `str` that holds no lone surrogate is a list of Unicode scalar values.

    utf8Encode s           s.encode("utf-8")
    utf8DecodeReplace b    b.decode("utf-8", errors="replace")
    latin1Decode b         b.decode("latin1")
    decimal n              str(n)
    parseInt s             int(s) (none: ValueError)
-/

namespace Py

abbrev Str := List Char

def utf8Encode (s : Str) : Bytes := s.flatMap String.utf8EncodeChar

def replacementChar : Char := Char.ofNat 0xFFFD

def isContinuation (b : UInt8) : Bool := b.toNat / 64 == 2

/-- The range the byte after a three- or four-byte lead must lie in, so that the
sequence is neither overlong, nor a surrogate, nor above U+10FFFF. -/
def secondOk (lead second : UInt8) : Bool :=
  isContinuation second &&
    !(lead == 0xE0 && second < 0xA0) && !(lead == 0xED && 0xA0 ≤ second) &&
    !(lead == 0xF0 && second < 0x90) && !(lead == 0xF4 && 0x90 ≤ second)

def low6 (b : UInt8) : Nat := b.toNat % 64

/-- Decodes one character or one replaced error: the character and the number of
bytes it takes.  A truncated or broken sequence is replaced up to the first byte
that cannot continue it. -/
def utf8Step (b : UInt8) (rest : Bytes) : Char × Nat :=
  if b < 0x80 then (Char.ofNat b.toNat, 1)
  else if 0xC2 ≤ b && b ≤ 0xDF then
    match rest with
    | b1 :: _ =>
      if isContinuation b1 then (Char.ofNat (b.toNat % 32 * 64 + low6 b1), 2)
      else (replacementChar, 1)
    | [] => (replacementChar, 1)
  else if 0xE0 ≤ b && b ≤ 0xEF then
    match rest with
    | b1 :: b2 :: _ =>
      if !secondOk b b1 then (replacementChar, 1)
      else if isContinuation b2 then
        (Char.ofNat (b.toNat % 16 * 4096 + low6 b1 * 64 + low6 b2), 3)
      else (replacementChar, 2)
    | [b1] => (replacementChar, if secondOk b b1 then 2 else 1)
    | [] => (replacementChar, 1)
  else if 0xF0 ≤ b && b ≤ 0xF4 then
    match rest with
    | b1 :: b2 :: b3 :: _ =>
      if !secondOk b b1 then (replacementChar, 1)
      else if !isContinuation b2 then (replacementChar, 2)
      else if isContinuation b3 then
        (Char.ofNat (b.toNat % 8 * 262144 + low6 b1 * 4096 + low6 b2 * 64 + low6 b3), 4)
      else (replacementChar, 3)
    | [b1, b2] =>
      (replacementChar, if !secondOk b b1 then 1 else if isContinuation b2 then 3 else 2)
    | [b1] => (replacementChar, if secondOk b b1 then 2 else 1)
    | [] => (replacementChar, 1)
  else (replacementChar, 1)

/-- `n` bounds the number of characters; one per byte is enough. -/
def utf8Loop : Nat → Bytes → Str
  | 0, _ => []
  | _ + 1, [] => []
  | n + 1, b :: rest =>
    (utf8Step b rest).1 :: utf8Loop n ((b :: rest).drop (utf8Step b rest).2)

def utf8DecodeReplace (b : Bytes) : Str := utf8Loop b.length b

def latin1Decode (b : Bytes) : Str := b.map fun x => Char.ofNat x.toNat

def decimal (n : Nat) : Str := Nat.toDigits 10 n

theorem decimal_inj {m n : Nat} (h : decimal m = decimal n) : m = n := by
  have hm : Nat.ofDigitChars 10 (decimal m) 0 = m := Nat.ofDigitChars_ten_toDigits
  rw [← hm, h]
  exact Nat.ofDigitChars_ten_toDigits

theorem isDigit_of_mem_decimal {n : Nat} {c : Char} (h : c ∈ decimal n) : c.isDigit :=
  Nat.isDigit_of_mem_toDigits (by decide) (by decide) h

/-- White space that `int` strips, among the characters below U+0100. -/
def isIntSpace (c : Char) : Bool :=
  (9 ≤ c.toNat && c.toNat ≤ 13) || c.toNat == 32 || c.toNat == 0x85 || c.toNat == 0xA0

/-- Digits, with single underscores allowed between two of them. -/
def parseDigits (acc : Nat) (afterDigit : Bool) : Str → Option Nat
  | [] => if afterDigit then some acc else none
  | c :: s =>
    if c.isDigit then parseDigits (acc * 10 + (c.toNat - 48)) true s
    else if c == '_' && afterDigit then parseDigits acc false s
    else none

/-- CPython refuses longer decimal strings. -/
def maxStrDigits : Nat := 4300

def parseNat (s : Str) : Option Nat :=
  if maxStrDigits < (s.filter Char.isDigit).length then none else parseDigits 0 false s

/-- `int(s)` of a text whose characters are below U+0100. -/
def parseInt (s : Str) : Option Int :=
  match (s.dropWhile isIntSpace).rdropWhile isIntSpace with
  | '-' :: t => (parseNat t).map fun n => -(n : Int)
  | '+' :: t => (parseNat t).map fun n => (n : Int)
  | t => (parseNat t).map fun n => (n : Int)

/-! ## ASCII and digits -/

theorem isDigit_bounds {c : Char} (h : c.isDigit) : 48 ≤ c.toNat ∧ c.toNat ≤ 57 := by
  unfold Char.isDigit at h
  simpa [Char.le_def, UInt32.le_iff_toNat_le] using h

theorem utf8Encode_ascii {s : Str} (h : ∀ c ∈ s, c.toNat < 128) :
    utf8Encode s = s.map fun c => UInt8.ofNat c.toNat := by
  induction s with
  | nil => rfl
  | cons c s ih =>
    have hc := h c List.mem_cons_self
    have henc : String.utf8EncodeChar c = [UInt8.ofNat c.toNat] := by
      unfold String.utf8EncodeChar
      exact if_pos (Nat.le_of_lt_succ hc)
    have hcons : utf8Encode (c :: s) = String.utf8EncodeChar c ++ utf8Encode s := rfl
    rw [hcons, henc, ih fun c' hc' => h c' (List.mem_cons_of_mem c hc')]
    rfl

theorem latin1Decode_ascii {s : Str} (h : ∀ c ∈ s, c.toNat < 128) :
    latin1Decode (utf8Encode s) = s := by
  rw [utf8Encode_ascii h]
  unfold latin1Decode
  rw [List.map_map]
  refine (List.map_congr_left fun c hc => ?_).trans (List.map_id s)
  have hlt : c.toNat < 256 := Nat.lt_trans (h c hc) (by decide)
  show Char.ofNat (UInt8.ofNat c.toNat).toNat = c
  rw [UInt8.toNat_ofNat', Nat.mod_eq_of_lt hlt, Char.ofNat_toNat]

theorem parseDigits_digits {s : Str} (h : ∀ c ∈ s, c.isDigit) (acc : Nat) :
    parseDigits acc true s = some (Nat.ofDigitChars 10 s acc) := by
  induction s generalizing acc with
  | nil => rfl
  | cons c s ih =>
    unfold parseDigits
    rw [if_pos (h c List.mem_cons_self), ih fun c' hc' => h c' (List.mem_cons_of_mem c hc'),
      Nat.ofDigitChars_cons, Nat.mul_comm]
    rfl

theorem parseNat_digits {s : Str} (hne : s ≠ []) (h : ∀ c ∈ s, c.isDigit)
    (hlen : s.length ≤ maxStrDigits) : parseNat s = some (Nat.ofDigitChars 10 s 0) := by
  obtain ⟨c, s, rfl⟩ := List.exists_cons_of_ne_nil hne
  unfold parseNat
  rw [List.filter_eq_self.mpr h, if_neg (Nat.not_lt.mpr hlen)]
  unfold parseDigits
  rw [if_pos (h c List.mem_cons_self), parseDigits_digits fun c' hc' => h c' (List.mem_cons_of_mem c hc'),
    Nat.ofDigitChars_cons]
  simp

theorem parseInt_digits {s : Str} (hne : s ≠ []) (h : ∀ c ∈ s, c.isDigit)
    (hlen : s.length ≤ maxStrDigits) : parseInt s = some (Nat.ofDigitChars 10 s 0 : Int) := by
  have hspace : ∀ c ∈ s, isIntSpace c = false := by
    intro c hc
    obtain ⟨hlo, hhi⟩ := isDigit_bounds (h c hc)
    unfold isIntSpace
    simp only [Bool.or_eq_false_iff, Bool.and_eq_false_iff, decide_eq_false_iff_not, beq_eq_false_iff_ne]
    omega
  have hstrip : (s.dropWhile isIntSpace).rdropWhile isIntSpace = s := by
    rw [List.dropWhile_eq_self_iff.mpr fun hlt => by simp [hspace _ (List.getElem_mem hlt)],
      List.rdropWhile_eq_self_iff]
    intro hne
    simp [hspace _ (List.getLast_mem hne)]
  have hsign : ∀ c t, s = c :: t → c ≠ '-' ∧ c ≠ '+' := by
    rintro c t rfl
    have hd := h c List.mem_cons_self
    constructor <;> rintro rfl <;> cases hd
  unfold parseInt
  rw [hstrip]
  split
  · exact absurd rfl (hsign _ _ rfl).1
  · exact absurd rfl (hsign _ _ rfl).2
  · rw [parseNat_digits hne h hlen]
    rfl

example : utf8DecodeReplace [0xE0, 0xA0, 0x41, 0xC3, 0xA9, 0xFF] =
    [replacementChar, 'A', 'é', replacementChar] := by decide

example : parseInt ("  -1_0 ".toList) = some (-10) ∧ parseInt ("1__0".toList) = none := by decide

end Py
