import Mathlib.Data.Nat.Log
import Mathlib.Tactic.Ring

/-!
# Single-precision floats by their bit patterns

A float that was read by `struct` code `f` is kept as its 32 bits.

    trunc x     int(x): towards zero (none: NaN and infinities raise)
    ofInt n     the float nearest to n, ties to even

Truncation is exact: `ofInt` of a truncated float truncates to the same integer
(trunc_ofInt_trunc), and so does that of an integer of 24 bits (trunc_ofInt_of_le).
Floats without a sign are ordered as their bits (toNat_le_iff_units).
-/

namespace Py

abbrev F32 := UInt32

namespace F32

def negative (x : F32) : Bool := x.toNat / 2 ^ 31 == 1

def exponent (x : F32) : Nat := x.toNat / 2 ^ 23 % 2 ^ 8

def fraction (x : F32) : Nat := x.toNat % 2 ^ 23

def isNaN (x : F32) : Bool := exponent x == 255 && fraction x != 0

/-- `0 < x`: neither NaN, nor zero, nor negative. -/
def isPositive (x : F32) : Bool := !negative x && !isNaN x && x.toNat != 0

/-- The integer part of a magnitude with exponent field `e` and fraction `f`.
A field below 150 has its binary point inside the significand. -/
def truncMag (e f : Nat) : Nat :=
  if e = 0 then 0
  else if 150 ≤ e then (2 ^ 23 + f) * 2 ^ (e - 150)
  else (2 ^ 23 + f) / 2 ^ (150 - e)

def trunc (x : F32) : Option Int :=
  if exponent x = 255 then none
  else
    let m : Int := truncMag (exponent x) (fraction x)
    some (if negative x then -m else m)

/-- The bits, without sign, of the float nearest to `m`: the 24 leading bits,
rounded to even, under the exponent of the leading one. -/
def magOfNat (m : Nat) : Nat :=
  if m = 0 then 0
  else
    let e := Nat.log 2 m
    if e ≤ 23 then (e + 127) * 2 ^ 23 + (m * 2 ^ (23 - e) - 2 ^ 23)
    else
      let q := m / 2 ^ (e - 23)
      let r := m % 2 ^ (e - 23)
      let up := 2 ^ (e - 23) < 2 * r ∨ (2 * r = 2 ^ (e - 23) ∧ q % 2 = 1)
      (e + 127) * 2 ^ 23 + ((if up then q + 1 else q) - 2 ^ 23)

def ofInt (n : Int) : F32 :=
  UInt32.ofNat (magOfNat n.natAbs + if n < 0 then 2 ^ 31 else 0)

example : ofInt 1002 = 0x447A8000 ∧ trunc 0xC0FE0000 = some (-7) ∧ ofInt 16777217 = ofInt 16777216 := by
  decide

/-! ## Truncation is exact -/

/-- The fields of a bit pattern put together from its fields. -/
theorem fields_ofNat (s e f : Nat) (hs : s < 2) (he : e < 256) (hf : f < 2 ^ 23) :
    (UInt32.ofNat (e * 2 ^ 23 + f + s * 2 ^ 31)).toNat = e * 2 ^ 23 + f + s * 2 ^ 31 := by
  rw [UInt32.toNat_ofNat']
  apply Nat.mod_eq_of_lt
  omega

theorem magOfNat_of_lt (m : Nat) (hm : 0 < m) (h : m < 2 ^ 24) :
    ∃ e f, magOfNat m = e * 2 ^ 23 + f ∧ 0 < e ∧ e < 151 ∧ f < 2 ^ 23 ∧ truncMag e f = m := by
  have hlog : Nat.log 2 m ≤ 23 := by
    have := Nat.log_lt_of_lt_pow (b := 2) (by omega) h
    omega
  have hlo : 2 ^ Nat.log 2 m ≤ m := Nat.pow_log_le_self 2 (by omega)
  have hhi : m < 2 ^ (Nat.log 2 m + 1) := Nat.lt_pow_succ_log_self (by omega) m
  generalize hL : Nat.log 2 m = L at *
  have hsplit : 2 ^ L * 2 ^ (23 - L) = 2 ^ 23 := by
    rw [← Nat.pow_add]; congr 1; omega
  have hlow : 2 ^ 23 ≤ m * 2 ^ (23 - L) := by
    rw [← hsplit]; exact Nat.mul_le_mul_right _ hlo
  have hhigh : m * 2 ^ (23 - L) < 2 ^ 24 := by
    have : m * 2 ^ (23 - L) < 2 ^ (L + 1) * 2 ^ (23 - L) :=
      Nat.mul_lt_mul_of_pos_right hhi (Nat.pow_pos (by omega))
    have e : 2 ^ (L + 1) * 2 ^ (23 - L) = 2 ^ 24 := by
      rw [← Nat.pow_add]; congr 1; omega
    omega
  refine ⟨L + 127, m * 2 ^ (23 - L) - 2 ^ 23, ?_, by omega, by omega, by omega, ?_⟩
  · unfold magOfNat
    simp only [hL]
    rw [if_neg (by omega), if_pos hlog]
  · unfold truncMag
    have hback : 2 ^ 23 + (m * 2 ^ (23 - L) - 2 ^ 23) = m * 2 ^ (23 - L) := by omega
    rw [if_neg (by omega), hback]
    by_cases h23 : L = 23
    · subst h23; simp
    · rw [if_neg (by omega)]
      have : 150 - (L + 127) = 23 - L := by omega
      rw [this]
      exact Nat.mul_div_cancel _ (Nat.pow_pos (by omega))

theorem magOfNat_of_shift (k s : Nat) (hk : 2 ^ 23 ≤ k) (hk2 : k < 2 ^ 24) :
    magOfNat (k * 2 ^ s) = (s + 150) * 2 ^ 23 + (k - 2 ^ 23) := by
  have hpos : 0 < k * 2 ^ s := Nat.mul_pos (by omega) (Nat.pow_pos (by omega))
  have hlog : Nat.log 2 (k * 2 ^ s) = s + 23 := by
    apply (Nat.log_eq_iff (by omega)).mpr
    constructor
    · rw [Nat.pow_add, Nat.mul_comm]; exact Nat.mul_le_mul_right _ hk
    · have e : 2 ^ (s + 23 + 1) = 2 ^ 24 * 2 ^ s := by
        rw [← Nat.pow_add]; congr 1; omega
      rw [e]; exact Nat.mul_lt_mul_of_pos_right hk2 (Nat.pow_pos (by omega))
  unfold magOfNat
  simp only [hlog]
  rw [if_neg (by omega)]
  by_cases hs : s = 0
  · subst hs
    simp
  · have e1 : s + 23 - 23 = s := by omega
    have e2 : s + 23 + 127 = s + 150 := by omega
    rw [if_neg (by omega), e1, e2, Nat.mul_div_cancel _ (Nat.pow_pos (by omega)),
      Nat.mul_mod_left]
    have : ¬ (2 ^ s < 2 * 0 ∨ 2 * 0 = 2 ^ s ∧ k % 2 = 1) := by
      have : 0 < 2 ^ s := Nat.pow_pos (by omega)
      omega
    rw [if_neg this]

/-- The magnitude of a truncated float is a float. -/
theorem truncMag_representable (e f : Nat) (he : e < 255) (hf : f < 2 ^ 23) :
    ∃ e' f', magOfNat (truncMag e f) = e' * 2 ^ 23 + f' ∧ e' < 255 ∧ f' < 2 ^ 23 ∧
      truncMag e' f' = truncMag e f := by
  by_cases h0 : truncMag e f = 0
  · exact ⟨0, 0, by rw [h0]; rfl, by omega, by omega, by rw [h0]; rfl⟩
  · unfold truncMag at h0 ⊢
    by_cases he0 : e = 0
    · rw [if_pos he0] at h0; exact absurd rfl h0
    · rw [if_neg he0] at h0 ⊢
      by_cases h150 : 150 ≤ e
      · rw [if_pos h150]
        refine ⟨e, f, ?_, he, hf, by rw [if_neg he0, if_pos h150]⟩
        rw [magOfNat_of_shift _ _ (by omega) (by omega)]
        have : e - 150 + 150 = e := by omega
        rw [this, Nat.add_sub_cancel_left]
      · rw [if_neg h150] at h0 ⊢
        have hlt : (2 ^ 23 + f) / 2 ^ (150 - e) < 2 ^ 24 :=
          Nat.lt_of_le_of_lt (Nat.div_le_self _ _) (by omega)
        obtain ⟨e', f', h1, -, h3, h4, h5⟩ := magOfNat_of_lt _ (Nat.pos_of_ne_zero h0) hlt
        exact ⟨e', f', h1, by omega, h4, h5⟩

theorem trunc_ofNat (s e f : Nat) (hs : s < 2) (he : e < 255) (hf : f < 2 ^ 23) :
    trunc (UInt32.ofNat (e * 2 ^ 23 + f + s * 2 ^ 31)) =
      some (if s = 1 then -(truncMag e f : Int) else truncMag e f) := by
  have hb := fields_ofNat s e f hs (by omega) hf
  have h1 : exponent (UInt32.ofNat (e * 2 ^ 23 + f + s * 2 ^ 31)) = e := by
    unfold exponent; rw [hb]; omega
  have h2 : fraction (UInt32.ofNat (e * 2 ^ 23 + f + s * 2 ^ 31)) = f := by
    unfold fraction; rw [hb]; omega
  have h3 : negative (UInt32.ofNat (e * 2 ^ 23 + f + s * 2 ^ 31)) = decide (s = 1) := by
    have hd : (e * 2 ^ 23 + f + s * 2 ^ 31) / 2 ^ 31 = s := by omega
    unfold negative
    rw [hb, hd]
    by_cases h : s = 1 <;> simp [h]
  unfold trunc
  rw [h1, h2, h3, if_neg (by omega)]
  by_cases h : s = 1 <;> simp [h]

/-- **Truncation is exact.** -/
theorem trunc_ofInt_trunc (x : F32) (n : Int) (h : trunc x = some n) :
    trunc (ofInt n) = some n := by
  unfold trunc at h
  split at h
  · cases h
  · next hne =>
    have he : exponent x < 255 := by
      have : exponent x < 2 ^ 8 := Nat.mod_lt _ (by omega)
      omega
    have hf : fraction x < 2 ^ 23 := Nat.mod_lt _ (by omega)
    obtain ⟨e', f', h1, h2, h3, h4⟩ := truncMag_representable _ _ he hf
    have hn : n.natAbs = truncMag (exponent x) (fraction x) := by
      have := Option.some.inj h
      split at this <;> omega
    unfold ofInt
    rw [hn, h1]
    by_cases hneg : n < 0
    · have := trunc_ofNat 1 e' f' (by omega) h2 h3
      rw [if_pos rfl, h4, ← hn] at this
      rw [if_pos hneg]
      have e1 : e' * 2 ^ 23 + f' + 2 ^ 31 = e' * 2 ^ 23 + f' + 1 * 2 ^ 31 := by omega
      rw [e1, this]
      congr 1; omega
    · have := trunc_ofNat 0 e' f' (by omega) h2 h3
      rw [if_neg (by omega), h4, ← hn] at this
      rw [if_neg hneg]
      have e1 : e' * 2 ^ 23 + f' + 0 = e' * 2 ^ 23 + f' + 0 * 2 ^ 31 := by omega
      rw [e1, this]
      congr 1; omega

/-! ## Exact integers, and order -/

/-- Integers of at most 24 bits are floats. -/
theorem trunc_ofInt_of_le (n : Nat) (h : n ≤ 2 ^ 24) : trunc (ofInt n) = some n := by
  rcases Nat.lt_or_eq_of_le h with hlt | rfl
  · rcases Nat.eq_zero_or_pos n with rfl | hpos
    · decide
    · obtain ⟨e, f, hm, -, he, hf, ht⟩ := magOfNat_of_lt n hpos hlt
      have hbits : ofInt n = UInt32.ofNat (e * 2 ^ 23 + f + 0 * 2 ^ 31) := by
        unfold ofInt
        rw [if_neg (by omega), Int.natAbs_natCast, hm, Nat.zero_mul]
      rw [hbits, trunc_ofNat 0 e f (by omega) (by omega) hf, if_neg (by omega), ht]
      rfl
  · decide

/-- The magnitude in units of 2^-149; infinity is above every finite one. -/
def units (x : F32) : Nat :=
  if exponent x = 0 then fraction x else (2 ^ 23 + fraction x) * 2 ^ (exponent x - 1)

theorem units_lt {x y : F32} (h : x.toNat % 2 ^ 31 < y.toNat % 2 ^ 31) : units x < units y := by
  have hfields : ∀ z : F32, z.toNat % 2 ^ 31 = exponent z * 2 ^ 23 + fraction z ∧ fraction z < 2 ^ 23 := by
    intro z
    unfold exponent fraction
    omega
  obtain ⟨hx, hfx⟩ := hfields x
  obtain ⟨hy, hfy⟩ := hfields y
  unfold units
  generalize exponent x = e, fraction x = f, exponent y = e', fraction y = f' at *
  have hlex : e < e' ∨ e = e' ∧ f < f' := by omega
  rcases hlex with he | ⟨rfl, hf⟩
  · have hpow : 2 ^ 23 * 2 ^ (e' - 1) ≤ (2 ^ 23 + f') * 2 ^ (e' - 1) :=
      Nat.mul_le_mul_right _ (Nat.le_add_right _ _)
    rw [if_neg (show e' ≠ 0 by omega)]
    split
    · have hone : 1 ≤ 2 ^ (e' - 1) := Nat.one_le_two_pow
      omega
    · have hstep : 2 ^ (e - 1) * 2 ≤ 2 ^ (e' - 1) := by
        rw [← Nat.pow_succ]
        exact Nat.pow_le_pow_right (by omega) (by omega)
      calc (2 ^ 23 + f) * 2 ^ (e - 1) < (2 ^ 23 * 2) * 2 ^ (e - 1) :=
            Nat.mul_lt_mul_of_pos_right (by omega) (Nat.two_pow_pos _)
        _ = 2 ^ 23 * (2 ^ (e - 1) * 2) := by rw [Nat.mul_assoc, Nat.mul_comm 2]
        _ ≤ 2 ^ 23 * 2 ^ (e' - 1) := Nat.mul_le_mul_left _ hstep
        _ ≤ (2 ^ 23 + f') * 2 ^ (e' - 1) := hpow
  · split
    · exact hf
    · exact Nat.mul_lt_mul_of_pos_right (by omega) (Nat.two_pow_pos _)

/-- Floats without a sign are ordered as their bits. -/
theorem toNat_le_iff_units {x y : F32} (hx : negative x = false) (hy : negative y = false) :
    x.toNat ≤ y.toNat ↔ units x ≤ units y := by
  have hbits : ∀ z : F32, negative z = false → z.toNat % 2 ^ 31 = z.toNat := by
    intro z hz
    have hlt := z.toNat_lt
    unfold negative at hz
    rw [beq_eq_false_iff_ne] at hz
    omega
  have hux := hbits x hx
  have huy := hbits y hy
  constructor
  · intro hle
    rcases Nat.lt_or_eq_of_le hle with hlt | heq
    · exact (units_lt (by omega)).le
    · rw [UInt32.toNat_inj.mp heq]
  · intro hle
    by_contra hlt
    exact absurd (units_lt (show y.toNat % 2 ^ 31 < x.toNat % 2 ^ 31 by omega)) (Nat.not_lt.mpr hle)

end F32
end Py
