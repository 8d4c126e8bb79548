import Mathlib.Data.List.DropRight
import Mathlib.Tactic.Ring

/-!
# Byte strings

Slices and little-endian integers of a Python `bytes` object.

    leBytes n v          v.to_bytes(n, "little") for v < 256^n (else its low n bytes)
    ofLE b               int.from_bytes(b, "little")
    ofBE b               int.from_bytes(b, "big")
    unpackFrom n b off   struct.unpack_from of an n-byte integer
    pack n v             struct.pack of an n-byte integer

    ofLE (leBytes n v) = v % 256 ^ n                     (ofLE_leBytes)
    leBytes b.length (ofLE b) = b                        (leBytes_ofLE)
-/

namespace Py

/-- The exceptions that code under `try: ... except Exception` may see. -/
inductive Exc where
  | valueError
  | structError
  | overflowError
  | indexError
  | assertionError
  | databaseError
  | encodeError
  deriving DecidableEq, Repr

abbrev Bytes := List UInt8

/-- `b[i:j]`. -/
def slice (b : Bytes) (i j : Nat) : Bytes := (b.take j).drop i

/-- The low `n` bytes of `v`, least significant first. -/
def leBytes : Nat → Nat → Bytes
  | 0, _ => []
  | n + 1, v => UInt8.ofNat v :: leBytes n (v / 256)

def ofLE : Bytes → Nat
  | [] => 0
  | b :: bs => b.toNat + 256 * ofLE bs

def ofBE (b : Bytes) : Nat := ofLE b.reverse

@[simp] theorem leBytes_length (n v : Nat) : (leBytes n v).length = n := by
  induction n generalizing v with
  | zero => rfl
  | succ n ih => simp [leBytes, ih]

theorem ofLE_leBytes (n v : Nat) : ofLE (leBytes n v) = v % 256 ^ n := by
  induction n generalizing v with
  | zero => simp [leBytes, ofLE, Nat.mod_one]
  | succ n ih =>
    have hb : (UInt8.ofNat v).toNat = v % 256 := UInt8.toNat_ofNat'
    have hp : v % 256 ^ (n + 1) = v % 256 + 256 * (v / 256 % 256 ^ n) := by
      rw [Nat.pow_succ', Nat.mod_mul]
    simp only [leBytes, ofLE, ih, hb, hp]

theorem ofLE_leBytes_of_lt (n v : Nat) (h : v < 256 ^ n) : ofLE (leBytes n v) = v := by
  rw [ofLE_leBytes, Nat.mod_eq_of_lt h]

theorem ofLE_lt (b : Bytes) : ofLE b < 256 ^ b.length := by
  induction b with
  | nil => simp [ofLE]
  | cons x b ih =>
    simp only [ofLE, List.length_cons, Nat.pow_succ']
    have := x.toNat_lt
    omega

theorem leBytes_ofLE (b : Bytes) : leBytes b.length (ofLE b) = b := by
  induction b with
  | nil => rfl
  | cons x b ih =>
    have hx := x.toNat_lt
    simp only [List.length_cons, leBytes, ofLE]
    have h1 : UInt8.ofNat (x.toNat + 256 * ofLE b) = x := by
      apply UInt8.toNat_inj.mp
      rw [UInt8.toNat_ofNat']
      omega
    have h2 : (x.toNat + 256 * ofLE b) / 256 = ofLE b := by omega
    rw [h1, h2, ih]

/-- `struct.unpack_from` of one little-endian unsigned integer of `n` bytes. -/
def unpackFrom (n : Nat) (b : Bytes) (off : Nat) : Except Exc Nat :=
  if off + n ≤ b.length then .ok (ofLE (slice b off (off + n))) else .error .structError

/-- `struct.pack` of one little-endian unsigned integer of `n` bytes. -/
def pack (n v : Nat) : Except Exc Bytes :=
  if v < 256 ^ n then .ok (leBytes n v) else .error .structError

/-- `v.to_bytes(n, "little")`. -/
def toBytes (n v : Nat) : Except Exc Bytes :=
  if v < 256 ^ n then .ok (leBytes n v) else .error .overflowError

theorem unpackFrom_eq {n off v : Nat} {b : Bytes} (h : off + n ≤ b.length)
    (hv : ofLE (slice b off (off + n)) = v) : unpackFrom n b off = .ok v := by
  unfold unpackFrom
  rw [if_pos h, hv]

theorem unpackFrom_value {n off v : Nat} {b : Bytes} (h : unpackFrom n b off = .ok v) :
    ofLE (slice b off (off + n)) = v := by
  unfold unpackFrom at h
  split at h <;> cases h
  rfl

theorem toBytes_word {v : Nat} (h : v < 2 ^ 32) : toBytes 4 v = .ok (leBytes 4 v) := if_pos h

theorem toBytes_eq_ok {n v : Nat} {b : Bytes} :
    toBytes n v = .ok b ↔ v < 256 ^ n ∧ leBytes n v = b := by
  unfold toBytes
  split
  · next h => simp [h]
  · next h => simp [h]

theorem slice_length (b : Bytes) (i j : Nat) : (slice b i j).length = min j b.length - i := by
  simp [slice]

/-- Reading where an integer was written reads it back. -/
theorem unpackFrom_append (n v : Nat) (pre post : Bytes) (h : v < 256 ^ n) :
    unpackFrom n (pre ++ leBytes n v ++ post) pre.length = .ok v := by
  have hs : slice (pre ++ leBytes n v ++ post) pre.length (pre.length + n) = leBytes n v := by
    unfold slice
    rw [List.take_append_of_le_length (by simp), List.take_of_length_le (by simp),
      List.drop_left]
  unfold unpackFrom
  rw [if_pos (by simp), hs, ofLE_leBytes_of_lt n v h]

/-- The bytes between a prefix and a suffix. -/
theorem slice_append (pre mid post : Bytes) (n : Nat) (hn : n = mid.length) :
    slice (pre ++ mid ++ post) pre.length (pre.length + n) = mid := by
  subst hn
  unfold slice
  rw [List.take_append_of_le_length (by simp), List.take_of_length_le (by simp), List.drop_left]

theorem slice_between {b : Bytes} (pre mid post : Bytes) (i j : Nat) (hb : b = pre ++ mid ++ post)
    (hi : pre.length = i) (hj : i + mid.length = j) : slice b i j = mid := by
  subst hb hi hj
  exact slice_append pre mid post _ rfl

theorem slice_append_drop (b : Bytes) (i j : Nat) (h : i ≤ j) :
    slice b i j ++ b.drop j = b.drop i := by
  unfold slice
  rw [List.drop_take, show b.drop j = (b.drop i).drop (j - i) by
    rw [List.drop_drop, Nat.add_sub_cancel' h]]
  exact List.take_append_drop _ _

theorem slice_take (b : Bytes) (i j n : Nat) (h : j ≤ n) : slice (b.take n) i j = slice b i j := by
  unfold slice
  rw [List.take_take, min_eq_left h]

/-- A slice of a slice. -/
theorem slice_slice (b : Bytes) {i j m n : Nat} (h : i + n ≤ j) :
    slice (slice b i j) m n = slice b (i + m) (i + n) := by
  unfold slice
  rw [List.take_drop, List.take_take, min_eq_left h, List.drop_drop]

/-- A byte of a slice, as an integer. -/
theorem ofLE_byte (b : Bytes) {i j k : Nat} (h : i + k < j) (hj : j ≤ b.length) :
    ofLE (slice b (i + k) (i + k + 1)) = ((slice b i j).getD k 0).toNat := by
  have hk : i + k < b.length := Nat.lt_of_lt_of_le h hj
  have hget : (slice b i j)[k]? = some b[i + k] := by
    unfold slice
    rw [List.getElem?_drop, List.getElem?_take, if_pos h, List.getElem?_eq_getElem hk]
  have hone : slice b (i + k) (i + k + 1) = [b[i + k]] := by
    unfold slice
    rw [List.drop_take, Nat.add_sub_cancel_left, List.drop_eq_getElem_cons hk, List.take_succ_cons,
      List.take_zero]
  rw [hone, List.getD_eq_getElem?_getD, hget]
  rfl

/-- `b[off:off + len(d)] = d`, inside `b`. -/
def patch (b : Bytes) (off : Nat) (d : Bytes) : Bytes := b.take off ++ d ++ b.drop (off + d.length)

theorem patch_length {b d : Bytes} {off : Nat} (h : off + d.length ≤ b.length) :
    (patch b off d).length = b.length := by
  unfold patch
  simp only [List.length_append, List.length_take, List.length_drop]
  omega

/-- What has been patched in. -/
theorem slice_patch {b d : Bytes} {off : Nat} (h : off ≤ b.length) :
    slice (patch b off d) off (off + d.length) = d := by
  have hpre : (b.take off).length = off := by simp [h]
  unfold patch
  have hs := slice_append (b.take off) d (b.drop (off + d.length)) d.length rfl
  rwa [hpre] at hs

theorem slice_patch_before {b d : Bytes} {off i j : Nat} (hj : j ≤ off) (h : off ≤ b.length) :
    slice (patch b off d) i j = slice b i j := by
  have hpre : j ≤ (b.take off).length := by simp; omega
  unfold patch slice
  rw [List.append_assoc, List.take_append_of_le_length hpre, List.take_take, min_eq_left hj]

theorem slice_patch_after {b d : Bytes} {off i j : Nat} (hi : off + d.length ≤ i)
    (h : off + d.length ≤ b.length) : slice (patch b off d) i j = slice b i j := by
  have hpre : (b.take off ++ d).length = off + d.length := by simp; omega
  unfold patch slice
  rw [List.drop_take, List.drop_take, List.drop_append, hpre,
    List.drop_of_length_le (by rw [hpre]; exact hi), List.nil_append, List.drop_drop,
    Nat.add_sub_cancel' hi]

/-- A byte of a patched string. -/
theorem getElem?_patch {b d : Bytes} {off : Nat} (h : off + d.length ≤ b.length) (i : Nat) :
    (patch b off d)[i]? = if off ≤ i ∧ i < off + d.length then d[i - off]? else b[i]? := by
  have hpre : (b.take off).length = off := by
    rw [List.length_take]
    omega
  unfold patch
  rw [List.append_assoc, List.getElem?_append, hpre, List.getElem?_append]
  by_cases h1 : i < off
  · rw [if_pos h1, if_neg (by omega), List.getElem?_take, if_pos h1]
  · rw [if_neg h1]
    by_cases h2 : i - off < d.length
    · rw [if_pos h2, if_pos (by omega)]
    · rw [if_neg h2, if_neg (by omega), List.getElem?_drop]
      congr 1
      omega

/-- Strings with the same bytes in a range. -/
theorem slice_congr {a b : Bytes} {i j : Nat} (h : ∀ k, i ≤ k → k < j → a[k]? = b[k]?) :
    slice a i j = slice b i j := by
  apply List.ext_getElem?
  intro k
  unfold slice
  rw [List.getElem?_drop, List.getElem?_drop, List.getElem?_take, List.getElem?_take]
  by_cases hk : i + k < j
  · rw [if_pos hk, if_pos hk, h (i + k) (by omega) hk]
  · rw [if_neg hk, if_neg hk]

/-- `b.rstrip(b"\x00")`. -/
def rstripNul (b : Bytes) : Bytes := b.rdropWhile (· == 0)

theorem rstripNul_append {b : Bytes} (h : ∀ x ∈ b, x ≠ 0) (k : Nat) :
    rstripNul (b ++ List.replicate k 0) = b := by
  unfold rstripNul
  induction k with
  | zero =>
    rw [List.replicate_zero, List.append_nil, List.rdropWhile_eq_self_iff]
    intro hne
    simpa using h _ (List.getLast_mem hne)
  | succ k ih =>
    rw [List.replicate_succ', ← List.append_assoc, List.rdropWhile_concat_pos _ _ _ rfl]
    exact ih

end Py
