import GhostbustersServer.Guarantees.Entries

/-!
# The two parsers of an upload read the same entry

Each parser unpacks one vector of an entry and passes over the others, so each checks other
bounds.  The count behind a vector that was passed over has to be there, so the bounds come
to the same.

    entry_eq_ok       an entry is read exactly when it is there up to the count of its vec2
    parseSender_eq    a parser is the search for the first entry of the PID, then a vector of it
    counted_le        it begins no more entries than the bytes can hold, and one
-/

namespace Ghostbusters

open Py

namespace Parsers

section
variable (b : Bytes)

def u32 (off : Nat) : Nat := ofLE (slice b off (off + 4))

/-! ## The layout of an entry -/

/-- Where the counts of the three vectors stand: behind PID, name and counter, and each
behind the vector before it. -/
def vec0At (off : Nat) : Nat := off + 4 + 2 + ofLE (slice b (off + 4) (off + 4 + 2)) + 4

def vec1At (off : Nat) : Nat := vec0At b off + 4 + 4 * u32 b (vec0At b off)

def vec2At (off : Nat) : Nat := vec1At b off + 4 + 4 * u32 b (vec1At b off)

def endAt (off : Nat) : Nat := vec2At b off + 4 + 4 * u32 b (vec2At b off)

/-- The entry is within the bytes, up to and including its vec2 count. -/
def Laid (off : Nat) : Prop := vec2At b off + 4 ≤ b.length

instance (off : Nat) : Decidable (Laid b off) := inferInstanceAs (Decidable (_ ≤ _))

def countAt (which : Game.Which) (off : Nat) : Nat :=
  match which with
  | .vec0 => vec0At b off
  | .vec1 => vec1At b off

/-- The vector of the entry at `off`. -/
def vec (which : Game.Which) (off : Nat) : List F32 :=
  Career.floatsAt b (countAt b which off + 4) (u32 b (countAt b which off))

/-- The offset of each entry. -/
def entryAt : Nat → Nat
  | 0 => 12
  | k + 1 => endAt b (entryAt k)

/-- Entry `k`, of `n` that are declared, is the first of the PID. -/
structure First (pid n k : Nat) : Prop where
  lt : k < n
  laid : ∀ j ≤ k, Laid b (entryAt b j)
  inside : ∀ j < k, entryAt b (j + 1) ≤ b.length
  others : ∀ j < k, u32 b (entryAt b j) ≠ pid
  pid : u32 b (entryAt b k) = pid

variable {b}

theorem add_le_endAt (off : Nat) : off + 22 ≤ endAt b off := by
  unfold endAt vec2At vec1At vec0At
  omega

theorem Laid.add_le {off : Nat} (h : Laid b off) : off + 22 ≤ b.length := by
  unfold Laid vec2At vec1At vec0At at h
  omega

/-! ## One entry -/

theorem readVec_eq_ok {unpack : Bool} {off off' : Nat} {v : List F32} :
    Game.readVec unpack b off = .ok (v, off') ↔ off + 4 ≤ b.length ∧
      (unpack = true → off + 4 + 4 * u32 b off ≤ b.length) ∧
      v = (if unpack then Career.floatsAt b (off + 4) (u32 b off) else []) ∧
      off' = off + 4 + 4 * u32 b off := by
  rw [Entries.readVec_eq, Cursor.bind_eq_ok]
  constructor
  · rintro ⟨n, mid, hint, hfl⟩
    obtain ⟨hlen, rfl, rfl⟩ := Cursor.int_eq_ok.mp hint
    refine ⟨hlen, ?_⟩
    unfold Entries.floats Game.unpackFloats at hfl
    cases unpack with
    | false =>
      cases hfl
      exact ⟨fun h => (nomatch h), rfl, rfl⟩
    | true =>
      rw [if_pos rfl] at hfl
      split at hfl
      · next hin =>
        cases hfl
        exact ⟨fun _ => hin, rfl, rfl⟩
      · cases hfl
  · rintro ⟨hlen, hin, rfl, rfl⟩
    refine ⟨_, _, Cursor.int_eq_ok.mpr ⟨hlen, rfl, rfl⟩, ?_⟩
    unfold Entries.floats Game.unpackFloats
    cases unpack with
    | false => rfl
    | true =>
      have hlen' : off + 4 + 4 * ofLE (slice b off (off + 4)) ≤ b.length := hin rfl
      rw [if_pos rfl, if_pos hlen']
      rfl

/-- **One entry**, for either parser. -/
theorem entry_eq_ok {which : Game.Which} {off : Nat} {r : (Nat × List F32) × Nat} :
    Entries.entry which b off = .ok r ↔
      Laid b off ∧ r = ((u32 b off, vec b which off), endAt b off) := by
  unfold Entries.entry
  constructor
  · intro h
    obtain ⟨pid, o1, h1, h⟩ := Cursor.bind_eq_ok.mp h
    obtain ⟨nlen, o2, h2, h⟩ := Cursor.bind_eq_ok.mp h
    obtain ⟨-, rfl, rfl⟩ := Cursor.int_eq_ok.mp h1
    obtain ⟨-, rfl, rfl⟩ := Cursor.int_eq_ok.mp h2
    obtain ⟨u, o3, h3, h⟩ := Cursor.bind_eq_ok.mp h
    obtain ⟨u', o4, h4, h⟩ := Cursor.bind_eq_ok.mp h
    cases h3
    cases h4
    obtain ⟨v0, o5, h5, h⟩ := Cursor.bind_eq_ok.mp h
    obtain ⟨v1, o6, h6, h⟩ := Cursor.bind_eq_ok.mp h
    obtain ⟨v2, o7, h7, h⟩ := Cursor.bind_eq_ok.mp h
    obtain ⟨-, -, rfl, rfl⟩ := readVec_eq_ok.mp h5
    obtain ⟨-, -, rfl, rfl⟩ := readVec_eq_ok.mp h6
    obtain ⟨hlaid, -, -, rfl⟩ := readVec_eq_ok.mp h7
    cases h
    refine ⟨hlaid, ?_⟩
    cases which <;> rfl
  · rintro ⟨hlaid, rfl⟩
    have hlen : vec2At b off + 4 ≤ b.length := hlaid
    have h22 := hlaid.add_le
    have h12 : vec1At b off + 4 + 4 * u32 b (vec1At b off) = vec2At b off := rfl
    have h01 : vec0At b off + 4 + 4 * u32 b (vec0At b off) = vec1At b off := rfl
    refine Cursor.bind_eq_ok.mpr ⟨_, _, Cursor.int_eq_ok.mpr ⟨by omega, rfl, rfl⟩, ?_⟩
    refine Cursor.bind_eq_ok.mpr ⟨_, _, Cursor.int_eq_ok.mpr ⟨by omega, rfl, rfl⟩, ?_⟩
    refine Cursor.bind_eq_ok.mpr ⟨_, _, rfl, Cursor.bind_eq_ok.mpr ⟨_, vec0At b off, rfl, ?_⟩⟩
    refine Cursor.bind_eq_ok.mpr ⟨_, vec1At b off, readVec_eq_ok.mpr
      ⟨by omega, fun _ => by omega, rfl, rfl⟩, ?_⟩
    refine Cursor.bind_eq_ok.mpr ⟨_, vec2At b off, readVec_eq_ok.mpr
      ⟨by omega, fun _ => by omega, rfl, rfl⟩, ?_⟩
    refine Cursor.bind_eq_ok.mpr ⟨_, endAt b off, readVec_eq_ok.mpr
      ⟨hlen, fun h => (nomatch h), rfl, rfl⟩, ?_⟩
    cases which <;> rfl

theorem entry_error (which : Game.Which) {off : Nat} (h : ¬ Laid b off) :
    ∃ e, Entries.entry which b off = .error e := by
  cases he : Entries.entry which b off with
  | error e => exact ⟨e, rfl⟩
  | ok r => exact absurd (entry_eq_ok.mp he).1 h

/-! ## The search -/

/-- The first entry of the PID among the `n` from `off` on. -/
def senderAt (b : Bytes) (pid : Nat) : Nat → Nat → Option Nat
  | 0, _ => none
  | n + 1, off =>
    if Laid b off then
      if u32 b off = pid then some off else senderAt b pid n (endAt b off)
    else none

theorem walk_eq (which : Game.Which) (pid n off : Nat) :
    (match Game.walk which b pid n off with | .ok v => v | .error _ => none) =
      (senderAt b pid n off).map (vec b which) := by
  induction n generalizing off with
  | zero => rfl
  | succ n ih =>
    rw [Entries.walk_succ, senderAt]
    by_cases hl : Laid b off
    · rw [if_pos hl, entry_eq_ok.mpr ⟨hl, rfl⟩]
      show (match (if u32 b off = pid then .ok (some (vec b which off))
        else Game.walk which b pid n (endAt b off) : Except Exc (Option (List F32))) with
        | .ok v => v | .error _ => none) = _
      by_cases hp : u32 b off = pid
      · rw [if_pos hp, if_pos hp]
        rfl
      · rw [if_neg hp, if_neg hp]
        exact ih (endAt b off)
    · obtain ⟨e, he⟩ := entry_error which hl
      rw [if_neg hl, he]
      rfl

/-- **A parser** is the search, and then the vector it is after. -/
theorem parseSender_eq (which : Game.Which) (pid : Nat) : Game.parseSender which b pid =
    if 12 ≤ b.length then (senderAt b pid (u32 b 8) 12).map (vec b which) else none := by
  unfold Game.parseSender unpackFrom
  by_cases h : 12 ≤ b.length
  · rw [if_pos h, if_pos h]
    exact walk_eq which pid (u32 b 8) 12
  · rw [if_neg h, if_neg h]
    rfl

/-- What the search finds, if the entries before entry `j` are not of the PID. -/
theorem senderAt_eq_some {pid n off j : Nat} (hlaid : ∀ i < j, Laid b (entryAt b i))
    (hothers : ∀ i < j, u32 b (entryAt b i) ≠ pid)
    (h : senderAt b pid n (entryAt b j) = some off) :
    ∃ k, First b pid (j + n) k ∧ off = entryAt b k := by
  induction n generalizing j with
  | zero => cases h
  | succ n ih =>
    rw [senderAt] at h
    split at h
    · next hl =>
      have hlaid' : ∀ i < j + 1, Laid b (entryAt b i) := by
        intro i hi
        rcases Nat.lt_succ_iff_lt_or_eq.mp hi with hi | rfl
        · exact hlaid i hi
        · exact hl
      split at h
      · next hp =>
        cases h
        refine ⟨j, ⟨by omega, fun i hi => hlaid' i (by omega), ?_, hothers, hp⟩, rfl⟩
        intro i hi
        have := (hlaid' (i + 1) (by omega)).add_le
        omega
      · next hp =>
        have hothers' : ∀ i < j + 1, u32 b (entryAt b i) ≠ pid := by
          intro i hi
          rcases Nat.lt_succ_iff_lt_or_eq.mp hi with hi | rfl
          · exact hothers i hi
          · exact hp
        obtain ⟨k, hk, hoff⟩ := ih hlaid' hothers' h
        rw [Nat.add_right_comm] at hk
        exact ⟨k, hk, hoff⟩
    · cases h

/-! ## The loop -/

/-- The loop of a parser, with the number of entries that it has begun. -/
def counted (which : Game.Which) (b : Bytes) (pid : Nat) :
    Nat → Nat → Except Exc (Option (List F32)) × Nat
  | 0, _ => (.ok none, 0)
  | n + 1, off =>
    match Entries.entry which b off with
    | .error e => (.error e, 1)
    | .ok (e, off) =>
      if e.1 = pid then (.ok (some e.2), 1)
      else ((counted which b pid n off).1, (counted which b pid n off).2 + 1)

theorem counted_fst (which : Game.Which) (pid n off : Nat) :
    (counted which b pid n off).1 = Game.walk which b pid n off := by
  induction n generalizing off with
  | zero => rfl
  | succ n ih =>
    rw [Entries.walk_succ, counted]
    cases Entries.entry which b off with
    | error e => rfl
    | ok r =>
      show (if r.1.1 = pid then (Except.ok (some r.1.2), 1) else
        ((counted which b pid n r.2).1, (counted which b pid n r.2).2 + 1)).1 = if r.1.1 = pid then _ else _
      split
      · rfl
      · exact ih r.2

/-- **Every entry but the last** takes 22 bytes or more. -/
theorem counted_le (which : Game.Which) (pid n off : Nat) :
    (counted which b pid n off).2 ≤ (b.length - off) / 22 + 1 := by
  induction n generalizing off with
  | zero => exact Nat.zero_le _
  | succ n ih =>
    rw [counted]
    cases he : Entries.entry which b off with
    | error e => exact Nat.le_add_left 1 _
    | ok r =>
      obtain ⟨hl, rfl⟩ := entry_eq_ok.mp he
      have hin := hl.add_le
      have hend : off + 22 ≤ endAt b off := add_le_endAt off
      have hrest := ih (endAt b off)
      show (if u32 b off = pid then (Except.ok (some (vec b which off)), 1) else
        ((counted which b pid n (endAt b off)).1, (counted which b pid n (endAt b off)).2 + 1)).2 ≤ _
      split
      · exact Nat.le_add_left 1 _
      · show (counted which b pid n (endAt b off)).2 + 1 ≤ _
        omega

end
end Parsers

open Parsers

/-- **Both parsers read the same entry**, the first of the PID, or both read none.  Each
begins `len / 22 + 1` entries at most, whatever number is declared. -/
theorem parsers_agree (b : Bytes) (pid : Nat) :
    (Game.parseM12SenderVec0 b pid = none ↔ Game.parseM12SenderVec1 b pid = none) ∧
    (∀ v0 v1, Game.parseM12SenderVec0 b pid = some v0 → Game.parseM12SenderVec1 b pid = some v1 →
      ∃ k, First b pid (u32 b 8) k ∧
        v0 = vec b .vec0 (entryAt b k) ∧ v0.length = u32 b (vec0At b (entryAt b k)) ∧
        v1 = vec b .vec1 (entryAt b k) ∧ v1.length = u32 b (vec1At b (entryAt b k))) ∧
    ∀ which n, (counted which b pid n 12).1 = Game.walk which b pid n 12 ∧
      (counted which b pid n 12).2 ≤ b.length / 22 + 1 := by
  have h0 : Game.parseM12SenderVec0 b pid = _ := parseSender_eq .vec0 pid
  have h1 : Game.parseM12SenderVec1 b pid = _ := parseSender_eq .vec1 pid
  rw [h0, h1]
  refine ⟨?_, ?_, fun which n => ⟨counted_fst which pid n 12, ?_⟩⟩
  · split
    · rw [Option.map_eq_none_iff, Option.map_eq_none_iff]
    · rfl
  · intro v0 v1 hv0 hv1
    split at hv0
    · next hlen =>
      rw [if_pos hlen] at hv1
      obtain ⟨off, hoff, rfl⟩ := Option.map_eq_some_iff.mp hv0
      rw [hoff] at hv1
      cases hv1
      obtain ⟨k, hk, rfl⟩ := senderAt_eq_some (j := 0) (fun i hi => by omega)
        (fun i hi => by omega) hoff
      rw [Nat.zero_add] at hk
      have hlength : ∀ which, (vec b which (entryAt b k)).length = u32 b (countAt b which (entryAt b k)) := by
        intro which
        unfold vec Career.floatsAt
        rw [List.length_map, List.length_range]
      exact ⟨k, hk, rfl, hlength .vec0, rfl, hlength .vec1⟩
    · cases hv0
  · have := counted_le (b := b) which pid n 12
    omega

end Ghostbusters
