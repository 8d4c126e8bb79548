import GhostbustersServer.Protocols.GameStats

/-!
# Reading a SparkStats list

The reader is what a client does with a reply, every count believed and nothing left over:

    readList (wU32 n ++ entries) = some entries          (readList_entries)

and the database's blob of a career is the career, padded or cut to 122 slots:

    unpackVec0 (packVec0 v) = fitVec0 v                  (unpackVec0_packVec0)
-/

namespace Ghostbusters

open Py

namespace SparkStats

/-- The next `n` bytes. -/
def readBytes (n : Nat) (b : Bytes) : Option (Bytes × Bytes) :=
  if n ≤ b.length then some (b.take n, b.drop n) else none

def readInt (n : Nat) (b : Bytes) : Option (Nat × Bytes) :=
  (readBytes n b).map fun r => (ofLE r.1, r.2)

def readFloats : Nat → Bytes → Option (List F32 × Bytes)
  | 0, b => some ([], b)
  | n + 1, b => do
    let (x, b) ← readInt 4 b
    let (xs, b) ← readFloats n b
    return (UInt32.ofNat x :: xs, b)

/-- A counted vector. -/
def readVec (b : Bytes) : Option (List F32 × Bytes) := do
  let (n, b) ← readInt 4 b
  readFloats n b

structure Entry where
  pid : Nat
  vec0 : List F32
  vec1 : List F32
  vec2 : List F32
  deriving DecidableEq, Repr

/-- `[u32 pid][qString name][u32 h2]` and three vectors. -/
def readEntry (b : Bytes) : Option (Entry × Bytes) := do
  let (pid, b) ← readInt 4 b
  let (nlen, b) ← readInt 2 b
  let (_, b) ← readBytes nlen b
  let (_, b) ← readInt 4 b
  let (vec0, b) ← readVec b
  let (vec1, b) ← readVec b
  let (vec2, b) ← readVec b
  return ({ pid, vec0, vec1, vec2 }, b)

def readEntries : Nat → Bytes → Option (List Entry × Bytes)
  | 0, b => some ([], b)
  | n + 1, b => do
    let (e, b) ← readEntry b
    let (es, b) ← readEntries n b
    return (e :: es, b)

def readList (b : Bytes) : Option (List Entry) := do
  let (n, b) ← readInt 4 b
  let (es, b) ← readEntries n b
  if b = [] then some es else none

/-! ## Round trips -/

theorem readBytes_append (a rest : Bytes) : readBytes a.length (a ++ rest) = some (a, rest) := by
  unfold readBytes
  rw [if_pos (by simp), List.take_left, List.drop_left]

theorem readInt_append (n v : Nat) (rest : Bytes) (h : v < 256 ^ n) :
    readInt n (leBytes n v ++ rest) = some (v, rest) := by
  have hb := readBytes_append (leBytes n v) rest
  rw [leBytes_length] at hb
  unfold readInt
  rw [hb, Option.map_some, ofLE_leBytes_of_lt n v h]

theorem readInt_wU32 (v : Nat) (rest : Bytes) (h : v < 2 ^ 32) :
    readInt 4 (wU32 v ++ rest) = some (v, rest) := by
  unfold wU32
  rw [Nat.mod_eq_of_lt h]
  exact readInt_append 4 v rest (by omega)

theorem readInt_wU16 (v : Nat) (rest : Bytes) (h : v < 2 ^ 16) :
    readInt 2 (wU16 v ++ rest) = some (v, rest) := by
  unfold wU16
  rw [Nat.mod_eq_of_lt h]
  exact readInt_append 2 v rest (by omega)

theorem readFloats_append (xs : List F32) (rest : Bytes) :
    readFloats xs.length (xs.flatMap Career.packF32 ++ rest) = some (xs, rest) := by
  induction xs with
  | nil => rfl
  | cons x xs ih =>
    have hx : readInt 4 (Career.packF32 x ++ (xs.flatMap Career.packF32 ++ rest)) =
        some (x.toNat, xs.flatMap Career.packF32 ++ rest) :=
      readInt_append 4 x.toNat _ x.toNat_lt
    rw [List.length_cons, List.flatMap_cons, List.append_assoc]
    simp only [readFloats, hx, ih, Option.bind_eq_bind, Option.bind_some, UInt32.ofNat_toNat]
    rfl

/-- The first `n` slots of a slot function. -/
def slots (n : Nat) (slot : Nat → F32) : List F32 := (List.range n).map slot

theorem getElem?_slots (n : Nat) (slot : Nat → F32) (i : Nat) (h : i < n) :
    (slots n slot)[i]? = some (slot i) := by
  simp [slots, h]

theorem readVec_wVec (n : Nat) (slot : Nat → F32) (rest : Bytes) (h : n < 2 ^ 32) :
    readVec (Notification.wVec n slot ++ rest) = some (slots n slot, rest) := by
  have hflat : (List.range n).flatMap (fun i => Career.packF32 (slot i)) =
      (slots n slot).flatMap Career.packF32 := by
    unfold slots
    rw [List.flatMap_map]
  have hf := readFloats_append (slots n slot) rest
  rw [show (slots n slot).length = n by simp [slots]] at hf
  unfold Notification.wVec readVec
  rw [List.append_assoc, readInt_wU32 n _ h, hflat]
  exact hf

/-- A name of at most 65534 bytes is skipped. -/
theorem readName (s : Str) (rest : Bytes) (h : (utf8Encode s).length + 1 < 2 ^ 16) :
    (do let (nlen, b) ← readInt 2 (wQstring s ++ rest); readBytes nlen b) =
      some (utf8Encode s ++ [0], rest) := by
  have hlen : (utf8Encode s ++ [0]).length < 2 ^ 16 := by
    rw [List.length_append]
    exact h
  unfold wQstring
  rw [List.append_assoc, readInt_wU16 _ _ hlen]
  exact readBytes_append _ rest

/-! ## The entries of a reply -/

theorem utf8Encode_length_le (s : Str) : (utf8Encode s).length ≤ 4 * s.length := by
  induction s with
  | nil => exact Nat.le_refl 0
  | cons c s ih =>
    have hc : (String.utf8EncodeChar c).length ≤ 4 := by
      rw [String.length_utf8EncodeChar]
      exact c.utf8Size_le_four
    show (String.utf8EncodeChar c ++ utf8Encode s).length ≤ _
    rw [List.length_append, List.length_cons]
    omega

theorem decimal_length_le (n k : Nat) (h : n < 10 ^ k) (hk : 0 < k) : (decimal n).length ≤ k :=
  Nat.length_toDigits_le_iff (by omega) hk |>.mpr h

/-- The name that stands for an empty one is short. -/
theorem pidName_length (pid : Nat) (h : pid < 2 ^ 32) :
    (utf8Encode ("PID".toList ++ decimal pid)).length + 1 < 2 ^ 16 := by
  have h1 := utf8Encode_length_le ("PID".toList ++ decimal pid)
  have h2 := decimal_length_le pid 10 (by omega) (by omega)
  rw [List.length_append] at h1
  have h3 : "PID".toList.length = 3 := rfl
  omega

/-- What an m9 reply holds of a player whose vec1 is `slot`. -/
def served (pid : Nat) (slot : Nat → F32) : Entry where
  pid := pid
  vec0 := slots Game.vec0Len Game.noSlots
  vec1 := slots Game.vec1Len slot
  vec2 := []

theorem readEntry_sparkstatsEntry (pid : Nat) (slot0 slot1 : Nat → F32) (txn : Nat) (rest : Bytes)
    (h : pid < 2 ^ 32) : readEntry (Game.sparkstatsEntry pid slot0 slot1 txn 0 [] ++ rest) =
      some ({ served pid slot1 with vec0 := slots Game.vec0Len slot0 }, rest) := by
  have hname := readName ("PID".toList ++ decimal pid)
    (wU32 txn ++ (Notification.wVec Game.vec0Len slot0 ++
      (Notification.wVec Game.vec1Len slot1 ++ (Notification.wVec 0 Game.noSlots ++ rest))))
    (pidName_length pid h)
  have htxn : ∀ b, readInt 4 (wU32 txn ++ b) = some (txn % 2 ^ 32, b) :=
    fun b => readInt_append 4 _ b (Nat.mod_lt _ (Nat.two_pow_pos 32))
  have hv0 : ∀ b, readVec (Notification.wVec Game.vec0Len slot0 ++ b) =
      some (slots Game.vec0Len slot0, b) := fun b => readVec_wVec _ _ b (by decide)
  have hv1 : ∀ b, readVec (Notification.wVec Game.vec1Len slot1 ++ b) =
      some (slots Game.vec1Len slot1, b) := fun b => readVec_wVec _ _ b (by decide)
  have hv2 : ∀ b, readVec (Notification.wVec 0 Game.noSlots ++ b) = some ([], b) :=
    fun b => readVec_wVec _ _ b (by decide)
  unfold Game.sparkstatsEntry readEntry
  simp only [if_pos, List.append_assoc, readInt_wU32 pid _ h, Option.bind_eq_bind,
    Option.bind_some] at hname ⊢
  cases hn : readInt 2 (wQstring ("PID".toList ++ decimal pid) ++
      (wU32 txn ++ (Notification.wVec Game.vec0Len slot0 ++
        (Notification.wVec Game.vec1Len slot1 ++ (Notification.wVec 0 Game.noSlots ++ rest))))) with
  | none =>
    rw [hn] at hname
    cases hname
  | some r =>
    obtain ⟨nlen, b⟩ := r
    rw [hn] at hname
    simp only [Option.bind_some] at hname ⊢
    rw [hname]
    simp only [Option.bind_some, htxn, hv0, hv1, hv2]
    rfl

theorem readEntries_append (slotsOf : Nat → Nat → F32) (pids : List Nat)
    (h : ∀ pid ∈ pids, pid < 2 ^ 32) (rest : Bytes) :
    readEntries pids.length ((pids.map fun pid =>
        Game.sparkstatsEntry pid Game.noSlots (slotsOf pid) 0 0 []).flatten ++ rest) =
      some (pids.map fun pid => served pid (slotsOf pid), rest) := by
  induction pids with
  | nil => rfl
  | cons pid pids ih =>
    have he := readEntry_sparkstatsEntry pid Game.noSlots (slotsOf pid) 0
      ((pids.map fun pid => Game.sparkstatsEntry pid Game.noSlots (slotsOf pid) 0 0 []).flatten ++ rest)
      (h pid List.mem_cons_self)
    have hes := ih fun p hp => h p (List.mem_cons_of_mem _ hp)
    rw [List.map_cons, List.flatten_cons, List.append_assoc, List.length_cons]
    simp only [readEntries, he, hes, Option.bind_eq_bind, Option.bind_some]
    rfl

/-- The reply to an upload, read back. -/
theorem readList_reply {pid : Nat} (baseline total : F32) (txn : Nat) (h : pid < 2 ^ 32) :
    readList (Game.buildSparkstatsReply pid baseline total txn) =
      some [{ served pid (fun i => if i = 10 then total else 0) with
        vec0 := slots Game.vec0Len fun i => if i = 5 then baseline else 0 }] := by
  have he := readEntry_sparkstatsEntry pid (fun i => if i = 5 then baseline else 0)
    (fun i => if i = 10 then total else 0) txn [] h
  rw [List.append_nil] at he
  unfold Game.buildSparkstatsReply readList
  rw [readInt_wU32 _ _ (by decide)]
  simp only [readEntries, he, Option.bind_eq_bind, Option.bind_some]
  rfl

/-- **A reply is read back**, one entry for each player asked for. -/
theorem readList_entries (slotsOf : Nat → Nat → F32) (pids : List Nat)
    (hn : pids.length < 2 ^ 32) (h : ∀ pid ∈ pids, pid < 2 ^ 32) :
    readList (wU32 pids.length ++ (pids.map fun pid =>
        Game.sparkstatsEntry pid Game.noSlots (slotsOf pid) 0 0 []).flatten) =
      some (pids.map fun pid => served pid (slotsOf pid)) := by
  have hes := readEntries_append slotsOf pids h []
  rw [List.append_nil] at hes
  unfold readList
  rw [readInt_wU32 _ _ hn]
  simp only [Option.bind_eq_bind, Option.bind_some, hes]
  rfl

/-! ## The players of a request -/

theorem length_pidsFrom_le (p : Bytes) (count off : Nat) :
    (Game.pidsFrom p count off).length ≤ count := by
  induction count generalizing off with
  | zero => exact Nat.le_refl 0
  | succ count ih =>
    unfold Game.pidsFrom
    split
    · exact Nat.zero_le _
    · rw [List.length_cons]
      exact Nat.succ_le_succ (ih _)

theorem ofLE_slice_lt (b : Bytes) (i : Nat) : ofLE (slice b i (i + 4)) < 2 ^ 32 := by
  have h := ofLE_lt (slice b i (i + 4))
  have hlen : (slice b i (i + 4)).length ≤ 4 := by
    rw [slice_length]
    omega
  calc ofLE (slice b i (i + 4)) < 256 ^ (slice b i (i + 4)).length := h
    _ ≤ 256 ^ 4 := Nat.pow_le_pow_right (by omega) hlen
    _ = 2 ^ 32 := by norm_num

theorem mem_pidsFrom_lt (p : Bytes) (count off pid : Nat) (h : pid ∈ Game.pidsFrom p count off) :
    pid < 2 ^ 32 := by
  induction count generalizing off with
  | zero => cases h
  | succ count ih =>
    unfold Game.pidsFrom at h
    split at h
    · cases h
    · rcases List.mem_cons.mp h with rfl | h
      · exact ofLE_slice_lt p off
      · exact ih _ h

theorem parseM9Pids_lt (p : Bytes) :
    (Game.parseM9Pids p).length < 2 ^ 32 ∧ ∀ pid ∈ Game.parseM9Pids p, pid < 2 ^ 32 := by
  unfold Game.parseM9Pids
  split
  · exact ⟨Nat.two_pow_pos 32, by simp⟩
  · constructor
    · have h1 := List.length_filter_le (fun x => decide (x ≠ 0)) (Game.pidsFrom p (ofLE (slice p 4 8)) 8)
      have h2 := length_pidsFrom_le p (ofLE (slice p 4 8)) 8
      have h3 : ofLE (slice p 4 8) < 2 ^ 32 := ofLE_slice_lt p 4
      omega
    · intro pid hm
      exact mem_pidsFrom_lt p _ 8 pid (List.mem_filter.mp hm).1

/-! ## The blob of a career -/

theorem length_flatMap_packF32 (xs : List F32) :
    (xs.flatMap Career.packF32).length = 4 * xs.length := by
  induction xs with
  | nil => rfl
  | cons x xs ih =>
    rw [List.flatMap_cons, List.length_append, ih, List.length_cons]
    show (leBytes 4 x.toNat).length + 4 * xs.length = 4 * (xs.length + 1)
    rw [leBytes_length]
    omega

theorem slice_flatMap_packF32 (xs : List F32) (i : Nat) (h : i < xs.length) :
    slice (xs.flatMap Career.packF32) (4 * i) (4 * i + 4) = Career.packF32 xs[i] := by
  have hsplit : xs.flatMap Career.packF32 = (xs.take i).flatMap Career.packF32 ++
      Career.packF32 xs[i] ++ (xs.drop (i + 1)).flatMap Career.packF32 := by
    conv_lhs => rw [← List.take_append_drop i xs, List.drop_eq_getElem_cons h]
    rw [List.flatMap_append, List.flatMap_cons, List.append_assoc]
  have hpre : ((xs.take i).flatMap Career.packF32).length = 4 * i := by
    rw [length_flatMap_packF32, List.length_take]
    omega
  rw [hsplit, ← hpre]
  exact slice_append _ _ _ 4 rfl

theorem floatsAt_flatMap_packF32 (xs : List F32) :
    Career.floatsAt (xs.flatMap Career.packF32) 0 xs.length = xs := by
  apply List.ext_getElem
  · simp [Career.floatsAt]
  · intro i h1 h2
    have hx : ofLE (Career.packF32 xs[i]) = xs[i].toNat :=
      ofLE_leBytes_of_lt 4 _ xs[i].toNat_lt
    simp only [Career.floatsAt, List.getElem_map, List.getElem_range, Nat.zero_add,
      slice_flatMap_packF32 xs i h2, hx, UInt32.ofNat_toNat]

theorem fitVec0_length (v : List F32) : (Career.fitVec0 v).length = Career.vec0Len := by
  unfold Career.fitVec0
  rw [List.length_append, List.length_take, List.length_replicate]
  omega

theorem packVec0_length (v : List F32) : (Career.packVec0 v).length = 4 * Career.vec0Len := by
  unfold Career.packVec0
  rw [length_flatMap_packF32, fitVec0_length]

/-- **What is stored is read back.** -/
theorem unpackVec0_packVec0 (v : List F32) :
    Career.unpackVec0 (Career.packVec0 v) = Career.fitVec0 v := by
  have hn : (Career.packVec0 v).length / 4 = (Career.fitVec0 v).length := by
    rw [packVec0_length, fitVec0_length]
    omega
  unfold Career.unpackVec0
  rw [hn]
  exact floatsAt_flatMap_packF32 _

end SparkStats
end Ghostbusters
