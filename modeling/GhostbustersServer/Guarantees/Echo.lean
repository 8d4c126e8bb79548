import GhostbustersServer.Protocols.Session
import GhostbustersServer.Py.Utf8

/-!
# Strings that are echoed

A client's qString is kept as text and written into what other clients are sent.  The
writer keeps the length modulo 65536, and the reader believes the length.

    qstring_run           the bytes of a qString are read as text, wherever they stand
    roundTrip_iff         a text is read back when with its NUL it fits the length
    echoed_iff            what is read of a client, alone or with the suffix of its
                          registration, when the bytes it sent leave room for it
-/

namespace Ghostbusters

open Py Act

namespace Echo

/-- A text that is written between `pre` and `post` is read back, and the reader stands at
`post`. -/
def RoundTrip (s : Str) (pre post : Bytes) : Prop :=
  Reader.qstring.run ⟨pre ++ wQstring s ++ post, pre.length⟩ =
    (.ok s, ⟨pre ++ wQstring s ++ post, (pre ++ wQstring s).length⟩)

/-- The longest text a qString has room for. -/
def maxText : Nat := 65534

/-! ## Reading -/

theorem ofLE_wU16 (v : Nat) : ofLE (wU16 v) = v % 2 ^ 16 := by
  unfold wU16
  rw [ofLE_leBytes, Nat.mod_eq_of_lt]
  exact Nat.mod_lt _ (by decide)

theorem take_run (pre mid post : Bytes) (n : Nat) (h : mid.length = n) :
    (Reader.take n).run ⟨pre ++ mid ++ post, pre.length⟩ =
      (.ok mid, ⟨pre ++ mid ++ post, pre.length + n⟩) := by
  have hfit : ¬ (pre ++ mid ++ post).length < pre.length + n := by
    simp only [List.length_append]
    omega
  unfold Reader.take
  rw [run_get_bind]
  dsimp only
  rw [if_neg hfit, run_modify_bind, run_pure]
  dsimp only
  rw [slice_append pre mid post n h.symm]

/-- **A qString** is read as text, wherever it stands. -/
theorem qstring_run (pre raw post : Bytes) {n : Nat} (hn : n % 2 ^ 16 = raw.length) :
    Reader.qstring.run ⟨pre ++ (wU16 n ++ raw) ++ post, pre.length⟩ =
      (.ok (utf8DecodeReplace (Reader.dropNul raw)),
        ⟨pre ++ (wU16 n ++ raw) ++ post, pre.length + 2 + raw.length⟩) := by
  have hword := take_run pre (wU16 n) (raw ++ post) 2 (wU16_length n)
  have hraw := take_run (pre ++ wU16 n) raw post raw.length rfl
  rw [List.length_append, wU16_length] at hraw
  have hdata : pre ++ (wU16 n ++ raw) ++ post = pre ++ wU16 n ++ (raw ++ post) := by
    simp only [List.append_assoc]
  have hdata' : pre ++ wU16 n ++ raw ++ post = pre ++ wU16 n ++ (raw ++ post) :=
    List.append_assoc _ _ _
  rw [hdata'] at hraw
  rw [hdata]
  have hu16 : Reader.u16.run ⟨pre ++ wU16 n ++ (raw ++ post), pre.length⟩ =
      (.ok raw.length, ⟨pre ++ wU16 n ++ (raw ++ post), pre.length + 2⟩) := by
    unfold Reader.u16
    rw [run_bind_ok hword, run_pure, ofLE_wU16, hn]
  unfold Reader.qstring
  rw [run_bind_ok hu16, run_bind_ok hraw, run_pure]

theorem dropNul_nul (raw : Bytes) : Reader.dropNul (raw ++ [0]) = raw := by
  unfold Reader.dropNul
  rw [List.getLast?_append, if_pos (by rfl), List.dropLast_concat]

/-! ## Reading back -/

theorem wQstring_eq (s : Str) : wQstring s =
    wU16 ((utf8Encode s).length + 1) ++ (utf8Encode s ++ [0]) := by
  rw [← List.length_singleton , ← List.length_append]
  rfl

theorem length_wQstring (s : Str) : (wQstring s).length = 2 + ((utf8Encode s).length + 1) := by
  rw [wQstring_eq, List.length_append, wU16_length, List.length_append, List.length_singleton]

/-- A reader stops as many bytes short of the suffix as the length has wrapped. -/
theorem qstring_echo_offset (s : Str) (pre post : Bytes) :
    (Reader.qstring.after ⟨pre ++ wQstring s ++ post, pre.length⟩).offset =
      pre.length + 2 + ((utf8Encode s).length + 1) % 2 ^ 16 := by
  have hle := Nat.mod_le ((utf8Encode s).length + 1) (2 ^ 16)
  generalize hn : ((utf8Encode s).length + 1) % 2 ^ 16 = n at hle
  have hcut : ((utf8Encode s ++ [0]).take n).length = n := by
    rw [List.length_take, List.length_append, List.length_singleton, min_eq_left hle]
  have hrun := qstring_run pre ((utf8Encode s ++ [0]).take n)
    ((utf8Encode s ++ [0]).drop n ++ post) (hn.trans hcut.symm)
  have hdata : pre ++ (wU16 ((utf8Encode s).length + 1) ++ (utf8Encode s ++ [0]).take n) ++
      ((utf8Encode s ++ [0]).drop n ++ post) = pre ++ wQstring s ++ post := by
    rw [wQstring_eq, ← List.append_assoc _ _ post, List.append_assoc pre, List.append_assoc (wU16 _),
      List.take_append_drop]
  rw [hdata, hcut] at hrun
  unfold Act.after
  rw [hrun]

/-- **A text is read back** exactly when its length has not wrapped. -/
theorem roundTrip_iff (s : Str) (pre post : Bytes) :
    RoundTrip s pre post ↔ (utf8Encode s).length ≤ maxText := by
  unfold RoundTrip maxText
  constructor
  · intro h
    have hoff := qstring_echo_offset s pre post
    unfold Act.after at hoff
    rw [h, List.length_append, length_wQstring] at hoff
    dsimp only at hoff
    omega
  · intro h
    have hn : ((utf8Encode s).length + 1) % 2 ^ 16 = (utf8Encode s ++ [0]).length := by
      rw [Nat.mod_eq_of_lt (by omega), List.length_append, List.length_singleton]
    have hrun := qstring_run pre (utf8Encode s ++ [0]) post hn
    rw [← wQstring_eq, dropNul_nul, decode_encode] at hrun
    have hend : pre.length + 2 + (utf8Encode s ++ [0]).length = (pre ++ wQstring s).length := by
      rw [List.length_append, List.length_append, length_wQstring, List.length_singleton,
        Nat.add_assoc]
    rw [hrun, hend]

/-! ## What a client has sent -/

theorem length_withRvcid (s : Str) (cid : Nat) :
    (utf8Encode (SecureConnection.withRvcid s cid)).length =
      (utf8Encode s).length + (7 + (decimal cid).length) := by
  have happ : ∀ a b : Str, utf8Encode (a ++ b) = utf8Encode a ++ utf8Encode b := fun a b =>
    List.flatMap_append
  have hdigits : ∀ c ∈ decimal cid, c.toNat < 128 := fun c hc =>
    Nat.lt_of_le_of_lt (isDigit_bounds (isDigit_of_mem_decimal hc)).2 (by decide)
  unfold SecureConnection.withRvcid
  rw [happ, happ, List.length_append, List.length_append, utf8Encode_ascii hdigits, List.length_map,
    show (utf8Encode ";RVCID=".toList).length = 7 from by decide, Nat.add_assoc]

/-- **An echoed string**, as the client sent it, with the suffix of its registration, and as
`register_ex` keeps it. -/
theorem echoed_iff (raw pre post : Bytes) (h : raw.length < 2 ^ 16) :
    ∃ s r, Reader.qstring.run ⟨pre ++ (wU16 raw.length ++ raw) ++ post, pre.length⟩ = (.ok s, r) ∧
      (∀ pre' post', RoundTrip s pre' post' ↔ widened (Reader.dropNul raw) ≤ maxText) ∧
      (∀ cid pre' post', RoundTrip (SecureConnection.withRvcid s cid) pre' post' ↔
        widened (Reader.dropNul raw) + (7 + (decimal cid).length) ≤ maxText) ∧
      ∀ cid pre' post',
        RoundTrip (SecureConnection.withRvcid (SecureConnection.stripSid s) cid) pre' post' ↔
          (utf8Encode (SecureConnection.stripSid s)).length + (7 + (decimal cid).length) ≤
            maxText := by
  refine ⟨_, _, qstring_run pre raw post (Nat.mod_eq_of_lt h), fun pre' post' => ?_,
    fun cid pre' post' => ?_, fun cid pre' post' => ?_⟩
  · rw [roundTrip_iff, length_encode_decode]
  · rw [roundTrip_iff, length_withRvcid, length_encode_decode]
  · rw [roundTrip_iff, length_withRvcid]

/-- 21845 bytes that are no UTF-8, and a NUL. -/
def errors : Bytes := List.replicate 21845 0xFF ++ [0]

/-- As long a text as a qString has room for. -/
def longest : Bytes := List.replicate 65534 97 ++ [0]

theorem widened_errors : widened (Reader.dropNul errors) = 65535 := by
  unfold errors
  rw [dropNul_nul, @widened_replicate _ replacementChar fun rest => rfl]
  rfl

theorem widened_longest : widened (Reader.dropNul longest) = 65534 := by
  unfold longest
  rw [dropNul_nul, @widened_replicate _ 'a' fun rest => rfl]
  rfl

theorem length_errors : errors.length = 21846 := by
  unfold errors
  rw [List.length_append, List.length_replicate, List.length_singleton]

theorem length_longest : longest.length = 65535 := by
  unfold longest
  rw [List.length_append, List.length_replicate, List.length_singleton]

theorem echoed_iff_name : ∃ s r, Reader.qstring.run
    ⟨[] ++ (wU16 (utf8Encode "player".toList).length ++ utf8Encode "player".toList) ++ [], 0⟩ =
      (.ok s, r) ∧ ∀ pre post, RoundTrip s pre post := by
  obtain ⟨s, r, hrun, hback, -⟩ := echoed_iff (utf8Encode "player".toList) [] [] (by decide)
  exact ⟨s, r, hrun, fun pre post => (hback pre post).mpr (by decide)⟩

/-- A text of replacement characters is lost, and so is a longest text with its suffix. -/
theorem echo_wrapped :
    (∃ s r, Reader.qstring.run ⟨[] ++ (wU16 errors.length ++ errors) ++ [], 0⟩ = (.ok s, r) ∧
      ¬ RoundTrip s [] []) ∧
    ∃ s r, Reader.qstring.run ⟨[] ++ (wU16 longest.length ++ longest) ++ [], 0⟩ = (.ok s, r) ∧
      ¬ RoundTrip (SecureConnection.withRvcid s 1) [] [] := by
  constructor
  · refine ⟨_, _, qstring_run [] errors [] (Nat.mod_eq_of_lt (by rw [length_errors]; decide)), ?_⟩
    rw [roundTrip_iff, length_encode_decode, widened_errors]
    decide
  · refine ⟨_, _, qstring_run [] longest [] (Nat.mod_eq_of_lt (by rw [length_longest]; decide)), ?_⟩
    rw [roundTrip_iff, length_withRvcid, length_encode_decode, widened_longest]
    decide

end Echo
end Ghostbusters
