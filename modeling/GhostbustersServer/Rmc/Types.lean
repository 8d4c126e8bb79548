import GhostbustersServer.Py.Act
import GhostbustersServer.Py.Reads
import GhostbustersServer.Py.Text

/-!
# Quazal primitive types (`rmc/types.py`)

    qString = [u16 length, NUL included] [chars] [00]
    qBuffer = [u32 length] [bytes]

A writer returns the bytes it appends; a reader is code over the cursor.
-/

namespace Ghostbusters

open Py

def wU16 (v : Nat) : Bytes := leBytes 2 (v % 2 ^ 16)

def wU32 (v : Nat) : Bytes := leBytes 4 (v % 2 ^ 32)

def wQstring (s : Str) : Bytes :=
  let raw := utf8Encode s ++ [0]
  wU16 raw.length ++ raw

def wQbuffer (data : Bytes) : Bytes := wU32 data.length ++ data

@[simp] theorem wU16_length (v : Nat) : (wU16 v).length = 2 := leBytes_length _ _

@[simp] theorem wU32_length (v : Nat) : (wU32 v).length = 4 := leBytes_length _ _

theorem ofLE_wU32 (v : Nat) (h : v < 2 ^ 32) : ofLE (wU32 v) = v := by
  unfold wU32
  rw [ofLE_leBytes, Nat.mod_mod_of_dvd _ (by norm_num), Nat.mod_eq_of_lt (by omega)]

theorem reads_wU16 {v : Nat} (h : v < 2 ^ 16) : Reads (Cursor.int 2) (wU16 v) v := by
  unfold wU16
  rw [Nat.mod_eq_of_lt h]
  exact Reads.int (by omega)

theorem reads_wU32 {v : Nat} (h : v < 2 ^ 32) : Reads (Cursor.int 4) (wU32 v) v := by
  unfold wU32
  rw [Nat.mod_eq_of_lt h]
  exact Reads.int (by omega)

/-- Cursor over a byte string. -/
structure Reader where
  data : Bytes
  offset : Nat
  deriving DecidableEq, Repr

namespace Reader

def of (data : Bytes) : Reader := ⟨data, 0⟩

/-- The next `n` bytes.  The cursor may stand past the end, after a slice that
was not checked. -/
def take (n : Nat) : Act Reader Exc Bytes := do
  let r ← Act.get
  if r.data.length < r.offset + n then Act.raise .valueError
  else do
    Act.modify fun r => { r with offset := r.offset + n }
    pure (slice r.data r.offset (r.offset + n))

/-- A slice that is not checked against the end. -/
def takeUnchecked (n : Nat) : Act Reader Exc Bytes := do
  let r ← Act.get
  Act.modify fun r => { r with offset := r.offset + n }
  pure (slice r.data r.offset (r.offset + n))

def u16 : Act Reader Exc Nat := do return ofLE (← take 2)

def u32 : Act Reader Exc Nat := do return ofLE (← take 4)

/-- A trailing NUL is dropped, and only one. -/
def dropNul (raw : Bytes) : Bytes := if raw.getLast? = some 0 then raw.dropLast else raw

def qstring : Act Reader Exc Str := do
  let n ← u16
  let raw ← take n
  return utf8DecodeReplace (dropNul raw)

/-- `tuple(r.qstring() for _ in range(n))`. -/
def qstrings : Nat → Act Reader Exc (List Str)
  | 0 => pure []
  | n + 1 => do
    let s ← qstring
    let ss ← qstrings n
    return s :: ss

/-- The value a parse of `data` from its start returns, or what it raises. -/
def parse {α : Type} (p : Act Reader Exc α) (data : Bytes) : Except Exc α :=
  (p.run (of data)).1

end Reader
end Ghostbusters
