import GhostbustersServer.Py.Bytes

/-!
# RC4, MD5 and HMAC-MD5

The library functions behind `ARC4.new(key)`, `hashlib.md5` and `hmac.new`, on
byte strings.

    arc4 key (arc4 key p) = p               (arc4_arc4)
    (md5 b).length = 16                     (md5_length)

Words are naturals below 2^32.
-/

namespace Py

/-! ## RC4 -/

namespace Arc4

/-- The 256 bytes of the permutation, as the digits of a natural. -/
abbrev Table := Nat

def byteAt (s : Table) (i : Nat) : Nat := (s >>> (8 * i)) % 256

def setByte (s : Table) (i v : Nat) : Table := s - (byteAt s i) <<< (8 * i) + v <<< (8 * i)

def swap (s : Table) (i j : Nat) : Table := setByte (setByte s i (byteAt s j)) j (byteAt s i)

/-- Key schedule, from position `i` with `n` positions to go. -/
def schedule (key : Bytes) : Nat → Nat → Nat → Table → Table
  | 0, _, _, s => s
  | n + 1, i, j, s =>
    let j := (j + byteAt s i + (key.getD (i % key.length) 0).toNat) % 256
    schedule key n (i + 1) j (swap s i j)

/-- Byte `i` of it is `i`. -/
def identity : Table := (List.range 256).foldr (fun i s => s * 256 + i) 0

def init (key : Bytes) : Table := schedule key 256 0 0 identity

/-- `n` bytes of key stream. -/
def stream : Nat → Nat → Nat → Table → Bytes
  | 0, _, _, _ => []
  | n + 1, i, j, s =>
    let i := (i + 1) % 256
    let j := (j + byteAt s i) % 256
    let s := swap s i j
    UInt8.ofNat (byteAt s ((byteAt s i + byteAt s j) % 256)) :: stream n i j s

theorem stream_length (n i j : Nat) (s : Table) : (stream n i j s).length = n := by
  induction n generalizing i j s with
  | zero => rfl
  | succ n ih => simp [stream, ih]

end Arc4

/-- Encryption and decryption. -/
def arc4 (key data : Bytes) : Bytes :=
  List.zipWith (· ^^^ ·) data (Arc4.stream data.length 0 0 (Arc4.init key))

theorem arc4_length (key data : Bytes) : (arc4 key data).length = data.length := by
  simp [arc4, Arc4.stream_length]

theorem zipWith_xor_cancel (a b : Bytes) (h : a.length ≤ b.length) :
    List.zipWith (· ^^^ ·) (List.zipWith (· ^^^ ·) a b) b = a := by
  induction a generalizing b with
  | nil => rfl
  | cons x a ih =>
    cases b with
    | nil => simp at h
    | cons y b =>
      simp only [List.zipWith_cons_cons, List.cons.injEq]
      refine ⟨?_, ih b (by simp at h; omega)⟩
      rw [UInt8.xor_assoc, UInt8.xor_self, UInt8.xor_zero]

/-- **Decryption undoes encryption.** -/
theorem arc4_arc4 (key data : Bytes) : arc4 key (arc4 key data) = data := by
  have hl := arc4_length key data
  unfold arc4 at *
  rw [hl]
  exact zipWith_xor_cancel data _ (by rw [Arc4.stream_length])

/-! ## MD5 -/

namespace Md5

/-- The integer parts of `2^32 * |sin (i + 1)|`. -/
def sines : List Nat :=
  [0xd76aa478, 0xe8c7b756, 0x242070db, 0xc1bdceee, 0xf57c0faf, 0x4787c62a, 0xa8304613, 0xfd469501,
   0x698098d8, 0x8b44f7af, 0xffff5bb1, 0x895cd7be, 0x6b901122, 0xfd987193, 0xa679438e, 0x49b40821,
   0xf61e2562, 0xc040b340, 0x265e5a51, 0xe9b6c7aa, 0xd62f105d, 0x02441453, 0xd8a1e681, 0xe7d3fbc8,
   0x21e1cde6, 0xc33707d6, 0xf4d50d87, 0x455a14ed, 0xa9e3e905, 0xfcefa3f8, 0x676f02d9, 0x8d2a4c8a,
   0xfffa3942, 0x8771f681, 0x6d9d6122, 0xfde5380c, 0xa4beea44, 0x4bdecfa9, 0xf6bb4b60, 0xbebfbc70,
   0x289b7ec6, 0xeaa127fa, 0xd4ef3085, 0x04881d05, 0xd9d4d039, 0xe6db99e5, 0x1fa27cf8, 0xc4ac5665,
   0xf4292244, 0x432aff97, 0xab9423a7, 0xfc93a039, 0x655b59c3, 0x8f0ccc92, 0xffeff47d, 0x85845dd1,
   0x6fa87e4f, 0xfe2ce6e0, 0xa3014314, 0x4e0811a1, 0xf7537e82, 0xbd3af235, 0x2ad7d2bb, 0xeb86d391]

def shifts : List (List Nat) := [[7, 12, 17, 22], [5, 9, 14, 20], [4, 11, 16, 23], [6, 10, 15, 21]]

def rotl (x n : Nat) : Nat := (x * 2 ^ n + x / 2 ^ (32 - n)) % 2 ^ 32

def not32 (x : Nat) : Nat := 2 ^ 32 - 1 - x

structure State where
  a : Nat
  b : Nat
  c : Nat
  d : Nat

/-- The function of round `i / 16` and the word it takes. -/
def mix (i : Nat) (s : State) : Nat × Nat :=
  match i / 16 with
  | 0 => ((s.b &&& s.c) ||| (not32 s.b &&& s.d), i)
  | 1 => ((s.d &&& s.b) ||| (not32 s.d &&& s.c), (5 * i + 1) % 16)
  | 2 => (s.b ^^^ s.c ^^^ s.d, (3 * i + 5) % 16)
  | _ => (s.c ^^^ (s.b ||| not32 s.d), 7 * i % 16)

def op (block : Bytes) (s : State) (i : Nat) : State :=
  let (f, g) := mix i s
  let word := ofLE (slice block (4 * g) (4 * g + 4))
  let sum := (s.a + f + sines.getD i 0 + word) % 2 ^ 32
  let rotated := rotl sum ((shifts.getD (i / 16) []).getD (i % 4) 0)
  { a := s.d, b := (s.b + rotated) % 2 ^ 32, c := s.b, d := s.c }

def compress (s : State) (block : Bytes) : State :=
  let t := (List.range 64).foldl (op block) s
  { a := (s.a + t.a) % 2 ^ 32, b := (s.b + t.b) % 2 ^ 32
    c := (s.c + t.c) % 2 ^ 32, d := (s.d + t.d) % 2 ^ 32 }

/-- The first `n` blocks of 64 bytes. -/
def blocks : Nat → Bytes → List Bytes
  | 0, _ => []
  | n + 1, b => b.take 64 :: blocks n (b.drop 64)

/-- A one bit, zeros, and the length in bits. -/
def pad (data : Bytes) : Bytes :=
  data ++ [0x80] ++ List.replicate ((119 - data.length % 64) % 64) 0 ++ leBytes 8 (8 * data.length)

end Md5

open Md5 in
def md5 (data : Bytes) : Bytes :=
  let s := (blocks ((pad data).length / 64) (pad data)).foldl compress
    { a := 0x67452301, b := 0xefcdab89, c := 0x98badcfe, d := 0x10325476 }
  leBytes 4 s.a ++ leBytes 4 s.b ++ leBytes 4 s.c ++ leBytes 4 s.d

theorem md5_length (data : Bytes) : (md5 data).length = 16 := by simp [md5]

/-! ## HMAC -/

/-- The key, hashed if it is longer than a block, and padded to one. -/
def hmacKey (key : Bytes) : Bytes :=
  let k := if 64 < key.length then md5 key else key
  k ++ List.replicate (64 - k.length) 0

def hmacMd5 (key data : Bytes) : Bytes :=
  md5 ((hmacKey key).map (· ^^^ 0x5c) ++ md5 ((hmacKey key).map (· ^^^ 0x36) ++ data))

theorem hmacMd5_length (key data : Bytes) : (hmacMd5 key data).length = 16 := md5_length _

end Py
