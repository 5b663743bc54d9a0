import Mend.Unicode.CharSet

/-!
# Sets as sequences of bytes

The encodings of the characters of a set, as sequences of ranges of bytes: a character is in the set
exactly if one of the sequences matches its encoding, byte by byte.
-/

namespace Mend.Regex

open Unicode (CharSet)

/-- A range of bytes. -/
abbrev ByteRange := Nat × Nat

/-- The bytes that encode a code point. -/
def encoding (n : Nat) : List Nat :=
  if n < 0x80 then [n]
  else if n < 0x800 then [0xC0 + n / 64, 0x80 + n % 64]
  else if n < 0x10000 then [0xE0 + n / 4096, 0x80 + n / 64 % 64, 0x80 + n % 64]
  else [0xF0 + n / 262144, 0x80 + n / 4096 % 64, 0x80 + n / 64 % 64, 0x80 + n % 64]

/-- The last code points whose encodings have one, two and three bytes. -/
def lengthEnds : List Nat := [0x7F, 0x7FF, 0xFFFF]

/-- Where a range whose encodings have one length is cut because the last bytes, each of `block` values
together, do not go with the bytes before them. -/
def blockCut? (lo hi block : Nat) : Option Nat :=
  if lo / block = hi / block then none
  else if lo % block ≠ 0 then some (lo / block * block + block - 1)
  else if hi % block ≠ block - 1 then some (hi / block * block - 1)
  else none

/-- Where a range without surrogates is cut so that its first part is one sequence. -/
def cut? (lo hi : Nat) : Option Nat :=
  match lengthEnds.find? fun m => lo ≤ m && m < hi with
  | some m => some m
  | none => if hi ≤ 0x7F then none else [64, 4096, 262144].findSome? (blockCut? lo hi)

/-- The sequences of a range without surrogates; `fuel` is at least the number of its cuts. -/
def rangeSequences : Nat → Nat → Nat → List (List ByteRange)
  | 0, lo, hi => [(encoding lo).zip (encoding hi)]
  | fuel + 1, lo, hi =>
    match cut? lo hi with
    | some m => rangeSequences fuel lo m ++ rangeSequences fuel (m + 1) hi
    | none => [(encoding lo).zip (encoding hi)]

/-- The parts of a range before and after the surrogates. -/
def withoutSurrogates (r : Nat × Nat) : List (Nat × Nat) :=
  if r.1 < 0xE000 && 0xD7FF < r.2 then [(r.1, 0xD7FF), (0xE000, r.2)].filter fun s => s.1 ≤ s.2 else [r]

/-- The sequences of a set, in order. -/
def byteSequences (s : CharSet) : List (List ByteRange) :=
  (s.ranges.toList.flatMap withoutSurrogates).flatMap fun r => rangeSequences 16 r.1 r.2

end Mend.Regex
