/-!
# Hexadecimal text

Bytes are written as two lowercase digits each and read from digits of either case. Reading looks
at the length first and then at the digits from left to right.
-/

namespace Mend.Text.Hex

/-- Why a text is not the hexadecimal form of bytes. -/
inductive Error where
  | oddLength
  /-- The byte of the text that is no digit, and where it stands. -/
  | badDigit (byte : UInt8) (position : Nat)
  deriving DecidableEq, Repr

/-- The lowercase digit of a number below sixteen. -/
def digit (n : Nat) : Char :=
  if n < 10 then Char.ofNat (48 + n) else Char.ofNat (87 + n)

/-- The two digits of each byte. -/
def encodeList (bytes : List UInt8) : List Char :=
  bytes.flatMap fun b => [digit (b.toNat / 16), digit (b.toNat % 16)]

/-- The lowercase hexadecimal form of bytes. -/
def encode (bytes : List UInt8) : String := String.ofList (encodeList bytes)

/-- The value of a digit of either case. -/
def value? (c : UInt8) : Option UInt8 :=
  if 48 ≤ c && c ≤ 57 then some (c - 48)
  else if 97 ≤ c && c ≤ 102 then some (c - 87)
  else if 65 ≤ c && c ≤ 70 then some (c - 55)
  else none

/-- Reads pairs of digits; `at_` is the position of the first. -/
def decodePairs (at_ : Nat) : List UInt8 → Except Error (List UInt8)
  | [] => .ok []
  | [_] => .error .oddLength
  | hi :: lo :: rest =>
    match value? hi, value? lo with
    | none, _ => .error (.badDigit hi at_)
    | some _, none => .error (.badDigit lo (at_ + 1))
    | some h, some l => (decodePairs (at_ + 2) rest).map ((h * 16 + l) :: ·)

/-- The bytes whose hexadecimal form is `s`. -/
def decode (s : String) : Except Error (List UInt8) :=
  let bytes := s.toUTF8.toList
  if bytes.length % 2 = 1 then .error .oddLength else decodePairs 0 bytes

/-- A byte shown as the Latin-1 character between quotes, controls and invisible ones escaped. -/
def quoteByte (b : UInt8) : String :=
  let shown :=
    if b == 0 then "\\0"
    else if b == 9 then "\\t"
    else if b == 10 then "\\n"
    else if b == 13 then "\\r"
    else if b == 39 then "\\'"
    else if b == 92 then "\\\\"
    else if b < 32 || (127 ≤ b && b ≤ 160) || b == 173 then
      let ds := String.ofList (Nat.toDigits 16 b.toNat)
      "\\u\x7b" ++ ds ++ "\x7d"
    else String.singleton (Char.ofNat b.toNat)
  "'" ++ shown ++ "'"

/-- What is wrong with the text. -/
def Error.message : Error → String
  | .oddLength => "Odd number of digits"
  | .badDigit b i => "Invalid character " ++ quoteByte b ++ " at position " ++ toString i

end Mend.Text.Hex
