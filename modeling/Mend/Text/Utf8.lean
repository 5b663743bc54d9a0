/-!
# Bytes read as UTF-8

`validPrefix` is where strict reading stops, and `decodeLossy` is the text that a reader makes of any
bytes at all: each maximal piece of a broken character becomes one replacement character.
-/

namespace Mend.Text

/-- The bytes of a text. -/
abbrev encode (s : String) : ByteArray := s.toUTF8

/-- The text that the bytes spell, if they are UTF-8. -/
abbrev decode? (b : ByteArray) : Option String := String.fromUTF8? b

/-- The end of the longest run of whole characters that starts at `i`. -/
def validFrom (b : ByteArray) (i : Nat) : Nat :=
  if i < b.size then
    match b.utf8DecodeChar? i with
    | some c => if i + c.utf8Size ≤ b.size then validFrom b (i + c.utf8Size) else i
    | none => i
  else i
termination_by b.size - i
decreasing_by
  have := Char.utf8Size_pos c
  omega

/-- The length of the longest prefix that is UTF-8. -/
def validPrefix (b : ByteArray) : Nat := validFrom b 0

/-- How many bytes a broken character with the first byte `lead` takes up: those that could have
begun a character, as far as the first that could not go on with it. -/
def brokenLength (lead : UInt8) (rest : List UInt8) : Nat :=
  let startsIn (lo hi : UInt8) : List UInt8 → Bool
    | x :: _ => lo ≤ x && x ≤ hi
    | [] => false
  let three (lo hi : UInt8) : Nat := if startsIn lo hi rest then 2 else 1
  let four (lo hi : UInt8) : Nat :=
    if startsIn lo hi rest then
      if startsIn 0x80 0xBF (rest.drop 1) then 3 else 2
    else 1
  if lead == 0xE0 then three 0xA0 0xBF
  else if lead == 0xED then three 0x80 0x9F
  else if 0xE1 ≤ lead && lead ≤ 0xEF then three 0x80 0xBF
  else if lead == 0xF0 then four 0x90 0xBF
  else if 0xF1 ≤ lead && lead ≤ 0xF3 then four 0x80 0xBF
  else if lead == 0xF4 then four 0x80 0x8F
  else 1

/-- Reads characters from `i` on, writing `mark` for each broken piece. The number `fuel` bounds the
steps; one step per byte is enough. -/
def lossyFrom (mark : Char) (b : ByteArray) : Nat → Nat → List Char
  | 0, _ => []
  | fuel + 1, i =>
    if i < b.size then
      match b.utf8DecodeChar? i with
      | some c => c :: lossyFrom mark b fuel (i + c.utf8Size)
      | none =>
        let rest := (b.extract (i + 1) (min b.size (i + 4))).toList
        mark :: lossyFrom mark b fuel (i + brokenLength (b.get! i) rest)
    else []

/-- The text of any bytes, broken pieces replaced. -/
def decodeLossy (b : ByteArray) : String :=
  match decode? b with
  | some s => s
  | none => String.ofList (lossyFrom '\uFFFD' b b.size 0)

/-! ## Texts of bytes

Tools that know bytes and no characters work on texts in which every character stands for the byte of
its number. Other texts come to them as their UTF-8 bytes, and what they make is read as UTF-8 where
it has to be characters again.
-/

namespace Octets

/-- The text that stands for bytes. -/
def ofBytes (b : ByteArray) : String := String.ofList (b.toList.map fun x => Char.ofNat x.toNat)

/-- The bytes that a text stands for. -/
def toBytes (s : String) : ByteArray := ⟨(s.toList.map fun c => c.toNat.toUInt8).toArray⟩

/-- All characters are ASCII, and so are their own bytes. -/
def isAscii (s : String) : Bool := s.toList.all fun c => c.toNat < 128

/-- The bytes of a text of characters. -/
def ofText (s : String) : String := if isAscii s then s else ofBytes s.toUTF8

/-- The characters that bytes spell; broken ones are replaced. -/
def toText (s : String) : String := if isAscii s then s else decodeLossy (toBytes s)

end Octets

end Mend.Text
