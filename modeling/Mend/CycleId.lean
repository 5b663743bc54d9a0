import Mend.Time

/-!
# Cycle identifiers

An identifier has 128 bits: the millisecond at which it was drawn, in the high 48, and chance below
it, so that identifiers sort by age. It is written as twenty-six digits to the base 32, without the
letters I, L, O and U.
-/

namespace Mend

/-- How many identifiers there are. -/
abbrev CycleId.count : Nat := 0x100000000000000000000000000000000

/-- The name of a cycle. -/
structure CycleId where
  value : Nat
  isLt : value < CycleId.count := by decide
  deriving DecidableEq, Repr

namespace CycleId

instance : Inhabited CycleId := ⟨⟨0, by decide⟩⟩

/-- Why a text is no identifier. -/
inductive Error where
  | length
  | character
  deriving DecidableEq, Repr

/-- What is wrong with the text. -/
def Error.message : Error → String
  | .length => "invalid length"
  | .character => "invalid character"

instance : ToString Error := ⟨Error.message⟩

/-- The digits of base 32. -/
def alphabet : List Char := "0123456789ABCDEFGHJKMNPQRSTVWXYZ".toList

/-- The value of a digit, in either case. -/
def digit? (c : Char) : Option Nat := alphabet.findIdx? (· = c.toUpper)

/-- How many milliseconds can be told apart: forty-eight bits. -/
abbrev millisCount : Nat := 0x1000000000000

/-- How many identifiers there are for each millisecond: eighty bits. -/
abbrev chanceCount : Nat := 0x100000000000000000000

/-- An identifier from its millisecond and its chance part; bits beyond their widths are dropped. -/
def ofParts (millis random : Nat) : CycleId :=
  ⟨millis % millisCount * chanceCount + random % chanceCount, by
    have h1 : millis % millisCount < millisCount := Nat.mod_lt _ (by decide)
    have h2 : random % chanceCount < chanceCount := Nat.mod_lt _ (by decide)
    unfold count millisCount chanceCount at *
    omega⟩

/-- The millisecond at which the identifier was drawn. -/
def millis (id : CycleId) : Nat := id.value / chanceCount

/-- The moment at which the identifier was drawn. -/
def createdAt (id : CycleId) : Time := Time.ofMillis id.millis

/-- The digits of `n`, `k` of them, before `acc`. -/
def digits : Nat → Nat → List Char → List Char
  | 0, _, acc => acc
  | k + 1, n, acc => digits k (n / 32) (alphabet.getD (n % 32) '0' :: acc)

/-- The twenty-six digits. -/
def toText (id : CycleId) : String := String.ofList (digits 26 id.value [])

/-- Reads digits after the value so far, keeping the low 128 bits. -/
def readDigits : List Char → Nat → Option Nat
  | [], n => some n
  | c :: cs, n =>
    match digit? c with
    | some d => readDigits cs ((n * 32 + d) % count)
    | none => none

/-- Reads twenty-six digits of either case. -/
def parse (s : String) : Except Error CycleId :=
  if s.utf8ByteSize ≠ 26 then .error .length
  else match readDigits s.toList 0 with
    | some n => .ok ⟨n % count, Nat.mod_lt _ (by decide)⟩
    | none => .error .character

/-- Identifiers are ordered by their value. -/
def le (a b : CycleId) : Bool := a.value ≤ b.value

instance : ToString CycleId := ⟨toText⟩

end CycleId
end Mend
