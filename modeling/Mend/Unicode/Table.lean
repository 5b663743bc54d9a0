import Mend.Unicode.CharSet

/-!
# Reading tables of ranges

The tables of this library write a set of code points as lines of entries: `41` for one code point,
`41-5a` for a range, and `100-12e/2` for every second code point of a range.
-/

namespace Mend.Unicode

/-- The value of a hexadecimal digit. -/
def hexDigit? (c : Char) : Option Nat :=
  if c.isDigit then some (c.toNat - 48)
  else if 'a' ≤ c && c ≤ 'f' then some (c.toNat - 87)
  else none

/-- The value of hexadecimal digits. -/
def hexValue (cs : List Char) : Nat := cs.foldl (fun n c => n * 16 + (hexDigit? c).getD 0) 0

/-- The ranges of an entry of a table. -/
def entryRanges (cs : List Char) : List (Nat × Nat) :=
  let (lo, rest) := cs.span (· ≠ '-')
  let (hi, step) := (rest.drop 1).span (· ≠ '/')
  let low := hexValue lo
  let stride := hexValue (step.drop 1)
  if rest.isEmpty then [(low, low)]
  else if stride = 0 then [(low, hexValue hi)]
  else (List.range ((hexValue hi - low) / stride + 1)).map fun k => (low + stride * k, low + stride * k)

/-- The ranges of a table's lines. -/
def tableRanges (lines : List String) : List (Nat × Nat) :=
  lines.flatMap fun l => (l.toList.splitOn ' ').flatMap entryRanges

/-- The set of a table's lines. -/
def tableSet (lines : List String) : CharSet := CharSet.ofRanges (tableRanges lines)

/-- A name without case, blanks, hyphens and underscores, and without `is` at its start. -/
def looseName (name : String) : String :=
  let lowered := name.toList.map Char.toLower
  let (isFirst, rest) := match lowered with
    | 'i' :: 's' :: r => (true, r)
    | r => (false, r)
  let kept := rest.filter fun c => c ≠ ' ' && c ≠ '_' && c ≠ '-' && c.toNat < 128
  if isFirst && kept = ['c'] then "isc" else String.ofList kept

/-- Whether a loose name is one of the names. -/
def isNamed (names : List String) (name : String) : Bool := names.any fun n => looseName n == name

end Mend.Unicode
