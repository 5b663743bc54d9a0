/-!
# Blanks

The characters with the property White_Space, and trimming them off.
-/

namespace Mend.Text

/-- The code points with the property White_Space. -/
def blankCodes : List Nat :=
  [0x20, 0x85, 0xA0, 0x1680, 0x2028, 0x2029, 0x202F, 0x205F, 0x3000]

/-- Whether a character has the property White_Space. -/
def isBlank (c : Char) : Bool :=
  let n := c.toNat
  (9 ≤ n && n ≤ 13) || (0x2000 ≤ n && n ≤ 0x200A) || blankCodes.contains n

/-- Drops leading blanks. -/
def trimStart (cs : List Char) : List Char := cs.dropWhile isBlank

/-- Drops the elements at the end that satisfy `p`. -/
def dropEndWhile (p : Char → Bool) (cs : List Char) : List Char :=
  (cs.reverse.dropWhile p).reverse

/-- Drops leading and trailing blanks. -/
def trim (cs : List Char) : List Char := dropEndWhile isBlank (trimStart cs)

/-- The text without blanks at its ends. -/
def trimmed (s : String) : String := String.ofList (trim s.toList)

/-- The words of a text: its longest pieces without blanks. -/
def words (s : String) : List String :=
  let step (c : Char) (acc : List Char × List (List Char)) : List Char × List (List Char) :=
    if isBlank c then ([], if acc.1.isEmpty then acc.2 else acc.1 :: acc.2) else (c :: acc.1, acc.2)
  let (open_, done) := s.toList.foldr step ([], [])
  ((if open_.isEmpty then done else open_ :: done)).map String.ofList

end Mend.Text
