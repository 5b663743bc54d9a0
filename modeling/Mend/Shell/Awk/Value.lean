import Mend.Shell.Awk.Parser
import Mend.Shell.Format

/-!
# Values of programs

A value is a number or a text. What has been read is a text that also counts as a number if it looks
like one, and a variable that was never set is both zero and empty.
-/

namespace Mend.Shell.Awk

/-- A value. -/
inductive Value where
  | unset
  | number (x : Float)
  | text (s : String)
  /-- A text that looks like a number. -/
  | numeric (s : String) (x : Float)
  deriving Inhabited

/-- A number without its part after the point. -/
def truncated (x : Float) : Int :=
  match Decimal.Reading.ofFloat x with
  | .finite b =>
    let m : Nat :=
      if 0 ≤ b.exponent then b.mantissa * Nat.pow 2 b.exponent.toNat
      else b.mantissa / Nat.pow 2 (-b.exponent).toNat
    if b.negative then -(m : Int) else m
  | _ => 0

/-- A whole number. -/
def ofInt (n : Int) : Float := Float.ofInt n

/-- The number has nothing after the point and few enough digits to be written without an exponent. -/
def isWhole (x : Float) : Bool := x.abs < 1e18 && ofInt (truncated x) == x

/-- A number as text, by a format where it is not whole. -/
def numberText (format : String) (x : Float) : String :=
  if isWhole x then toString (truncated x)
  else match Directive.readAll (format.length + 1) format.toList with
    | [.value l _ _ letter] => l.float letter x
    | _ => Layout.float { precision := some 6 } 'g' x

/-- The length of the number that a text begins with. -/
def numberLength (cs : List Char) : Nat :=
  let sign := if cs.head? = some '-' || cs.head? = some '+' then 1 else 0
  match number? (cs.drop sign) with
  | some (_, rest) => cs.length - rest.length
  | none => 0

/-- The number that a text begins with, or zero. -/
def leadingNumber (s : String) : Float :=
  let cs := s.toList.dropWhile Posix.isSpace
  let n := numberLength cs
  let text := (cs.take n).reverse.dropWhile (· = '.') |>.reverse
  (Decimal.parse (String.ofList text)).getD 0

/-- What has been read. -/
def Value.ofInput (s : String) : Value :=
  let cs := ((s.toList.dropWhile Posix.isSpace).reverse.dropWhile Posix.isSpace).reverse
  if !cs.isEmpty && numberLength cs = cs.length then .numeric s (leadingNumber s) else .text s

namespace Value

/-- The value as a number. -/
def toNumber : Value → Float
  | .unset => 0
  | .number x => x
  | .text s => leadingNumber s
  | .numeric _ x => x

/-- The value as text; a format says how numbers are written. -/
def toText (format : String) : Value → String
  | .unset => ""
  | .number x => numberText format x
  | .text s => s
  | .numeric s _ => s

/-- The value counts as true. -/
def isTrue : Value → Bool
  | .unset => false
  | .number x => x != 0
  | .text s => !s.isEmpty
  | .numeric _ x => x != 0

/-- A condition as a value. -/
def ofBool (b : Bool) : Value := .number (if b then 1 else 0)

/-- The value of a count. -/
def ofNat (n : Nat) : Value := .number n.toFloat

/-- Compares two values: as numbers if neither is only text. -/
def compare (format : String) (a b : Value) : Ordering :=
  let isText : Value → Bool
    | .text _ => true
    | _ => false
  if isText a || isText b then Ord.compare (a.toText format) (b.toText format)
  else
    let (x, y) := (a.toNumber, b.toNumber)
    if x < y then .lt else if y < x then .gt else .eq

end Value

/-- A comparison holds of values in this order. -/
def Relation.holds : Relation → Ordering → Bool
  | .lt, o => o = .lt
  | .le, o => o ≠ .gt
  | .eq, o => o = .eq
  | .ne, o => o ≠ .eq
  | .gt, o => o = .gt
  | .ge, o => o ≠ .lt

/-- What an operator makes of two numbers; none if the second may not be zero. -/
def NumberOp.apply (op : NumberOp) (x y : Float) : Option Float :=
  match op with
  | .add => some (x + y)
  | .sub => some (x - y)
  | .mul => some (x * y)
  | .div => if y == 0 then none else some (x / y)
  | .mod =>
    if y == 0 then none
    else if isWhole x && isWhole y then some (ofInt ((truncated x).tmod (truncated y)))
    else some (x - y * ofInt (truncated (x / y)))
  | .pow =>
    if isWhole x && isWhole y && 0 ≤ y && y.abs < 64 && x.abs < 65536 then
      some (ofInt ((truncated x).pow (truncated y).toNat))
    else some (x.pow y)

/-! ## Cutting texts -/

/-- How a text is cut into fields. -/
inductive Separator where
  | blanks
  | byte (c : Char)
  | regular (r : Posix.Regular)
  /-- Every byte is a field. -/
  | nothing

/-- The separator that a text names. -/
def Separator.ofText (s : String) : Separator :=
  match s.toList with
  | [] => .nothing
  | [' '] => .blanks
  | [c] => .byte c
  | cs =>
    match regularOf? cs with
    | some r => .regular r
    | none => .blanks

/-- The longest pieces of a text without blanks. -/
def blankFields (cs : List Char) : List (List Char) :=
  let isBlank (c : Char) : Bool := c = ' ' || c = '\t' || c = '\n'
  let step (c : Char) (acc : List Char × List (List Char)) : List Char × List (List Char) :=
    if isBlank c then ([], if acc.1.isEmpty then acc.2 else acc.1 :: acc.2) else (c :: acc.1, acc.2)
  let (open_, done) := cs.foldr step ([], [])
  if open_.isEmpty then done else open_ :: done

/-- The pieces of a text between matches that are not empty, from a place on. -/
def piecesBetween (text : Array Char) : Nat → List Posix.Reached → List (List Char)
  | i, [] => [(text.extract i text.size).toList]
  | i, m :: ms =>
    match m.groups.lookup 0 with
    | some (a, b) => if a = b then piecesBetween text i ms else (text.extract i a).toList :: piecesBetween text b ms
    | none => piecesBetween text i ms

/-- The fields of a text. -/
def Separator.cut (s : Separator) (text : String) : List String :=
  let cs := text.toList
  let pieces := match s with
    | .blanks => blankFields cs
    | .byte c => if cs.isEmpty then [] else cs.splitOn c
    | .regular r => if cs.isEmpty then [] else piecesBetween cs.toArray 0 (r.findAll ⟨cs.toArray, false⟩)
    | .nothing => cs.map fun c => [c]
  pieces.map String.ofList

/-- Takes a record off a text: the record and the rest, or none if nothing is left. -/
def takeRecord (separator : String) (cs : List Char) : Option (List Char × List Char) :=
  match separator.toList with
  | [] =>
    let cs := cs.dropWhile (· = '\n')
    if cs.isEmpty then none else some (paragraph cs)
  | [c] =>
    if cs.isEmpty then none
    else
      let (r, rest) := cs.span (· ≠ c)
      some (r, rest.tail)
  | s =>
    if cs.isEmpty then none
    else match regularOf? s with
      | none => some (cs, [])
      | some r =>
        let text := cs.toArray
        match (r.find ⟨text, false⟩ 0).bind fun m => m.groups.lookup 0 with
        | some (a, b) => if a = b then some (cs, []) else some (cs.take a, cs.drop b)
        | none => some (if cs.getLast? = some '\n' then cs.dropLast else cs, [])
where
  /-- Takes a text up to an empty line. -/
  paragraph : List Char → List Char × List Char
  | '\n' :: '\n' :: r => ([], r.dropWhile (· = '\n'))
  | ['\n'] => ([], [])
  | c :: r =>
    let (p, rest) := paragraph r
    (c :: p, rest)
  | [] => ([], [])

/-! ## Replacing -/

/-- A replacement for a match: an ampersand stands for what was matched. -/
def replacementOf (found : List Char) : List Char → List Char
  | '\\' :: '&' :: r => '&' :: replacementOf found r
  | '\\' :: '\\' :: r => '\\' :: replacementOf found r
  | '&' :: r => found ++ replacementOf found r
  | c :: r => c :: replacementOf found r
  | [] => []

/-- A text with matches replaced, from a place on. -/
def replaceAll (text : Array Char) (replacement : List Char) : Nat → List Posix.Reached → List Char
  | i, [] => (text.extract i text.size).toList
  | i, m :: ms =>
    match m.groups.lookup 0 with
    | some (a, b) =>
      (text.extract i a).toList ++ replacementOf (text.extract a b).toList replacement ++
        replaceAll text replacement b ms
    | none => replaceAll text replacement i ms

end Mend.Shell.Awk
