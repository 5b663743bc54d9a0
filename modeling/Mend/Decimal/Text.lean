import Mend.Decimal.Shortest

/-!
# Numbers as text

A layout says where a number with the fewest digits that read back is written positionally, and what
its exponent looks like elsewhere. Numbers with a fixed count of decimal places are rounded from
their exact value, a half going to the even neighbour.
-/

namespace Mend.Decimal

/-- How a shortest decimal is laid out. -/
structure Layout where
  /-- The exponents of the first digit that are written positionally; `none` for all of them. -/
  positional : Option (Int × Int)
  /-- Whether a whole number keeps a final `.0`. -/
  pointZero : Bool
  nan : String
  inf : String

/-- In documents: positional from five places after the point to sixteen digits before it. Numbers
that are not finite have no text there. -/
def Layout.document : Layout := ⟨some (-5, 15), true, "null", "null"⟩

/-- In messages: always positional, and whole numbers without a point. -/
def Layout.message : Layout := ⟨none, false, "NaN", "inf"⟩

/-- A string of zeros. -/
def zeros (n : Nat) : String := String.ofList (List.replicate n '0')

/-- An exponent with its sign and at least two digits. -/
def exponentText (e : Int) : String :=
  let digits := toString e.natAbs
  let padded := if digits.length < 2 then "0" ++ digits else digits
  (if e < 0 then "-" else "+") ++ padded

/-- Lays out `digits * 10 ^ exponent`. -/
def Layout.magnitude (l : Layout) (d : Shortest) : String :=
  let ds := toString d.digits
  let n : Int := ds.length
  let first := d.exponent + n - 1
  let inside := match l.positional with
    | none => true
    | some (lo, hi) => decide (lo ≤ first) && decide (first ≤ hi)
  let cut (k : Nat) : String × String :=
    (String.ofList (ds.toList.take k), String.ofList (ds.toList.drop k))
  if inside then
    if 0 ≤ d.exponent then
      ds ++ zeros d.exponent.toNat ++ (if l.pointZero then ".0" else "")
    else if 0 ≤ first then
      let (whole, part) := cut (first + 1).toNat
      whole ++ "." ++ part
    else "0." ++ zeros (-first - 1).toNat ++ ds
  else
    let (head, tail) := cut 1
    (if tail.isEmpty then head else head ++ "." ++ tail) ++ "e" ++ exponentText first

/-- The text of a floating-point number. -/
def Layout.text (l : Layout) (x : Float) : String :=
  match Reading.ofFloat x with
  | .notANumber => l.nan
  | .infinite negative => if negative && l.inf != "null" then "-" ++ l.inf else l.inf
  | .finite b => (if b.negative then "-" else "") ++ l.magnitude (Shortest.ofBinary b.mantissa b.exponent)

/-- Rounds a quotient to a whole number, a half to the even neighbour. -/
def roundDiv (num den : Nat) : Nat :=
  let q := num / den
  let r := num % den
  if 2 * r < den then q
  else if den < 2 * r then q + 1
  else q + q % 2

/-- The text with exactly `places` decimals. -/
def fixed (places : Nat) (x : Float) : String :=
  match Reading.ofFloat x with
  | .notANumber => "NaN"
  | .infinite negative => if negative then "-inf" else "inf"
  | .finite b =>
    let r := Ratio.scaled b.mantissa b.exponent places
    let ds := toString (roundDiv r.num r.den)
    let padded := zeros (places + 1 - ds.length) ++ ds
    let whole := padded.length - places
    (if b.negative then "-" else "") ++ String.ofList (padded.toList.take whole) ++
      (if places = 0 then "" else "." ++ String.ofList (padded.toList.drop whole))

/-! ## Reading -/

/-- The value of a run of digits after `acc`, how many there were, and what follows. -/
def digitRun : List Char → Nat → Nat → Nat × Nat × List Char
  | c :: cs, acc, n =>
    if c.isDigit then digitRun cs (acc * 10 + (c.toNat - 48)) (n + 1) else (acc, n, c :: cs)
  | [], acc, n => (acc, n, [])

/-- The correctly rounded value of `digits * 10 ^ exponent`. -/
def toFloat (digits : Nat) (exponent : Int) : Float :=
  if digits = 0 then 0
  else if exponent > 400 then 1.0 / 0.0
  else if exponent < 0 then Float.ofScientific digits true (-exponent).toNat
  else Float.ofScientific digits false exponent.toNat

/-- Reads an exponent mark and the exponent, if one stands here. -/
def readExponent : List Char → Option (Int × List Char)
  | c :: cs =>
    if c = 'e' || c = 'E' then
      let (negative, cs) := match cs with
        | '-' :: r => (true, r)
        | '+' :: r => (false, r)
        | r => (false, r)
      let (v, n, rest) := digitRun cs 0 0
      if n = 0 then none else some (if negative then -(v : Int) else v, rest)
    else some (0, c :: cs)
  | [] => some (0, [])

/-- Reads a number: digits with an optional point and exponent, or a name for a number that is not
finite, all with an optional sign. The whole text must be used. -/
def parse (s : String) : Option Float :=
  let (negative, cs) := match s.toList with
    | '-' :: r => (true, r)
    | '+' :: r => (false, r)
    | r => (false, r)
  let signed (x : Float) : Float := if negative then -x else x
  let name := (String.ofList cs).toLower
  if name == "nan" then some (signed (0.0 / 0.0))
  else if name == "inf" || name == "infinity" then some (signed (1.0 / 0.0))
  else
    let (v, whole, rest) := digitRun cs 0 0
    let (v, part, rest) := match rest with
      | '.' :: r => digitRun r v 0
      | r => (v, 0, r)
    if whole + part = 0 then none
    else match readExponent rest with
      | some (e, []) => some (signed (toFloat v (e - part)))
      | _ => none

end Mend.Decimal
