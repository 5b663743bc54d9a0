import Mend.Decimal.Text

/-!
# Formats

How numbers and texts are printed by formats such as `%-8.3f`: the sign of a directive says what kind of
value it prints, its flags and its width where the value stands in its field. Numbers with a point are
rounded from their exact value.
-/

namespace Mend.Shell

/-- The part of a directive between the percent sign and the letter. -/
structure Layout where
  left : Bool := false
  plus : Bool := false
  blank : Bool := false
  alternate : Bool := false
  zero : Bool := false
  width : Nat := 0
  precision : Option Nat := none
  deriving Repr, Inhabited

/-- A piece of a format. -/
inductive Directive where
  | text (bytes : List Char)
  /-- A value; a missing width or precision that is a star is taken from the values. -/
  | value (layout : Layout) (starWidth starPrecision : Bool) (letter : Char)
  deriving Repr, Inhabited

namespace Layout

/-- A text in its field. -/
def place (l : Layout) (s : String) : String :=
  let gap := String.ofList (List.replicate (l.width - s.length) ' ')
  if l.left then s ++ gap else gap ++ s

/-- Digits with a sign or a base in front of them, in their field. -/
def digits (l : Layout) (sign body : String) (fill : Bool) : String :=
  if l.zero && !l.left && fill then
    sign ++ String.ofList (List.replicate (l.width - sign.length - body.length) '0') ++ body
  else l.place (sign ++ body)

/-- The sign of a number. -/
def sign (l : Layout) (negative : Bool) : String :=
  if negative then "-" else if l.plus then "+" else if l.blank then " " else ""

/-- A text, cut to the precision. -/
def string (l : Layout) (s : String) : String :=
  l.place (match l.precision with
    | some n => String.ofList (s.toList.take n)
    | none => s)

/-- The digits of a number in a base, as many as the precision asks for. -/
def grown (l : Layout) (base n : Nat) : String :=
  let ds := if n = 0 && l.precision = some 0 then "" else String.ofList (Nat.toDigits base n)
  Decimal.zeros ((l.precision.getD 0) - ds.length) ++ ds

/-- A whole number with a sign. -/
def signed (l : Layout) (n : Int) : String :=
  l.digits (l.sign (decide (n < 0))) (l.grown 10 n.natAbs) l.precision.isNone

/-- A whole number of sixty-four bits without a sign, in the base of a letter. -/
def unsigned (l : Layout) (letter : Char) (n : Int) : String :=
  let m := (n % Int.ofNat (Nat.pow 2 64)).toNat
  match letter with
  | 'o' =>
    let ds := l.grown 8 m
    l.digits "" (if l.alternate && ds.toList.head? ≠ some '0' then "0" ++ ds else ds) l.precision.isNone
  | 'x' => l.digits (if l.alternate && m ≠ 0 then "0x" else "") (l.grown 16 m) l.precision.isNone
  | 'X' =>
    l.digits (if l.alternate && m ≠ 0 then "0X" else "") (String.ofList ((l.grown 16 m).toList.map Char.toUpper))
      l.precision.isNone
  | _ => l.digits "" (l.grown 10 m) l.precision.isNone

/-! ## Numbers with a point -/

/-- The digits of a magnitude, rounded to as many places, with a point. -/
def fixedDigits (alternate : Bool) (places : Nat) (b : Decimal.Binary) : String :=
  let r := Decimal.Ratio.scaled b.mantissa b.exponent places
  let ds := toString (Decimal.roundDiv r.num r.den)
  let padded := (Decimal.zeros (places + 1 - ds.length) ++ ds).toList
  let whole := padded.length - places
  String.ofList (padded.take whole) ++
    (if places = 0 then (if alternate then "." else "") else "." ++ String.ofList (padded.drop whole))

/-- The first digits of a magnitude, one more than `places`, rounded, and the exponent of the first. -/
def leading (places : Nat) (b : Decimal.Binary) : String × Int :=
  if b.mantissa = 0 then (Decimal.zeros (places + 1), 0)
  else
    let e := Decimal.Shortest.magnitude b.mantissa b.exponent
    let r := Decimal.Ratio.scaled b.mantissa b.exponent ((places : Int) - e)
    let ds := toString (Decimal.roundDiv r.num r.den)
    if ds.length > places + 1 then (String.ofList (ds.toList.take (places + 1)), e + 1) else (ds, e)

/-- A magnitude with one digit before the point, and its exponent. -/
def scientificDigits (alternate : Bool) (places : Nat) (b : Decimal.Binary) : String :=
  let (ds, e) := leading places b
  let tail := String.ofList (ds.toList.drop 1)
  String.ofList (ds.toList.take 1) ++ (if places = 0 then (if alternate then "." else "") else "." ++ tail) ++
    "e" ++ Decimal.exponentText e

/-- Digits without the zeros at the end of those after the point. -/
def trimZeros (s : String) : String :=
  if s.toList.contains '.' then
    let back := s.toList.reverse.dropWhile (· = '0')
    String.ofList (if back.head? = some '.' then back.tail else back).reverse
  else s

/-- A magnitude with as many digits, in the shorter of the two ways of writing it. -/
def generalDigits (alternate : Bool) (count : Nat) (b : Decimal.Binary) : String :=
  let p := if count = 0 then 1 else count
  let (_, e) := leading (p - 1) b
  if e < -4 || (p : Int) ≤ e then
    let s := scientificDigits alternate (p - 1) b
    if alternate then s
    else
      let (m, tail) := s.toList.span (· ≠ 'e')
      trimZeros (String.ofList m) ++ String.ofList tail
  else
    let s := fixedDigits alternate ((p : Int) - 1 - e).toNat b
    if alternate then s else trimZeros s

/-- A number with a point, in the way of a letter. -/
def float (l : Layout) (letter : Char) (x : Float) : String :=
  let upper (s : String) : String := if letter.isUpper then String.ofList (s.toList.map Char.toUpper) else s
  match Decimal.Reading.ofFloat x with
  | .notANumber => l.place (upper (l.sign false ++ "nan"))
  | .infinite negative => l.place (upper (l.sign negative ++ "inf"))
  | .finite b =>
    let places := l.precision.getD 6
    let body := match letter.toLower with
      | 'e' => scientificDigits l.alternate places b
      | 'g' => generalDigits l.alternate places b
      | _ => fixedDigits l.alternate places b
    l.digits (l.sign b.negative) (upper body) true

end Layout

namespace Directive

/-- Reads flags. -/
def flags (l : Layout) : List Char → Layout × List Char
  | '-' :: r => flags { l with left := true } r
  | '+' :: r => flags { l with plus := true } r
  | ' ' :: r => flags { l with blank := true } r
  | '#' :: r => flags { l with alternate := true } r
  | '0' :: r => flags { l with zero := true } r
  | r => (l, r)

/-- Reads a number or a star. -/
def amount (cs : List Char) : Option Nat × Bool × List Char :=
  match cs with
  | '*' :: r => (none, true, r)
  | _ =>
    let ds := cs.takeWhile Char.isDigit
    ((String.ofList ds).toNat?, false, cs.drop ds.length)

/-- Reads a directive after its percent sign, and gives the rest. -/
def read? (cs : List Char) : Option (Directive × List Char) :=
  let (l, r) := flags {} cs
  let (width, starWidth, r) := amount r
  let (precision, starPrecision, r) := match r with
    | '.' :: r =>
      let (n, star, r) := amount r
      (some (n.getD 0), star, r)
    | r => (none, false, r)
  let r := r.dropWhile fun c => c = 'l' || c = 'h' || c = 'q' || c = 'j' || c = 'z' || c = 'L'
  match r with
  | c :: rest => some (.value { l with width := width.getD 0, precision := precision } starWidth starPrecision c, rest)
  | [] => none

/-- Reads a format in which escapes are replaced already; `fuel` is more than its length. -/
def readAll : Nat → List Char → List Directive
  | 0, _ => []
  | fuel + 1, cs =>
    match cs with
    | [] => []
    | '%' :: '%' :: r => .text ['%'] :: readAll fuel r
    | '%' :: r =>
      match read? r with
      | some (d, rest) => d :: readAll fuel rest
      | none => [.text cs]
    | c :: r =>
      let more := r.takeWhile (· ≠ '%')
      .text (c :: more) :: readAll fuel (r.drop more.length)

end Directive
end Mend.Shell
