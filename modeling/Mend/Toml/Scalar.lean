import Mend.Decimal.Text
import Mend.Json.Basic

/-!
# Scalars of a configuration document

Texts between quotes, and the words that are numbers, truth values and moments. A moment is kept as
its text.
-/

namespace Mend.Toml

/-! ## Characters -/

/-- A space or a tab. -/
def isBlank (c : Char) : Bool := c = ' ' || c = '\t'

/-- Drops leading spaces and tabs. -/
def skip (cs : List Char) : List Char := cs.dropWhile isBlank

/-- A character that may stand in a comment and, quotes and backslashes apart, in a text. -/
def isPlain (c : Char) : Bool := c = '\t' || (0x20 ≤ c.toNat && c.toNat ≠ 0x7F)

/-- Takes a line end. -/
def newline? : List Char → Option (List Char)
  | '\n' :: r => some r
  | '\r' :: '\n' :: r => some r
  | _ => none

/-! ## Texts -/

/-- The value of a hexadecimal digit. -/
def hexValue? (c : Char) : Option Nat :=
  if c.isDigit then some (c.toNat - 48)
  else if 'a' ≤ c && c ≤ 'f' then some (c.toNat - 87)
  else if 'A' ≤ c && c ≤ 'F' then some (c.toNat - 55)
  else none

/-- The character of a code point in hexadecimal digits. -/
def codePoint? (digits : List Char) : Option Char := do
  let n ← digits.foldlM (fun n d => (hexValue? d).map fun v => n * 16 + v) 0
  if n < 0xD800 || (0xE000 ≤ n && n < 0x110000) then some (Char.ofNat n) else none

/-- Reads what follows a backslash. -/
def escape? : List Char → Option (Char × List Char)
  | 'b' :: r => some ('\x08', r)
  | 't' :: r => some ('\t', r)
  | 'n' :: r => some ('\n', r)
  | 'f' :: r => some ('\x0c', r)
  | 'r' :: r => some ('\r', r)
  | '"' :: r => some ('"', r)
  | '\\' :: r => some ('\\', r)
  | 'u' :: a :: b :: c :: d :: r => (codePoint? [a, b, c, d]).map (·, r)
  | 'U' :: a :: b :: c :: d :: e :: f :: g :: h :: r => (codePoint? [a, b, c, d, e, f, g, h]).map (·, r)
  | _ => none

/-- Reads the rest of a text on one line up to a quote. In a literal one a backslash is a backslash. -/
def textTo (quote : Char) (literal : Bool) : Nat → List Char → List Char → Option (String × List Char)
  | 0, _, _ => none
  | _, _, [] => none
  | fuel + 1, acc, c :: r =>
    if c = quote then some (String.ofList acc.reverse, r)
    else if c = '\\' && !literal then
      match escape? r with
      | some (e, r) => textTo quote literal fuel (e :: acc) r
      | none => none
    else if isPlain c then textTo quote literal fuel (c :: acc) r
    else none

/-- What follows a backslash that ends its line: all blanks and line ends are dropped. -/
def continuation? (cs : List Char) : Option (List Char) :=
  match newline? (skip cs) with
  | some r =>
    let rec drop : Nat → List Char → List Char
      | 0, cs => cs
      | fuel + 1, cs =>
        match newline? (skip cs) with
        | some r => drop fuel r
        | none => skip cs
    some (drop r.length r)
  | none => none

/-- Reads the rest of a text over several lines up to three quotes. Up to two quotes may stand before
them. -/
def longTextTo (quote : Char) (literal : Bool) : Nat → List Char → List Char → Option (String × List Char)
  | 0, _, _ => none
  | _, _, [] => none
  | fuel + 1, acc, c :: r =>
    if c = quote then
      let n := ((c :: r).takeWhile (· = quote)).length
      let r := (c :: r).drop n
      if n < 3 then longTextTo quote literal fuel (List.replicate n quote ++ acc) r
      else if n ≤ 5 then some (String.ofList (List.replicate (n - 3) quote ++ acc).reverse, r)
      else none
    else if c = '\\' && !literal then
      match continuation? r with
      | some r => longTextTo quote literal fuel acc r
      | none =>
        match escape? r with
        | some (e, r) => longTextTo quote literal fuel (e :: acc) r
        | none => none
    else match newline? (c :: r) with
      | some r => longTextTo quote literal fuel ('\n' :: acc) r
      | none => if isPlain c then longTextTo quote literal fuel (c :: acc) r else none

/-- Drops a line end, if there is one. -/
def dropNewline (cs : List Char) : List Char := (newline? cs).getD cs

/-- Reads a text on one line. -/
def text? (cs : List Char) : Option (String × List Char) :=
  match cs with
  | '"' :: r => textTo '"' false (r.length + 1) [] r
  | '\'' :: r => textTo '\'' true (r.length + 1) [] r
  | _ => none

/-- Reads a text on one line or on several. -/
def anyText? (cs : List Char) : Option (String × List Char) :=
  match cs with
  | '"' :: '"' :: '"' :: r => longTextTo '"' false (r.length + 1) [] (dropNewline r)
  | '\'' :: '\'' :: '\'' :: r => longTextTo '\'' true (r.length + 1) [] (dropNewline r)
  | _ => text? cs

/-! ## Numbers -/

/-- Digits with single underscores between them; the digits alone. -/
def grouped? (isDigit : Char → Bool) (cs : List Char) : Option (List Char) :=
  let groups := cs.splitOn '_'
  if groups.all fun g => !g.isEmpty && g.all isDigit then some groups.flatten else none

/-- Digits of a number without a superfluous zero at the start. -/
def decimal? (cs : List Char) : Option (List Char) :=
  match cs with
  | ['0'] => some ['0']
  | '0' :: _ => none
  | _ => grouped? Char.isDigit cs

/-- Whether there is a minus at the start, and what follows the sign. -/
def signed (cs : List Char) : Bool × List Char :=
  match cs with
  | '-' :: r => (true, r)
  | '+' :: r => (false, r)
  | _ => (false, cs)

/-- The number of digits in a base. -/
def numeral (base : Nat) (digits : List Char) : Nat :=
  digits.foldl (fun n d => n * base + (hexValue? d).getD 0) 0

/-- A digit of a base. -/
def isDigitOf (base : Nat) (c : Char) : Bool :=
  match hexValue? c with
  | some v => decide (v < base)
  | none => false

/-- A whole number of sixty-four bits with a sign. -/
def whole? (word : List Char) : Option Int :=
  let unsigned (base : Nat) (cs : List Char) : Option Int := do
    let ds ← grouped? (isDigitOf base) cs
    let n := numeral base ds
    if n < Nat.pow 2 63 then some n else none
  match word with
  | '0' :: 'x' :: r => unsigned 16 r
  | '0' :: 'o' :: r => unsigned 8 r
  | '0' :: 'b' :: r => unsigned 2 r
  | _ => do
    let (negative, cs) := signed word
    let n := numeral 10 (← decimal? cs)
    if negative then if n ≤ Nat.pow 2 63 then some (-(n : Int)) else none
    else if n < Nat.pow 2 63 then some n else none

/-- A real number. One that is too large is refused. -/
def real? (word : List Char) : Option Float :=
  let (negative, cs) := signed word
  let sign (x : Float) : Float := if negative then -x else x
  if cs = "inf".toList then some (sign (1.0 / 0.0))
  else if cs = "nan".toList then some (0.0 / 0.0)
  else do
    let (mantissa, mark) := cs.span fun c => c ≠ 'e' && c ≠ 'E'
    let (whole, point) := mantissa.span (· ≠ '.')
    let whole ← decimal? whole
    let part ← match point with
      | [] => some []
      | _ :: r => grouped? Char.isDigit r
    let power ← match mark with
      | [] => some []
      | _ :: r => do
        let (minus, ds) := signed r
        let ds ← grouped? Char.isDigit ds
        some ((if minus then ['-'] else []) ++ ds)
    if point.isEmpty && mark.isEmpty then none
    else
      let text := whole ++ '.' :: (if part.isEmpty then ['0'] else part) ++
        (if power.isEmpty then [] else 'e' :: power)
      let x ← Decimal.parse (String.ofList text)
      if x.isInf && !negative then none else some (sign x)

/-! ## Moments -/

/-- A number of exactly two digits within bounds. -/
def two? (low high : Nat) (cs : List Char) : Option (Nat × List Char) :=
  match cs with
  | a :: b :: r =>
    if a.isDigit && b.isDigit then
      let n := numeral 10 [a, b]
      if low ≤ n && n ≤ high then some (n, r) else none
    else none
  | _ => none

/-- The number of days of a month. -/
def daysIn (year month : Nat) : Nat :=
  let leap := year % 4 = 0 && (year % 100 ≠ 0 || year % 400 = 0)
  if month = 2 then if leap then 29 else 28
  else if [4, 6, 9, 11].contains month then 30
  else 31

/-- Takes a character. -/
def take? (c : Char) : List Char → Option (List Char)
  | d :: r => if d = c then some r else none
  | [] => none

/-- Reads a day of the calendar. -/
def day? (cs : List Char) : Option (List Char) := do
  let (y1, r) ← two? 0 99 cs
  let (y2, r) ← two? 0 99 r
  let r ← take? '-' r
  let (m, r) ← two? 1 12 r
  let r ← take? '-' r
  let (_, r) ← two? 1 (daysIn (y1 * 100 + y2) m) r
  some r

/-- Reads a time of day. -/
def clock? (cs : List Char) : Option (List Char) := do
  let (_, r) ← two? 0 23 cs
  let r ← take? ':' r
  let (_, r) ← two? 0 59 r
  let r ← take? ':' r
  let (_, r) ← two? 0 60 r
  match r with
  | '.' :: r =>
    let (ds, rest) := r.span Char.isDigit
    if ds.isEmpty then none else some rest
  | r => some r

/-- Reads a distance from the prime meridian, if there is one. -/
def offset? (cs : List Char) : Option (List Char) :=
  match cs with
  | 'Z' :: r => some r
  | 'z' :: r => some r
  | '+' :: r => hours r
  | '-' :: r => hours r
  | r => some r
where
  hours (r : List Char) : Option (List Char) := do
    let (_, r) ← two? 0 23 r
    let r ← take? ':' r
    let (_, r) ← two? 0 59 r
    some r

/-- What follows a moment: a day, a time of day, or both of them. -/
def afterMoment? (cs : List Char) : Option (List Char) :=
  match day? cs with
  | none => clock? cs
  | some r =>
    match r with
    | c :: t =>
      if c = 'T' || c = 't' || c = ' ' then
        match clock? t with
        | some r => offset? r
        | none => some (c :: t)
      else some (c :: t)
    | [] => some []

/-- The key under which the text of a moment stands. -/
def momentKey : String := "$moment"

/-- A character of a word. -/
def isWordChar (c : Char) : Bool :=
  c.isAlphanum || c = '_' || c = '+' || c = '-' || c = '.' || c = ':'

/-- Reads a number, a truth value or a moment. -/
def word? (cs : List Char) : Option (Json × List Char) :=
  match (if (cs.head?.map Char.isDigit).getD false then afterMoment? cs else none) with
  | some rest => some (.obj [(momentKey, .str (String.ofList (cs.take (cs.length - rest.length))))], rest)
  | none =>
    let (word, rest) := cs.span isWordChar
    if word = "true".toList then some (.bool true, rest)
    else if word = "false".toList then some (.bool false, rest)
    else match whole? word with
      | some n => some (.int n, rest)
      | none => (real? word).map fun x => (.real x, rest)

end Mend.Toml
