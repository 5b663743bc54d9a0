import Mend.Json.Basic
import Mend.Text.Utf8

/-!
# Reading JSON

`Json.parse` accepts exactly one value with blanks around it. Numbers are whole when they have
neither point nor exponent and fit sixty-four bits; others are put together from at most as many
digits as sixty-four bits hold and a power of ten.

A document may also come as bytes. Those that are no UTF-8 may stand in strings, which then have no
text. They are handed on as a character that no document can hold.
-/

namespace Mend.Json

/-- The blanks of the grammar. -/
def isBlank (c : Char) : Bool := c = ' ' || c = '\n' || c = '\t' || c = '\r'

/-- Drops leading blanks. -/
def skip (cs : List Char) : List Char := cs.dropWhile isBlank

/-! ## Numbers -/

/-- Adds digits to a number as long as it fits sixty-four bits; what does not fit is returned. -/
def gather (value : Nat) : List Char → Nat × List Char
  | [] => (value, [])
  | d :: ds =>
    let next := value * 10 + (d.toNat - 48)
    if next < UInt64.size then gather next ds else (value, d :: ds)

/-- `value * 10 ^ exponent` in floating point: one operation with an exact power as long as the
exponent is at most 308, and steps of 308 beyond. There is no result above the largest number. -/
def scale (value : Float) (exponent : Int) : Nat → Option Float
  | 0 => some value
  | fuel + 1 =>
    if exponent.natAbs ≤ 308 then
      let power := Float.ofScientific 1 false exponent.natAbs
      if 0 ≤ exponent then
        let r := value * power
        if r.isInf then none else some r
      else some (value / power)
    else if value == 0 then some value
    else if 0 ≤ exponent then none
    else scale (value / 1e308) (exponent + 308) fuel

/-- A real number from its digits before and after the point and its exponent. -/
def real? (negative : Bool) (whole part : List Char) (exponent : Int) : Option Float :=
  let (v, beyond) := gather 0 whole
  let (v, unread) := gather v part
  let e : Int := exponent + (beyond.length : Int) - ((part.length - unread.length : Nat) : Int)
  let bounded : Option Float :=
    if exponent.natAbs ≥ Nat.pow 2 31 then
      if v ≠ 0 && 0 ≤ exponent then none else some 0
    else scale (UInt64.ofNat v).toFloat e 5
  bounded.map fun x => if negative then -x else x

/-- A whole number if it fits, and the nearest real number otherwise. -/
def number (negative : Bool) (digits : List Char) : Json :=
  let (v, beyond) := gather 0 digits
  if beyond.isEmpty && (!negative || (0 < v && v ≤ Nat.pow 2 63)) then
    .int (if negative then -(v : Int) else v)
  else match real? negative digits [] 0 with
    | some x => .real x
    | none => .noValue

/-- Takes the leading digits. -/
def digits (cs : List Char) : List Char × List Char := cs.span Char.isDigit

/-- Reads an exponent after its mark. -/
def exponent? (cs : List Char) : Option (Int × List Char) :=
  let (negative, cs) := match cs with
    | '-' :: r => (true, r)
    | '+' :: r => (false, r)
    | r => (false, r)
  let (ds, rest) := digits cs
  if ds.isEmpty then none
  else
    let v : Nat := ds.foldl (fun v d => v * 10 + (d.toNat - 48)) 0
    some (if negative then -(v : Int) else v, rest)

/-- Reads a number without its sign. No digit follows a leading zero, and digits stand on both
sides of a point. -/
def number? (negative : Bool) (cs : List Char) : Option (Json × List Char) :=
  let (whole, rest) := match cs with
    | '0' :: r => (['0'], r)
    | r => digits r
  if whole.isEmpty then none
  else if whole = ['0'] && (rest.head?.map Char.isDigit).getD false then none
  else
    let finish (part : List Char) (rest : List Char) (exact : Bool) : Option (Json × List Char) :=
      match rest with
      | c :: r =>
        if c = 'e' || c = 'E' then do
          let (e, rest) ← exponent? r
          some (((real? negative whole part e).map Json.real).getD .noValue, rest)
        else if exact then some (number negative whole, rest)
        else some (((real? negative whole part 0).map Json.real).getD .noValue, rest)
      | [] =>
        if exact then some (number negative whole, [])
        else some (((real? negative whole part 0).map Json.real).getD .noValue, [])
    match rest with
    | '.' :: r =>
      let (part, rest) := digits r
      if part.isEmpty then none else finish part rest false
    | r => finish [] r true

/-! ## Strings -/

/-- The value of a hexadecimal digit. -/
def hexValue? (c : Char) : Option Nat :=
  if c.isDigit then some (c.toNat - 48)
  else if 'a' ≤ c && c ≤ 'f' then some (c.toNat - 87)
  else if 'A' ≤ c && c ≤ 'F' then some (c.toNat - 55)
  else none

/-- The value of four hexadecimal digits. -/
def unit? (a b c d : Char) : Option Nat := do
  let a ← hexValue? a
  let b ← hexValue? b
  let c ← hexValue? c
  let d ← hexValue? d
  some (((a * 16 + b) * 16 + c) * 16 + d)

/-- The character that a letter after a backslash stands for. -/
def escaped? (c : Char) : Option Char :=
  if c = '"' then some '"'
  else if c = '\\' then some '\\'
  else if c = '/' then some '/'
  else if c = 'b' then some '\x08'
  else if c = 'f' then some '\x0c'
  else if c = 'n' then some '\n'
  else if c = 'r' then some '\r'
  else if c = 't' then some '\t'
  else none

/-- The character that stands for bytes that are no UTF-8. -/
def brokenMark : Char := '\x01'

/-- A part of a string's text: a character, half of a surrogate pair, or bytes that are no UTF-8. -/
inductive Piece where
  | char (c : Char)
  | half (unit : Nat)
  | broken

/-- The part that a sixteen-bit unit stands for. -/
def Piece.ofUnit (n : Nat) : Piece :=
  if 0xD800 ≤ n && n ≤ 0xDFFF then .half n else .char (Char.ofNat n)

/-- Joins the halves of surrogate pairs. No half may stand alone, and nothing may be broken. -/
def joinHalves : List Piece → List Char → Option (List Char)
  | [], acc => some acc.reverse
  | .char c :: rest, acc => joinHalves rest (c :: acc)
  | .half n :: .half m :: rest, acc =>
    if n ≤ 0xDBFF && 0xDC00 ≤ m then
      joinHalves rest (Char.ofNat (0x10000 + (n - 0xD800) * 0x400 + (m - 0xDC00)) :: acc)
    else none
  | .half _ :: _, _ => none
  | .broken :: _, _ => none

/-- Reads the parts of a string after its opening quote; `acc` holds those so far, the last first. -/
def pieces? (acc : List Piece) : List Char → Option (List Piece × List Char)
  | [] => none
  | '"' :: rest => some (acc.reverse, rest)
  | '\\' :: 'u' :: a :: b :: c :: d :: rest =>
    match unit? a b c d with
    | some n => pieces? (Piece.ofUnit n :: acc) rest
    | none => none
  | '\\' :: c :: rest =>
    match escaped? c with
    | some x => pieces? (.char x :: acc) rest
    | none => none
  | c :: rest =>
    if c = brokenMark then pieces? (.broken :: acc) rest
    else if c.toNat < 0x20 || c = '\\' then none
    else pieces? (.char c :: acc) rest

/-- Reads a string after its opening quote. There is no text if half of a pair stands alone or bytes are
broken. -/
def string? (cs : List Char) : Option (Option String × List Char) :=
  (pieces? [] cs).map fun (ps, rest) => ((joinHalves ps []).map String.ofList, rest)

/-! ## Values -/

/-- Drops an expected word. -/
def word? : List Char → List Char → Option (List Char)
  | [], rest => some rest
  | w :: ws, c :: cs => if w = c then word? ws cs else none
  | _ :: _, [] => none

/-- A record, unless one of its names has no text. -/
def object (fields : List (Option String × Json)) : Json :=
  match fields.mapM fun (k, v) => k.map (·, v) with
  | some fs => .obj fs
  | none => .noValue

mutual

/-- Reads a value. The number `fuel` bounds the nesting and the count of items together; one for
each character of the text is enough. -/
def json? : Nat → List Char → Option (Json × List Char)
  | 0, _ => none
  | fuel + 1, cs =>
    match skip cs with
    | 'n' :: r => (word? ['u', 'l', 'l'] r).map (.null, ·)
    | 't' :: r => (word? ['r', 'u', 'e'] r).map (.bool true, ·)
    | 'f' :: r => (word? ['a', 'l', 's', 'e'] r).map (.bool false, ·)
    | '"' :: r =>
      match string? r with
      | some (some s, rest) => some (.str s, rest)
      | some (none, rest) => some (.noValue, rest)
      | none => none
    | '[' :: r =>
      match skip r with
      | ']' :: rest => some (.arr [], rest)
      | r => (items? fuel [] r).map fun (xs, rest) => (.arr xs, rest)
    | '{' :: r =>
      match skip r with
      | '}' :: rest => some (.obj [], rest)
      | r => (fields? fuel [] r).map fun (fs, rest) => (object fs, rest)
    | '-' :: r => number? true r
    | r => number? false r

/-- Reads the items of a list up to its closing bracket. -/
def items? : Nat → List Json → List Char → Option (List Json × List Char)
  | 0, _, _ => none
  | fuel + 1, acc, cs =>
    match json? fuel cs with
    | none => none
    | some (v, rest) =>
      match skip rest with
      | ',' :: r => items? fuel (v :: acc) r
      | ']' :: r => some ((v :: acc).reverse, r)
      | _ => none

/-- Reads the fields of a record up to its closing brace. -/
def fields? : Nat → List (Option String × Json) → List Char →
    Option (List (Option String × Json) × List Char)
  | 0, _, _ => none
  | fuel + 1, acc, cs =>
    match skip cs with
    | '"' :: r =>
      match string? r with
      | none => none
      | some (k, rest) =>
        match skip rest with
        | ':' :: r =>
          match json? fuel r with
          | none => none
          | some (v, rest) =>
            match skip rest with
            | ',' :: r => fields? fuel ((k, v) :: acc) r
            | '}' :: r => some (((k, v) :: acc).reverse, r)
            | _ => none
        | _ => none
    | _ => none

end

/-- The value that characters spell, of which some stand for broken bytes. -/
def ofChars? (cs : List Char) : Option Json :=
  match json? (cs.length + 1) cs with
  | some (v, rest) => if (skip rest).isEmpty then some v else none
  | none => none

/-- The value that a text spells. -/
def parse (s : String) : Option Json := if s.contains brokenMark then none else ofChars? s.toList

/-- The value that bytes spell. -/
def parseBytes (b : ByteArray) : Option Json :=
  match Text.decode? b with
  | some s => parse s
  | none =>
    if b.toList.contains (UInt8.ofNat brokenMark.toNat) then none
    else ofChars? (Text.lossyFrom brokenMark b b.size 0)

end Mend.Json
