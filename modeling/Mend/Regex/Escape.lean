import Mend.Regex.Syntax
import Mend.Unicode.Name
import Mend.Unicode.Fold
import Mend.Text.Blank

/-!
# Flags and escapes of patterns

What follows a backslash: a literal character, a class, or a condition on a place. The flags say how
literals, classes and conditions are taken.
-/

namespace Mend.Regex

open Unicode (CharSet)

/-- The flags in force at a place of a pattern. -/
structure Flags where
  ignoreCase : Bool := false
  multiLine : Bool := false
  dotAll : Bool := false
  swapGreed : Bool := false
  unicode : Bool := true
  carriageReturn : Bool := false
  /-- Blanks and comments are skipped. -/
  spaced : Bool := false

/-- Skips blanks, and comments up to the end of their line. -/
def skipComments : List Char → Bool → List Char
  | [], _ => []
  | c :: cs, true => skipComments cs (c ≠ '\n')
  | c :: cs, false =>
    if Text.isBlank c then skipComments cs false
    else if c = '#' then skipComments cs true
    else c :: cs

/-- Skips blanks and comments where the flags say so. -/
def skip (spaced : Bool) (cs : List Char) : List Char := if spaced then skipComments cs false else cs

/-- The character with a code point. -/
def charOf? (n : Nat) : Option Char := if n.isValidChar then some (Char.ofNat n) else none

/-- The value of a hexadecimal digit of either case. -/
def hex? (c : Char) : Option Nat := Unicode.hexDigit? c.toLower

/-- Characters with a meaning of their own, which a backslash takes away. -/
def isMeta (c : Char) : Bool := "\\.+*?()|[]\x7b\x7d^$#&-~".toList.contains c

/-- Characters that a backslash may stand before without changing them. -/
def isEscapeable (c : Char) : Bool :=
  isMeta c || (c.toNat < 128 && !c.isAlphanum && c ≠ '<' && c ≠ '>')

/-- What a backslash and the text after it stand for. -/
inductive Escape where
  /-- A character; `byte` says that two hexadecimal digits spell it. -/
  | literal (c : Char) (byte : Bool)
  | look (condition : Look)
  | digit (negated : Bool)
  | blank (negated : Bool)
  | word (negated : Bool)
  | property (set : CharSet) (negated : Bool)

/-- Reads `n` hexadecimal digits. -/
def hexDigits? (spaced : Bool) : Nat → Nat → List Char → Option (Nat × List Char)
  | 0, v, cs => some (v, cs)
  | n + 1, v, c :: cs => do
    let d ← hex? c
    hexDigits? spaced n (v * 16 + d) (skip spaced cs)
  | _ + 1, _, [] => none

/-- Reads hexadecimal digits up to a closing brace; `fuel` is at least their number. -/
def hexBraced? (spaced : Bool) : Nat → Option Nat → List Char → Option (Nat × List Char)
  | 0, _, _ => none
  | fuel + 1, v, cs =>
    match skip spaced cs with
    | [] => none
    | c :: rest =>
      if c = '\x7d' then v.map fun v => (v, skip spaced rest)
      else match hex? c with
        | some d => hexBraced? spaced fuel (some (v.getD 0 * 16 + d)) rest
        | none => none

/-- Reads a character by its code point: `digits` of them, or any number between braces. -/
def hexEscape? (spaced : Bool) (digits : Nat) (cs : List Char) : Option (Escape × List Char) :=
  match skip spaced cs with
  | '\x7b' :: r => do
    let (v, rest) ← hexBraced? spaced (r.length + 1) none r
    let c ← charOf? v
    some (.literal c false, rest)
  | r => do
    let (v, rest) ← hexDigits? spaced digits 0 r
    let c ← charOf? v
    some (.literal c (digits = 2), rest)

/-- Reads the name of a property up to its closing brace. -/
def propertyName? (spaced : Bool) : Nat → List Char → List Char → Option (String × List Char)
  | 0, _, _ => none
  | fuel + 1, acc, cs =>
    match skip spaced cs with
    | [] => none
    | c :: rest =>
      if c = '\x7d' then some (String.ofList acc.reverse, rest)
      else propertyName? spaced fuel (c :: acc) rest

/-- Cuts a name at the first place where `mark` stands. -/
def cutAt (mark : List Char) : List Char → List Char → Option (List Char × List Char)
  | _, [] => none
  | acc, c :: cs =>
    if mark.isPrefixOf (c :: cs) then some (acc.reverse, (c :: cs).drop mark.length)
    else cutAt mark (c :: acc) cs

/-- The set that a property's name, or its name and value, stands for, and whether it is negated. -/
def propertySet? (name : String) : Option (CharSet × Bool) :=
  let cs := name.toList
  let valued (negated : Bool) (p : List Char × List Char) :=
    (Unicode.valued? (String.ofList p.1) (String.ofList p.2)).map (·, negated)
  match cutAt ['!', '='] [] cs with
  | some p => valued true p
  | none =>
    match cutAt [':'] [] cs with
    | some p => valued false p
    | none =>
      match cutAt ['='] [] cs with
      | some p => valued false p
      | none => (Unicode.named? name).map (·, false)

/-- Reads a property after its letter. -/
def property? (spaced negated : Bool) (cs : List Char) : Option (Escape × List Char) :=
  match skip spaced cs with
  | [] => none
  | '\x7b' :: r => do
    let (name, rest) ← propertyName? spaced (r.length + 1) [] r
    let (set, flipped) ← propertySet? name
    some (.property set (negated != flipped), rest)
  | c :: r =>
    if c = '\\' then none
    else do
      let set ← Unicode.named? c.toString
      some (.property set negated, skip spaced r)

/-- The conditions that a word in braces after `\b` stands for. -/
def wordEdge? (name : String) : Option WordEdge :=
  if name == "start" then some .start
  else if name == "end" then some .finish
  else if name == "start-half" then some .startHalf
  else if name == "end-half" then some .finishHalf
  else none

/-- Letters of the words in braces after `\b`. -/
def isEdgeLetter (c : Char) : Bool := c.isAlpha || c = '-'

/-- Reads the letters of such a word. -/
def edgeLetters (spaced : Bool) : Nat → List Char → List Char → List Char × List Char
  | 0, acc, cs => (acc.reverse, cs)
  | fuel + 1, acc, cs =>
    match cs with
    | c :: r => if isEdgeLetter c then edgeLetters spaced fuel (c :: acc) (skip spaced r) else (acc.reverse, cs)
    | [] => (acc.reverse, [])

/-- Reads what follows `\b`: a word in braces, unless the brace opens a repetition. -/
def boundary? (flags : Flags) (cs : List Char) : Option (Escape × List Char) :=
  let plain := some (Escape.look (.word .boundary (!flags.unicode)), cs)
  match cs with
  | '\x7b' :: r =>
    match skip flags.spaced r with
    | [] => none
    | c :: r' =>
      if isEdgeLetter c then
        let (name, rest) := edgeLetters flags.spaced (r'.length + 2) [] (c :: r')
        match rest with
        | '\x7d' :: rest => do
          let edge ← wordEdge? (String.ofList name)
          some (.look (.word edge (!flags.unicode)), rest)
        | _ => none
      else plain
  | _ => plain

/-- Reads what follows a backslash. Groups cannot be referred back to. -/
def escape? (flags : Flags) : List Char → Option (Escape × List Char)
  | [] => none
  | c :: r =>
    let spaced := flags.spaced
    let edge (e : WordEdge) := some (Escape.look (.word e (!flags.unicode)), r)
    let literal (c : Char) := some (Escape.literal c false, r)
    if c.isDigit then none
    else if c = 'x' then hexEscape? spaced 2 r
    else if c = 'u' then hexEscape? spaced 4 r
    else if c = 'U' then hexEscape? spaced 8 r
    else if c = 'p' then property? spaced false r
    else if c = 'P' then property? spaced true r
    else if c = 'd' then some (.digit false, r)
    else if c = 'D' then some (.digit true, r)
    else if c = 's' then some (.blank false, r)
    else if c = 'S' then some (.blank true, r)
    else if c = 'w' then some (.word false, r)
    else if c = 'W' then some (.word true, r)
    else if isEscapeable c then literal c
    else if c = 'a' then literal '\x07'
    else if c = 'f' then literal '\x0c'
    else if c = 't' then literal '\t'
    else if c = 'n' then literal '\n'
    else if c = 'r' then literal '\r'
    else if c = 'v' then literal '\x0b'
    else if c = 'A' then some (.look .textStart, r)
    else if c = 'z' then some (.look .textEnd, r)
    else if c = 'b' then boundary? flags r
    else if c = 'B' then edge .noBoundary
    else if c = '<' then edge .start
    else if c = '>' then edge .finish
    else none

/-! ## Sets -/

/-- The last member of what may stand in a set where the flags forbid Unicode: a byte. -/
def lastByte : Nat := 255

/-- All members are below 128. -/
def isAscii (s : CharSet) : Bool := (s.last?.getD 0) < 128

/-- The set with the other case of its ASCII letters. -/
def foldAscii (s : CharSet) : CharSet :=
  let letters := (List.range 26).filter fun k => s.contains (65 + k) || s.contains (97 + k)
  CharSet.union s (CharSet.ofRanges (letters.flatMap fun k => [(65 + k, 65 + k), (97 + k, 97 + k)]))

/-- The set with both cases of its members, if the flags ignore case. -/
def foldCase (flags : Flags) (s : CharSet) : CharSet :=
  if !flags.ignoreCase then s
  else if flags.unicode then Unicode.foldClosure s
  else foldAscii s

/-- Everything that is not in the set. -/
def negate (flags : Flags) (s : CharSet) : CharSet :=
  CharSet.complement (if flags.unicode then CharSet.top else lastByte) s

/-- A finished class. Without Unicode it must not hold anything but ASCII. -/
def finishClass? (flags : Flags) (negated : Bool) (s : CharSet) : Option CharSet :=
  let folded := foldCase flags s
  let result := if negated then negate flags folded else folded
  if flags.unicode || isAscii result then some result else none

/-- The class of digits, blanks or word characters. -/
def perl? (flags : Flags) (wide : CharSet) (ascii : List (Nat × Nat)) (negated : Bool) : Option CharSet :=
  let s := if flags.unicode then wide else CharSet.ofRanges ascii
  let result := if negated then negate flags s else s
  if flags.unicode || isAscii result then some result else none

/-- The set that an escape stands for, if it stands for a class. -/
def Escape.set? (flags : Flags) : Escape → Option CharSet
  | .digit n => perl? flags Unicode.digits [(48, 57)] n
  | .blank n => perl? flags Unicode.blanks [(9, 13), (32, 32)] n
  | .word n => perl? flags Unicode.wordChars [(48, 57), (65, 90), (95, 95), (97, 122)] n
  | .property s n =>
    if flags.unicode then finishClass? flags n s else none
  | _ => none

/-- The pattern of a literal outside of brackets. Without Unicode, two hexadecimal digits spell a byte,
which is a character only in ASCII. -/
def literal? (flags : Flags) (c : Char) (byte : Bool) : Option Node :=
  if !flags.unicode && byte && c.toNat ≥ 128 then none
  else some (.ofSet (foldCase flags (CharSet.single c)))

end Mend.Regex
