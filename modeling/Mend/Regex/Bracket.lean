import Mend.Regex.Escape

/-!
# Bracketed classes

A class between brackets is a union of characters, ranges, named classes and nested classes, or a
combination of such unions by intersection, difference and symmetric difference, taken from left to
right.
-/

namespace Mend.Regex

open Unicode (CharSet)

/-- How the unions of a class combine. -/
inductive SetOp where
  | inter
  | diff
  | symmDiff
  deriving DecidableEq

/-- The result of an operation on two sets. -/
def SetOp.apply : SetOp → CharSet → CharSet → CharSet
  | .inter => CharSet.inter
  | .diff => CharSet.diff
  | .symmDiff => CharSet.symmDiff

/-- A class that is being read. -/
structure Bracket where
  negated : Bool
  /-- The operation that waits for its right side, and its left side with its nesting. -/
  pending : Option (SetOp × CharSet × Nat)
  /-- The union that is being read. -/
  items : List (Nat × Nat)
  count : Nat
  /-- The nesting of the members of the union. -/
  depth : Nat

/-- The classes with ASCII members that have a name between colons. -/
def asciiNamed? (name : String) : Option (List (Nat × Nat)) :=
  List.lookup name [
    ("alnum", [(48, 57), (65, 90), (97, 122)]),
    ("alpha", [(65, 90), (97, 122)]),
    ("ascii", [(0, 127)]),
    ("blank", [(9, 9), (32, 32)]),
    ("cntrl", [(0, 31), (127, 127)]),
    ("digit", [(48, 57)]),
    ("graph", [(33, 126)]),
    ("lower", [(97, 122)]),
    ("print", [(32, 126)]),
    ("punct", [(33, 47), (58, 64), (91, 96), (123, 126)]),
    ("space", [(9, 13), (32, 32)]),
    ("upper", [(65, 90)]),
    ("word", [(48, 57), (65, 90), (95, 95), (97, 122)]),
    ("xdigit", [(48, 57), (65, 70), (97, 102)])]

/-- Reads a named class after its opening bracket: `:name:]`, with `^` before the name to negate. -/
def asciiClass? (cs : List Char) : Option (Bool × List (Nat × Nat) × List Char) :=
  match cs with
  | ':' :: r =>
    let (negated, r) := match r with
      | '^' :: r => (true, r)
      | r => (false, r)
    let (name, rest) := r.span (· ≠ ':')
    match rest with
    | ':' :: ']' :: rest => (asciiNamed? (String.ofList name)).map fun s => (negated, s, rest)
    | _ => none
  | _ => none

/-- A member of a class: a character, or a set that cannot end a range. -/
inductive Member where
  | char (n : Nat)
  | set (s : CharSet)

/-- The member that a literal stands for. Without Unicode it is in ASCII. -/
def memberOf? (flags : Flags) (c : Char) : Option Member :=
  if flags.unicode || c.toNat < 128 then some (.char c.toNat) else none

/-- Reads a member that is no nested class. -/
def member? (flags : Flags) : List Char → Option (Member × List Char)
  | [] => none
  | '\\' :: r => do
    match ← escape? flags r with
    | (.literal c _, rest) => (memberOf? flags c).map (·, rest)
    | (.look _, _) => none
    | (e, rest) => (e.set? flags).map fun s => (.set s, rest)
  | c :: r => (memberOf? flags c).map (·, r)

/-- What decides whether a hyphen makes a range: the character after it. With blanks and comments, it is
the first that is neither blank nor the mark of a comment, even inside the comment. -/
def afterHyphen? (spaced : Bool) (cs : List Char) : Option Char :=
  if !spaced then cs.head?
  else
    let rest := cs.dropWhile Text.isBlank
    let rest := match rest with
      | '#' :: r => r.dropWhile Text.isBlank
      | r => r
    rest.head? <|> cs.head?

/-- Reads a member, or the range that begins with it. A hyphen before the closing bracket or another
hyphen makes no range. -/
def rangeOrMember? (flags : Flags) (cs : List Char) : Option (List (Nat × Nat) × List Char) := do
  let (first, rest) ← member? flags cs
  let rest := skip flags.spaced rest
  let alone : Option (List (Nat × Nat) × List Char) := match first with
    | .char n => some ([(n, n)], rest)
    | .set s => some (s.ranges.toList, rest)
  match rest with
  | [] => none
  | '-' :: r =>
    if afterHyphen? flags.spaced r = some ']' || afterHyphen? flags.spaced r = some '-' then alone
    else
      match first, ← member? flags (skip flags.spaced r) with
      | .char lo, (.char hi, rest) => if lo ≤ hi then some ([(lo, hi)], rest) else none
      | _, _ => none
  | _ => alone

/-- The literal hyphens, and the literal closing bracket, with which a class may begin. -/
def leading (spaced : Bool) : Nat → Nat → List Char → Nat × List Char
  | 0, n, cs => (n, cs)
  | fuel + 1, n, cs =>
    match cs with
    | '-' :: r => leading spaced fuel (n + 1) (skip spaced r)
    | _ => (n, cs)

/-- The start of a class after its opening bracket. -/
def openBracket? (flags : Flags) (cs : List Char) : Option (Bracket × List Char) :=
  let spaced := flags.spaced
  let (negated, cs) := match skip spaced cs with
    | '^' :: r => (true, skip spaced r)
    | r => (false, r)
  let (hyphens, cs) := leading spaced (cs.length + 1) 0 cs
  let items := if hyphens = 0 then [] else [(45, 45)]
  match cs with
  | [] => none
  | ']' :: r =>
    if hyphens = 0 then
      match skip spaced r with
      | [] => none
      | r => some (⟨negated, none, [(93, 93)], 1, 0⟩, r)
    else some (⟨negated, none, items, hyphens, 0⟩, cs)
  | _ => some (⟨negated, none, items, hyphens, 0⟩, cs)

/-- The union so far, joined with what waits on its left, and its nesting. -/
def Bracket.combined (flags : Flags) (b : Bracket) : CharSet × Nat :=
  let items := CharSet.ofRanges b.items
  let depth := if b.count ≥ 2 then b.depth + 1 else b.depth
  match b.pending with
  | none => (items, depth)
  | some (op, left, leftDepth) =>
    (op.apply (foldCase flags left) (foldCase flags items), max leftDepth depth + 1)

/-- Begins the right side of an operation. -/
def Bracket.operator (flags : Flags) (b : Bracket) (op : SetOp) : Bracket :=
  { b with pending := some (op, b.combined flags), items := [], count := 0, depth := 0 }

/-- Adds ranges to the union. -/
def Bracket.add (b : Bracket) (rs : List (Nat × Nat)) : Bracket :=
  { b with items := rs ++ b.items, count := b.count + 1 }

/-- Reads a class after its opening bracket: its set, its nesting, and what follows its closing
bracket. `outer` holds the classes that it is nested in; `fuel` is at least the length of the text. -/
def bracket? (flags : Flags) : Nat → Bracket → List Bracket → List Char → Option (CharSet × Nat × List Char)
  | 0, _, _, _ => none
  | fuel + 1, b, outer, cs =>
    match skip flags.spaced cs with
    | [] => none
    | '[' :: r =>
      match asciiClass? r with
      | some (negated, rs, rest) => do
        let s ← finishClass? flags negated (CharSet.ofRanges rs)
        bracket? flags fuel (b.add s.ranges.toList) outer rest
      | none => do
        let (inner, rest) ← openBracket? flags r
        bracket? flags fuel inner (b :: outer) rest
    | ']' :: r => do
      let (combined, depth) := b.combined flags
      let s ← finishClass? flags b.negated combined
      match outer with
      | [] => some (s, depth + 1, r)
      | parent :: rest =>
        let parent := parent.add s.ranges.toList
        bracket? flags fuel { parent with depth := max parent.depth (depth + 1) } rest r
    | '&' :: '&' :: r => bracket? flags fuel (b.operator flags .inter) outer r
    | '-' :: '-' :: r => bracket? flags fuel (b.operator flags .diff) outer r
    | '~' :: '~' :: r => bracket? flags fuel (b.operator flags .symmDiff) outer r
    | r => do
      let (rs, rest) ← rangeOrMember? flags r
      bracket? flags fuel (b.add rs) outer rest

/-- Reads a class after its opening bracket. -/
def class? (flags : Flags) (cs : List Char) : Option (CharSet × Nat × List Char) := do
  let (b, rest) ← openBracket? flags cs
  bracket? flags (rest.length + 1) b [] rest

end Mend.Regex
