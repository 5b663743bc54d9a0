import Mend.Regex.Bracket
import Mend.Regex.Size

/-!
# Reading patterns

`Regex.parse` reads a pattern: alternatives of concatenations of repeated atoms, with groups, named
groups and flags. There is no result for a text that is no pattern, for one that is nested too
deeply, and for one whose automaton would be too large.
-/

namespace Mend.Regex

open Unicode (CharSet)

/-- An element of a concatenation. -/
structure Item where
  node : Node
  depth : Nat
  /-- Flags stand for nothing that could be repeated. -/
  repeatable : Bool

/-- The names of groups, and how many groups there are. -/
structure Groups where
  count : Nat
  names : List (String × Nat)

/-- The deepest nesting. -/
def maxDepth : Nat := 250

/-- A concatenation and its nesting; the last element comes first. -/
def concat (items : List Item) : Node × Nat :=
  let depth := items.foldl (fun d i => max d i.depth) 0
  (Node.concat (items.reverse.map Item.node), if items.length ≥ 2 then depth + 1 else depth)

/-- Alternatives and their nesting; the last comes first. -/
def alternatives (branches : List (Node × Nat)) : Node × Nat :=
  match branches with
  | [b] => b
  | _ =>
    let depth := branches.foldl (fun d b => max d b.2) 0
    (Node.choice (branches.reverse.map Prod.fst), depth + 1)

/-! ## Repetitions -/

/-- Repeats the last element. -/
def repeatLast? (flags : Flags) (items : List Item) (min : Nat) (max : Option Nat) (greedy : Bool) :
    Option (List Item) :=
  match items with
  | i :: rest =>
    if i.repeatable then
      some (⟨.repeat min max (greedy != flags.swapGreed) i.node, i.depth + 1, true⟩ :: rest)
    else none
  | [] => none

/-- A question mark here makes a repetition prefer few copies. -/
def lazyMark : List Char → Bool × List Char
  | '?' :: r => (false, r)
  | r => (true, r)

/-- Reads a number with blanks around it. -/
def count? (spaced : Bool) (cs : List Char) : Option (Nat × List Char) :=
  let rec go : Nat → Nat → Bool → List Char → Option (Nat × List Char)
    | 0, _, _, _ => none
    | fuel + 1, v, seen, cs =>
      match cs with
      | c :: r =>
        if c.isDigit then go fuel (v * 10 + (c.toNat - 48)) true (skip spaced r)
        else if seen && v < UInt32.size then some (v, cs.dropWhile Text.isBlank)
        else none
      | [] => none
  let start := cs.dropWhile Text.isBlank
  go (start.length + 1) 0 false start

/-- Reads the bounds of a repetition after the opening brace. -/
def bounds? (spaced : Bool) (cs : List Char) : Option (Nat × Option Nat × List Char) := do
  let (lo, rest) ← count? spaced (skip spaced cs)
  match rest with
  | '\x7d' :: r => some (lo, some lo, r)
  | ',' :: r =>
    match skip spaced r with
    | '\x7d' :: r => some (lo, none, r)
    | r =>
      let (hi, rest) ← count? spaced r
      match rest with
      | '\x7d' :: r => if lo ≤ hi then some (lo, some hi, r) else none
      | _ => none
  | _ => none

/-! ## Groups -/

/-- Sets or clears a flag. -/
def Flags.set? (f : Flags) (c : Char) (on : Bool) : Option Flags :=
  if c = 'i' then some { f with ignoreCase := on }
  else if c = 'm' then some { f with multiLine := on }
  else if c = 's' then some { f with dotAll := on }
  else if c = 'U' then some { f with swapGreed := on }
  else if c = 'u' then some { f with unicode := on }
  else if c = 'R' then some { f with carriageReturn := on }
  else if c = 'x' then some { f with spaced := on }
  else none

/-- Reads flags up to a colon or a closing parenthesis, which is not dropped. No flag and no hyphen
stands twice, and a hyphen does not stand last. -/
def flags? (f : Flags) (on : Bool) (seen : List Char) : List Char → Option (Flags × List Char)
  | [] => none
  | c :: r =>
    if c = ':' || c = ')' then
      if seen.head? = some '-' then none else some (f, c :: r)
    else if seen.contains c then none
    else if c = '-' then flags? f false (c :: seen) r
    else match f.set? c on with
      | some f => flags? f on (c :: seen) r
      | none => none

/-- Characters of the names of groups. -/
def isNameChar (first : Bool) (c : Char) : Bool :=
  c = '_' || Unicode.alphabetic.contains c.toNat ||
    (!first && (c = '.' || c = '[' || c = ']' || Unicode.numeric.contains c.toNat))

/-- Reads the name of a group up to its closing angle. -/
def groupName? (cs : List Char) : Option (String × List Char) :=
  let (name, rest) := cs.span (· ≠ '>')
  match name, rest with
  | c :: more, _ :: r =>
    if isNameChar true c && more.all (isNameChar false) then some (String.ofList name, r) else none
  | _, _ => none

/-- What an opening parenthesis begins. -/
inductive Opening where
  /-- A group with a number. -/
  | capture (rest : List Char) (groups : Groups)
  /-- A group without one, with flags of its own. -/
  | plain (flags : Flags) (rest : List Char)
  /-- Flags for the rest of the group that it stands in. -/
  | flags (flags : Flags) (rest : List Char)

/-- Reads what follows an opening parenthesis. A pattern cannot look around. -/
def opening? (flags : Flags) (groups : Groups) (cs : List Char) : Option Opening :=
  let index := groups.count + 1
  let named (r : List Char) : Option Opening := do
    let (name, rest) ← groupName? r
    if (groups.names.lookup name).isSome then none
    else some (.capture rest ⟨index, (name, index) :: groups.names⟩)
  match skip flags.spaced cs with
  | '?' :: '=' :: _ => none
  | '?' :: '!' :: _ => none
  | '?' :: '<' :: '=' :: _ => none
  | '?' :: '<' :: '!' :: _ => none
  | '?' :: 'P' :: '<' :: r => named r
  | '?' :: '<' :: r => named r
  | '?' :: r => do
    match ← flags? flags true [] r with
    | (f, ':' :: rest) => some (.plain f rest)
    | (f, ')' :: rest) => if r.head? = some ')' then none else some (.flags f rest)
    | _ => none
  | r => some (.capture r ⟨index, groups.names⟩)

/-! ## The grammar -/

/-- The start of a text or of a line. -/
def startLook (f : Flags) : Look :=
  if !f.multiLine then .textStart else if f.carriageReturn then .lineStartCr else .lineStart

/-- The end of a text or of a line. -/
def endLook (f : Flags) : Look :=
  if !f.multiLine then .textEnd else if f.carriageReturn then .lineEndCr else .lineEnd

/-- The set of the dot: any character, or any that ends no line. -/
def dot? (f : Flags) : Option CharSet :=
  if !f.unicode then none
  else if f.dotAll then some CharSet.all
  else if f.carriageReturn then some (CharSet.complement CharSet.top ⟨#[(10, 10), (13, 13)]⟩)
  else some (CharSet.complement CharSet.top ⟨#[(10, 10)]⟩)

/-- A group that is being read: its number, and what stands before it in the group around it. -/
structure Frame where
  index : Option Nat
  flags : Flags
  items : List Item
  branches : List (Node × Nat)

/-- Reads a pattern. `items` are the elements of the concatenation at hand and `branches` the
alternatives before it; `outer` are the open groups; `fuel` is at least the length of the text. -/
def read? : Nat → Flags → Groups → List Item → List (Node × Nat) → List Frame → List Char →
    Option (Node × Nat × Groups)
  | 0, _, _, _, _, _, _ => none
  | fuel + 1, flags, groups, items, branches, outer, cs =>
    let push (node : Node) (depth : Nat) (rest : List Char) :=
      read? fuel flags groups (⟨node, depth, true⟩ :: items) branches outer rest
    let again (repeated : Option (List Item)) (rest : List Char) := do
      read? fuel flags groups (← repeated) branches outer rest
    match skip flags.spaced cs with
    | [] =>
      match outer with
      | [] =>
        let (node, depth) := alternatives (concat items :: branches)
        some (node, depth, groups)
      | _ :: _ => none
    | ')' :: r =>
      match outer with
      | [] => none
      | frame :: outer =>
        let (node, depth) := alternatives (concat items :: branches)
        let node := match frame.index with
          | some i => .group i node
          | none => node
        read? fuel frame.flags groups (⟨node, depth + 1, true⟩ :: frame.items) frame.branches outer r
    | '|' :: r => read? fuel flags groups [] (concat items :: branches) outer r
    | '(' :: r => do
      match ← opening? flags groups r with
      | .capture rest gs =>
        read? fuel flags gs [] [] (⟨some gs.count, flags, items, branches⟩ :: outer) rest
      | .plain f rest => read? fuel f groups [] [] (⟨none, flags, items, branches⟩ :: outer) rest
      | .flags f rest =>
        read? fuel f groups (⟨.empty, 0, false⟩ :: items) branches outer rest
    | '[' :: r => do
      let (s, depth, rest) ← class? flags r
      push (.ofSet s) depth rest
    | '?' :: r =>
      let (greedy, rest) := lazyMark r
      again (repeatLast? flags items 0 (some 1) greedy) rest
    | '*' :: r =>
      let (greedy, rest) := lazyMark r
      again (repeatLast? flags items 0 none greedy) rest
    | '+' :: r =>
      let (greedy, rest) := lazyMark r
      again (repeatLast? flags items 1 none greedy) rest
    | '\x7b' :: r => do
      let (lo, hi, rest) ← bounds? flags.spaced r
      let (greedy, rest) := lazyMark (skip flags.spaced rest)
      again (repeatLast? flags items lo hi greedy) rest
    | '\\' :: r => do
      match ← escape? flags r with
      | (.literal c byte, rest) => push (← literal? flags c byte) 0 rest
      | (.look l, rest) => push (.look l) 0 rest
      | (e, rest) => push (.ofSet (← e.set? flags)) 0 rest
    | '.' :: r => do push (.ofSet (← dot? flags)) 0 r
    | '^' :: r => push (.look (startLook flags)) 0 r
    | '$' :: r => push (.look (endLook flags)) 0 r
    | c :: r => do push (← literal? flags c false) 0 r

/-- The structure of a pattern, the number of its groups and their names. -/
def parse (pattern : String) : Option (Node × Groups) := do
  let cs := pattern.toList
  let (node, depth, groups) ← read? (cs.length + 1) {} ⟨0, []⟩ [] [] [] cs
  if depth ≤ maxDepth && node.fits then some (node, groups) else none

end Mend.Regex
