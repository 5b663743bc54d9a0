import Mend.Posix.Bracket

/-!
# Globs

Patterns of names: a star stands for any bytes, a question mark for one, brackets for one of a set,
and a backslash quotes the byte after it. A glob matches a text as a whole.
-/

namespace Mend.Posix

/-- A piece of a glob. -/
inductive Wild where
  | one (set : Bracket)
  | many
  deriving DecidableEq, Repr

/-- A pattern of names. -/
abbrev Glob := List Wild

namespace Glob

/-- The glob that a text spells; `fuel` is at least its length. -/
def parseFrom : Nat → List Char → Glob
  | 0, _ => []
  | _, [] => []
  | fuel + 1, '*' :: r => .many :: parseFrom fuel r
  | fuel + 1, '?' :: r => .one .all :: parseFrom fuel r
  | fuel + 1, '\\' :: c :: r => .one (.single c) :: parseFrom fuel r
  | fuel + 1, '[' :: r =>
    match Bracket.read? ['!', '^'] true r with
    | some (b, rest) => .one b :: parseFrom fuel rest
    | none => .one (.single '[') :: parseFrom fuel r
  | fuel + 1, c :: r => .one (.single c) :: parseFrom fuel r

/-- The glob that a text spells. -/
def parse (cs : List Char) : Glob := parseFrom cs.length cs

/-- A property holds of a text or of what is left when it loses bytes at its start. -/
def ofSuffix (p : List Char → Bool) : List Char → Bool
  | [] => p []
  | c :: cs => p (c :: cs) || ofSuffix p cs

/-- The glob matches the whole text. -/
def accepts (fold : Bool) : Glob → List Char → Bool
  | [], cs => cs.isEmpty
  | .many :: g, cs => ofSuffix (accepts fold g) cs
  | .one _ :: _, [] => false
  | .one b :: g, c :: cs => (if fold then b.hasFolded c else b.has c) && accepts fold g cs

/-- A text that is no plain name: it has a star, a question mark or a set. -/
def isWild (cs : List Char) : Bool :=
  match cs with
  | [] => false
  | '*' :: _ => true
  | '?' :: _ => true
  | '\\' :: _ :: r => isWild r
  | '[' :: r => (Bracket.read? ['!', '^'] true r).isSome || isWild r
  | _ :: r => isWild r

/-- The text without the backslashes that quote. -/
def plain : List Char → List Char
  | '\\' :: c :: r => c :: plain r
  | c :: r => c :: plain r
  | [] => []

/-- A text as a glob that matches only itself. -/
def quote (cs : List Char) : List Char :=
  cs.flatMap fun c => if "*?[]\\-!^".toList.contains c then ['\\', c] else [c]

/-! ## Ends of a text -/

/-- How many bytes the shortest start of a text has that the glob matches, or the longest. -/
def start? (g : Glob) (longest : Bool) (cs : List Char) : Option Nat :=
  let ns := List.range (cs.length + 1)
  (if longest then ns.reverse else ns).find? fun n => accepts false g (cs.take n)

/-- How many bytes stand before the shortest end of a text that the glob matches, or the longest. -/
def finish? (g : Glob) (longest : Bool) (cs : List Char) : Option Nat :=
  let ns := List.range (cs.length + 1)
  (if longest then ns else ns.reverse).find? fun n => accepts false g (cs.drop n)

end Glob
end Mend.Posix
