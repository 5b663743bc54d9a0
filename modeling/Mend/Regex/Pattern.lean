import Mend.Regex.Parser
import Mend.Regex.Search

/-!
# Matching and replacing

A replacement is text in which `$1`, `$name` and `${name}` stand for what a group matched and `$$`
for a dollar sign. The longest run of letters, digits and underscores is taken as a name; a group
that does not exist or took no part in the match stands for nothing.
-/

namespace Mend

namespace Regex

/-- A piece of a replacement. -/
inductive Piece where
  | text (c : Char)
  | numbered (index : Nat)
  | named (name : String)
  deriving Repr

/-- A reference by number, if the name is one, else by name. -/
def Piece.ofName (name : List Char) : Piece :=
  let digits := match name with
    | '+' :: r => r
    | r => r
  let v := digits.foldl (fun n d => n * 10 + (d.toNat - 48)) 0
  if !digits.isEmpty && digits.all Char.isDigit && v < UInt64.size then .numbered v
  else .named (String.ofList name)

/-- The characters of a name without braces. -/
def isReferenceChar (c : Char) : Bool := c.isAlphanum || c = '_'

/-- The pieces of a replacement; `fuel` is at least its length. -/
def piecesOf : Nat → List Char → List Piece
  | 0, _ => []
  | _, [] => []
  | fuel + 1, '$' :: rest =>
    match rest with
    | '$' :: r => .text '$' :: piecesOf fuel r
    | '\x7b' :: r =>
      let (name, after) := r.span (· ≠ '\x7d')
      match after with
      | _ :: after => Piece.ofName name :: piecesOf fuel after
      | [] => .text '$' :: piecesOf fuel rest
    | r =>
      let (name, after) := r.span isReferenceChar
      if name.isEmpty then .text '$' :: piecesOf fuel r
      else Piece.ofName name :: piecesOf fuel after
  | fuel + 1, c :: rest => .text c :: piecesOf fuel rest

/-- What a group matched. -/
def groupText (text : Array Char) (s : Slots) (i : Nat) : List Char :=
  match s[2 * i]?, s[2 * i + 1]? with
  | some (some a), some (some b) => (text.extract a b).toList
  | _, _ => []

/-- The text that a replacement stands for after a match. -/
def expand (names : List (String × Nat)) (text : Array Char) (s : Slots) (pieces : List Piece) : List Char :=
  pieces.flatMap fun
    | .text c => [c]
    | .numbered i => groupText text s i
    | .named n =>
      match names.lookup n with
      | some i => groupText text s i
      | none => []

/-- Replaces the matches from place `i` on. -/
def replaceFrom (names : List (String × Nat)) (text : Array Char) (pieces : List Piece) :
    Nat → List Slots → List (List Char)
  | i, [] => [(text.extract i text.size).toList]
  | i, s :: rest =>
    match s.whole? with
    | some (a, b) =>
      (text.extract i a).toList :: expand names text s pieces :: replaceFrom names text pieces b rest
    | none => replaceFrom names text pieces i rest

end Regex

/-- A pattern: which texts it is found in, and what they are with its matches replaced. -/
structure Pattern where
  source : String
  isMatch : String → Bool
  replaceAll : String → String → String

namespace Pattern

/-- The pattern that a machine carries out. -/
def ofMachine (source : String) (m : Regex.Machine) : Pattern where
  source := source
  isMatch text := (m.find text.toList.toArray 0).isSome
  replaceAll text replacement :=
    let cs := text.toList.toArray
    let rs := replacement.toList
    String.ofList
      (Regex.replaceFrom m.names cs (Regex.piecesOf (rs.length + 1) rs) 0 (m.findAll cs)).flatten

/-- The pattern that a text spells. -/
def compile (source : String) : Option Pattern :=
  (Regex.parse source).map fun (node, groups) =>
    ofMachine source (Regex.Machine.ofNode node groups.count groups.names)

/-- The pattern that matches nothing. -/
def never (source : String) : Pattern := ⟨source, fun _ => false, fun text _ => text⟩

/-- The pattern of a text that is known to spell one. -/
def fixed (source : String) : Pattern := (compile source).getD (never source)

end Pattern
end Mend
