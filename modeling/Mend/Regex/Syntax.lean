import Mend.Unicode.CharSet

/-!
# Patterns

The structure of a pattern after its classes and flags are resolved. Patterns are put together by
functions that keep them simple: a concatenation holds no concatenations and no empty patterns and
its neighbouring literals are one, alternatives that are all characters or classes are one class,
and what several alternatives begin with stands before them.
-/

namespace Mend.Regex

open Unicode (CharSet)

/-- What holds on one or both sides of a place between characters, as to words. -/
inductive WordEdge where
  | boundary
  | noBoundary
  | start
  | finish
  | startHalf
  | finishHalf
  deriving DecidableEq, Repr

/-- A condition on a place between characters. -/
inductive Look where
  | textStart
  | textEnd
  | lineStart
  | lineEnd
  /-- Line starts and ends where a carriage return, alone or with a line feed, also ends a line. -/
  | lineStartCr
  | lineEndCr
  | word (edge : WordEdge) (ascii : Bool)
  deriving DecidableEq, Repr

/-- A pattern. -/
inductive Node where
  | empty
  /-- The characters, one after the other. -/
  | literal (text : List Char)
  /-- One character of a set. -/
  | one (set : CharSet)
  | look (condition : Look)
  /-- At least `min` and at most `max` copies, as many as possible if `greedy`, else as few. -/
  | rep (min : Nat) (max : Option Nat) (greedy : Bool) (body : Node)
  | group (index : Nat) (body : Node)
  /-- One pattern after the other. -/
  | cat (parts : List Node)
  /-- Any of the patterns; earlier ones are preferred. -/
  | alt (branches : List Node)
  deriving Repr, Inhabited

namespace Node

/-! ## Lengths -/

mutual

/-- The least number of characters that the pattern matches, if all of its parts match anything. -/
def minLen : Node → Option Nat
  | .empty => some 0
  | .literal cs => some cs.length
  | .one s => if s.ranges.isEmpty then none else some 1
  | .look _ => some 0
  | .rep min _ _ b => b.minLen.map (· * min)
  | .group _ b => b.minLen
  | .cat ps => minLenSum ps
  | .alt bs => minLenLeast bs

/-- The least number of characters that all the patterns match together. -/
def minLenSum : List Node → Option Nat
  | [] => some 0
  | p :: ps => do
    let n ← p.minLen
    let m ← minLenSum ps
    some (n + m)

/-- The least number of characters that one of the patterns matches. -/
def minLenLeast : List Node → Option Nat
  | [] => none
  | [b] => b.minLen
  | b :: bs => do
    let n ← b.minLen
    let m ← minLenLeast bs
    some (min n m)

end

mutual

/-- The greatest number of characters that the pattern matches, if there is one. -/
def maxLen : Node → Option Nat
  | .empty => some 0
  | .literal cs => some cs.length
  | .one s => if s.ranges.isEmpty then none else some 1
  | .look _ => some 0
  | .rep _ max _ b => do
    let m ← max
    let n ← b.maxLen
    some (n * m)
  | .group _ b => b.maxLen
  | .cat ps => maxLenSum ps
  | .alt bs => maxLenMost bs

/-- The greatest number of characters that all the patterns match together. -/
def maxLenSum : List Node → Option Nat
  | [] => some 0
  | p :: ps => do
    let n ← p.maxLen
    let m ← maxLenSum ps
    some (n + m)

/-- The greatest number of characters that one of the patterns matches. -/
def maxLenMost : List Node → Option Nat
  | [] => none
  | [b] => b.maxLen
  | b :: bs => do
    let n ← b.maxLen
    let m ← maxLenMost bs
    some (max n m)

end

/-- The pattern matches nothing but places. -/
def isWidthless (n : Node) : Bool := n.maxLen = some 0

/-- Every match of the pattern takes a character. -/
def advances (n : Node) : Bool := n.minLen.any (0 < ·)

mutual

/-- The number of patterns that the pattern is put together from. -/
def size : Node → Nat
  | .rep _ _ _ b => b.size + 1
  | .group _ b => b.size + 1
  | .cat ps => sizeSum ps + 1
  | .alt bs => sizeSum bs + 1
  | _ => 1

/-- The number of patterns that all the patterns are put together from. -/
def sizeSum : List Node → Nat
  | [] => 0
  | p :: ps => p.size + sizeSum ps

end

/-! ## Equality -/

mutual

/-- The patterns have the same structure. -/
def same : Node → Node → Bool
  | .empty, .empty => true
  | .literal a, .literal b => a == b
  | .one s, .one t => s == t
  | .look k, .look l => k == l
  | .rep min max greedy a, .rep min' max' greedy' b =>
    min == min' && max == max' && greedy == greedy' && same a b
  | .group i a, .group j b => i == j && same a b
  | .cat ps, .cat qs => sameAll ps qs
  | .alt ps, .alt qs => sameAll ps qs
  | _, _ => false

/-- The patterns of two lists have the same structure. -/
def sameAll : List Node → List Node → Bool
  | [], [] => true
  | p :: ps, q :: qs => same p q && sameAll ps qs
  | _, _ => false

end

/-! ## Putting patterns together -/

/-- One character of a set: a literal if there is only one. -/
def ofSet (s : CharSet) : Node :=
  match s.ranges.toList with
  | [(a, b)] => if a = b then .literal [Char.ofNat a] else .one s
  | _ => .one s

/-- Copies of a pattern. A place is not repeated more than once. -/
def «repeat» (min : Nat) (max : Option Nat) (greedy : Bool) (body : Node) : Node :=
  let (min, max) := if body.isWidthless then (Nat.min min 1, some ((max.map (Nat.min · 1)).getD 1)) else (min, max)
  if min = 0 && max = some 0 then .empty
  else if min = 1 && max = some 1 then body
  else .rep min max greedy body

/-- Puts a pattern before others, joining literals. -/
def consPart (n : Node) (parts : List Node) : List Node :=
  match n, parts with
  | .empty, _ => parts
  | .literal a, .literal b :: rest => .literal (a ++ b) :: rest
  | _, _ => n :: parts

/-- The patterns that a concatenation is of. -/
def parts : Node → List Node
  | .cat ps => ps
  | n => [n]

/-- One pattern after the other. -/
def concat (ns : List Node) : Node :=
  match (ns.flatMap parts).foldr consPart [] with
  | [] => .empty
  | [n] => n
  | ps => .cat ps

/-- The patterns that alternatives are of. -/
def branches : Node → List Node
  | .alt bs => bs
  | n => [n]

/-- The character of a literal with one. -/
def char? : Node → Option Char
  | .literal [c] => some c
  | _ => none

/-- The set of a class. -/
def set? : Node → Option CharSet
  | .one s => some s
  | _ => none

/-- The class that alternatives make which are all characters or all classes. -/
def classOf? (bs : List Node) : Option Node :=
  match bs.mapM char? with
  | some cs => some (ofSet (CharSet.ofRanges (cs.map fun c => (c.toNat, c.toNat))))
  | none => (bs.mapM set?).map fun ss => ofSet (CharSet.ofRanges (ss.flatMap fun s => s.ranges.toList))

/-- What two lists of patterns begin with. -/
def commonPrefix : List Node → List Node → List Node
  | p :: ps, q :: qs => if same p q then p :: commonPrefix ps qs else []
  | _, _ => []

/-- The parts of a concatenation. -/
def cat? : Node → Option (List Node)
  | .cat ps => some ps
  | _ => none

/-- Alternatives that cannot be made simpler, apart from what they begin with; `fuel` is how often
something they begin with can be taken out. -/
def choiceOf : Nat → List Node → Node
  | _, [] => .one CharSet.empty
  | _, [b] => b
  | 0, bs => .alt bs
  | fuel + 1, bs =>
    match classOf? bs with
    | some n => n
    | none =>
      match bs.mapM cat? with
      | some (first :: rest) =>
        let common := rest.foldl commonPrefix first
        if common.isEmpty then .alt bs
        else
          let tails := (first :: rest).map fun ps => concat (ps.drop common.length)
          concat (common ++ [choiceOf fuel (tails.flatMap branches)])
      | _ => .alt bs

/-- Any of several patterns, earlier ones preferred. -/
def choice (bs : List Node) : Node :=
  let bs := bs.flatMap branches
  choiceOf (sizeSum bs + 1) bs

/-! ## Anchors -/

mutual

/-- Every match of the pattern begins where the text begins. -/
def startsText : Node → Bool
  | .look l => l = .textStart
  | .rep min _ _ b => 0 < min && b.startsText
  | .group _ b => b.startsText
  | .cat ps => startsTextFirst ps
  | .alt bs => startsTextAll bs
  | _ => false

/-- One of the patterns up to the first that takes a character begins where the text begins. -/
def startsTextFirst : List Node → Bool
  | [] => false
  | p :: ps => p.startsText || (p.isWidthless && startsTextFirst ps)

/-- All of the patterns begin where the text begins. -/
def startsTextAll : List Node → Bool
  | [] => true
  | b :: bs => b.startsText && startsTextAll bs

end

mutual

/-- Every match of the pattern ends where the text ends. -/
def endsText : Node → Bool
  | .look l => l = .textEnd
  | .rep min _ _ b => 0 < min && b.endsText
  | .group _ b => b.endsText
  | .cat ps => endsTextLast ps
  | .alt bs => endsTextAll bs
  | _ => false

/-- One of the patterns from the last that takes a character on ends where the text ends. -/
def endsTextLast : List Node → Bool
  | [] => false
  | p :: ps => endsTextLast ps || (p.endsText && widthless ps)

/-- All of the patterns match nothing but places. -/
def widthless : List Node → Bool
  | [] => true
  | p :: ps => p.isWidthless && widthless ps

/-- All of the patterns end where the text ends. -/
def endsTextAll : List Node → Bool
  | [] => true
  | b :: bs => b.endsText && endsTextAll bs

end

end Node
end Mend.Regex
