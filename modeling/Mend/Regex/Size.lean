import Mend.Regex.Bytes
import Mend.Regex.Syntax
import Std.Data.HashMap

/-!
# Sizes of automata

A pattern is carried out by an automaton over bytes that reads a text forwards and one that reads it
backwards. This module counts the bytes that their states take, without building them: a pattern whose
automata are too large is refused. A state takes a fixed room, and more for the arcs on ranges of bytes
that leave it and for the links of a fork. States are numbered in the order in which they are made.

Characters beyond ASCII take several states. Where two ways through a class end in the same way, their
states are shared as far as a table of limited size remembers the states already made.
-/

namespace Mend.Regex

open Unicode (CharSet)

/-- The room that an automaton may take, in bytes. -/
def sizeLimit : Nat := 10485760

/-- What an automaton has taken so far. -/
structure Tally where
  states : Nat
  /-- The bytes of the arcs and links. -/
  room : Nat
  deriving DecidableEq, Repr

namespace Tally

/-- All the bytes that an automaton takes. -/
def bytes (t : Tally) : Nat := 32 * t.states + t.room

/-- Makes states with at most one successor. -/
def plain (t : Tally) (n : Nat) : Tally := { t with states := t.states + n }

/-- Makes a state with arcs on ranges of bytes. -/
def arcs (t : Tally) (n : Nat) : Tally := ⟨t.states + 1, t.room + 8 * n⟩

/-- Makes a fork with links. -/
def fork (t : Tally) (n : Nat) : Tally := ⟨t.states + 1, t.room + 4 * n⟩

/-- Goes on from a state, which takes a link if the state is a fork. -/
def leave (t : Tally) (isFork : Bool) : Tally := if isFork then { t with room := t.room + 4 } else t

end Tally

/-- What is left of an automaton that a part has been added to, and whether the part ends in a fork. There
is nothing left of one that is too large. -/
abbrev Grown := Option (Tally × Bool)

/-- The automaton, if it is not too large. -/
def grown (t : Tally) (isFork : Bool) : Grown := if t.bytes ≤ sizeLimit then some (t, isFork) else none

/-- A part that can be added to an automaton any number of times. -/
structure Part where
  grow : Tally → Grown

/-! ## Classes -/

/-- The start of a hash. -/
def hashStart : UInt64 := 14695981039346656037

/-- Mixes a number into a hash. -/
def hashStep (h : UInt64) (n : Nat) : UInt64 := (h ^^^ UInt64.ofNat n) * 1099511628211

/-- An arc on a range of bytes to a state. -/
structure Arc where
  range : ByteRange
  next : Nat
  deriving DecidableEq

/-- The place of a state in the table of 10000 states, by its arcs. -/
def arcsSlot (arcs : Array Arc) : UInt64 :=
  arcs.foldl (fun h a => hashStep (hashStep (hashStep h a.range.1) a.range.2) a.next) hashStart % 10000

/-- An automaton with the states of the class at hand that the table remembers. -/
structure Weave where
  tally : Tally
  made : Std.HashMap UInt64 (Array Arc × Nat)

/-- The state with the given arcs, made if the table does not remember it. -/
def Weave.state (w : Weave) (arcs : Array Arc) : Weave × Nat :=
  let slot := arcsSlot arcs
  let id := w.tally.states
  let fresh : Weave × Nat := (⟨w.tally.arcs arcs.size, w.made.insert slot (arcs, id)⟩, id)
  match w.made[slot]? with
  | some (known, id) => if known = arcs then (w, id) else fresh
  | none => fresh

/-- A state that is still open: its arcs, and the range of one more whose end is open too. -/
structure OpenState where
  arcs : Array Arc
  last : Option ByteRange

/-- The arcs of an open state whose last arc goes to `next`. -/
def OpenState.close (s : OpenState) (next : Nat) : Array Arc :=
  match s.last with
  | some r => s.arcs.push ⟨r, next⟩
  | none => s.arcs

/-- Makes the states of a path of open states that leads to `target`, and tells the first of them. -/
def Weave.closeAll (target : Nat) : List OpenState → Weave → Weave × Nat
  | [], w => (w, target)
  | s :: rest, w =>
    let (w, next) := w.closeAll target rest
    w.state (s.close next)

/-- Adds a sequence to a path of open states, closing those that it does not share. -/
def Weave.add (target : Nat) : List OpenState → List ByteRange → Weave → Weave × List OpenState
  | s :: rest, r :: rs, w =>
    if s.last = some r then
      let (w, rest) := w.add target rest rs
      (w, s :: rest)
    else
      let (w, next) := w.closeAll target rest
      (w, ⟨s.close next, some r⟩ :: rs.map fun r => ⟨#[], some r⟩)
  | path, _, w => (w, path)

/-- Adds a class to an automaton that reads forwards. -/
def classForwards (sequences : List (List ByteRange)) (t : Tally) : Tally :=
  let target := t.states
  let start : Weave × List OpenState := (⟨t.plain 1, ∅⟩, [⟨#[], none⟩])
  let (w, path) := sequences.foldl (fun acc rs => acc.1.add target acc.2 rs) start
  (w.closeAll target path).1.tally

/-- The place of a state with one arc in the table of 1000 states. -/
def arcSlot (a : Arc) : UInt64 :=
  hashStep (hashStep (hashStep hashStart a.next) a.range.1) a.range.2 % 1000

/-- An automaton with the states with one arc that the table remembers. -/
structure Chain where
  tally : Tally
  made : Std.HashMap UInt64 (Arc × Nat)

/-- The state with the given arc, made if the table does not remember it. -/
def Chain.state (c : Chain) (a : Arc) : Chain × Nat :=
  let slot := arcSlot a
  let id := c.tally.states
  let fresh : Chain × Nat := (⟨c.tally.plain 1, c.made.insert slot (a, id)⟩, id)
  match c.made[slot]? with
  | some (known, id) => if known = a then (c, id) else fresh
  | none => fresh

/-- Adds a sequence of bytes, read backwards, before the state `target`. -/
def Chain.add (target : Nat) (c : Chain) (rs : List ByteRange) : Chain :=
  let (c, _) := rs.foldl (fun acc r => acc.1.state ⟨r, acc.2⟩) (c, target)
  { c with tally := c.tally.leave true }

/-- Adds a class to an automaton that reads backwards. -/
def classBackwards (sequences : List (List ByteRange)) (t : Tally) : Tally :=
  let t := t.fork 0
  (sequences.foldl (Chain.add t.states) ⟨t.plain 1, ∅⟩).tally

/-- The part of a class. -/
def classPart (backwards : Bool) (s : CharSet) : Part :=
  if (s.last?.getD 0) < 128 then ⟨fun t => grown ((t.plain 1).arcs s.ranges.size) false⟩
  else
    let sequences := byteSequences s
    if backwards then ⟨fun t => grown (classBackwards sequences t) false⟩
    else ⟨fun t => grown (classForwards sequences t) false⟩

/-! ## Literals -/

/-- The bytes of a text. -/
def literalBytes (cs : List Char) : List Nat := cs.flatMap fun c => encoding c.toNat

/-- The runs of words between empty ones. Empty words that come first count once. -/
def runsOf (words : List (List Nat)) : List (List (List Nat)) :=
  let rest := words.dropWhile List.isEmpty
  (if rest.length < words.length then [] :: rest else words).splitOn []

/-- Groups words by their first bytes, with what follows these. -/
def byFirst (words : List (List Nat)) : List (List (List Nat)) :=
  let step (groups : List (Nat × List (List Nat))) (w : List Nat) : List (Nat × List (List Nat)) :=
    match w with
    | [] => groups
    | b :: tail =>
      if groups.any (·.1 = b) then groups.map fun g => if g.1 = b then (b, g.2 ++ [tail]) else g
      else groups ++ [(b, [tail])]
  (words.foldl step []).map Prod.snd

/-- Adds the tree of several words, apart from the state at its end; `fuel` is at least the length of
the words. -/
def growTree : Nat → List (List Nat) → Tally → Tally
  | 0, _, t => t
  | fuel + 1, words, t =>
    if words.all List.isEmpty then t
    else
      let runs := runsOf words
      let t := runs.foldl (fun t run =>
        let groups := byFirst run
        let t := groups.foldl (fun t tails => growTree fuel tails t) t
        if groups.isEmpty then t
        else if groups.length = 1 then t.plain 1
        else t.arcs groups.length) t
      t.fork ((runs.filter fun run => !run.isEmpty).length + (runs.length - 1))

/-- The part of alternatives that are all literals. -/
def literalsPart (backwards : Bool) (words : List (List Nat)) : Part :=
  let words := if backwards then words.map List.reverse else words
  let longest := words.foldl (fun n w => max n w.length) 0
  ⟨fun t => grown (growTree (longest + 1) words (t.plain 1)) false⟩

/-! ## Patterns -/

/-- Adds copies after a part that ends in a fork if `isFork`. -/
def addCopies (p : Part) : Nat → Tally → Bool → Grown
  | 0, t, isFork => some (t, isFork)
  | n + 1, t, isFork =>
    match p.grow t with
    | some (t, f) => addCopies p n (t.leave isFork) f
    | none => none

/-- Adds a number of copies, or a state if there are none. -/
def exactly (p : Part) (n : Nat) (t : Tally) : Grown :=
  if n = 0 then grown (t.plain 1) false else addCopies p n t false

/-- Adds copies that each can be left out together with those after it. -/
def addOptionals (p : Part) : Nat → Tally → Bool → Grown
  | 0, t, isFork => grown (t.leave isFork) false
  | n + 1, t, isFork =>
    match p.grow ((t.fork 2).leave isFork) with
    | some (t, f) => addOptionals p n t f
    | none => none

/-- The part of a repetition. -/
def repeatPart (min : Nat) (max : Option Nat) (advances : Bool) (p : Part) : Part :=
  match min, max with
  | 0, some 1 => ⟨fun t => do
    let (t, f) ← p.grow (t.fork 2)
    grown ((t.plain 1).leave f) false⟩
  | 0, none =>
    if advances then ⟨fun t => do
      let (t, f) ← p.grow (t.fork 1)
      grown (t.leave f) true⟩
    else ⟨fun t => do
      let (t, f) ← p.grow t
      grown ((((t.leave f).fork 2).fork 2).plain 1) false⟩
  | 1, none => ⟨fun t => do
    let (t, f) ← p.grow t
    grown ((t.leave f).fork 1) true⟩
  | n, none => ⟨fun t => do
    let (t, f) ← exactly p (n - 1) t
    let (t, g) ← p.grow t
    grown (((t.leave f).leave g).fork 1) true⟩
  | n, some m =>
    if n = m then ⟨exactly p n⟩
    else ⟨fun t => do
      let (t, f) ← exactly p n t
      addOptionals p (m - n) (t.plain 1) f⟩

/-- The texts of patterns that are all literals. -/
def literals? (ns : List Node) : Option (List (List Char)) :=
  ns.mapM fun
    | .literal cs => some cs
    | _ => none

/-- Adds the parts one after the other. -/
def addAll : List Part → Tally → Bool → Grown
  | [], t, isFork => some (t, isFork)
  | p :: ps, t, isFork => do
    let (t, f) ← p.grow t
    addAll ps (t.leave isFork) f

/-- Adds alternatives after those that a fork already leads to. -/
def addBranches : List Part → Tally → Grown
  | [], t => grown t false
  | p :: ps, t => do
    let (t, f) ← p.grow t
    addBranches ps ((t.leave true).leave f)

/-- The part of alternatives; the fork is made after the first two of them. -/
def choicePart : List Part → Part
  | p :: q :: ps => ⟨fun t => do
    let (t, f) ← p.grow t
    let (t, g) ← q.grow t
    addBranches ps ((((t.fork 2).plain 1).leave f).leave g)⟩
  | [p] => p
  | [] => ⟨fun t => grown ((t.plain 1).arcs 0) false⟩

mutual

/-- The part of a pattern. -/
def partOf (backwards : Bool) : Node → Part
  | .empty => ⟨fun t => grown (t.plain 1) false⟩
  | .literal cs =>
    let n := (literalBytes cs).length
    ⟨fun t => grown (t.plain n) false⟩
  | .one s => classPart backwards s
  | .look _ => ⟨fun t => grown (t.plain 1) false⟩
  | .rep min max _ b => repeatPart min max b.advances (partOf backwards b)
  | .group _ b =>
    let p := partOf backwards b
    if backwards then p
    else ⟨fun t => do
      let (t, f) ← p.grow (t.plain 1)
      grown ((t.plain 1).leave f) false⟩
  | .cat ps =>
    let parts := partsOf backwards ps
    ⟨fun t => addAll (if backwards then parts.reverse else parts) t false⟩
  | .alt bs =>
    match literals? bs with
    | some words => literalsPart backwards (words.map literalBytes)
    | none => choicePart (partsOf backwards bs)

/-- The parts of several patterns. -/
def partsOf (backwards : Bool) : List Node → List Part
  | [] => []
  | n :: ns => partOf backwards n :: partsOf backwards ns

end

/-- The bytes of the automaton of a pattern. It begins with a loop over any bytes, unless the pattern is
bound to the place where reading begins. -/
def automaton (backwards : Bool) (n : Node) : Grown := do
  let bound := if backwards then n.endsText else n.startsText
  let t : Tally := if bound then ⟨1, 0⟩ else (((⟨0, 0⟩ : Tally).fork 2).plain 1).arcs 1
  let (t, f) ← (partOf backwards (.group 0 n)).grow t
  grown ((t.plain 1).leave f) false

/-- Enough alternatives that are all literals are searched for without an automaton. -/
def isLiteralSearch : Node → Bool
  | .alt bs => 3000 ≤ bs.length && (literals? bs).isSome
  | _ => false

/-- The automata of the pattern are not too large. -/
def Node.fits (n : Node) : Bool :=
  isLiteralSearch n || ((automaton false n).isSome && (automaton true n).isSome)

end Mend.Regex
