import Mend.Regex.Syntax
import Mend.Unicode.Property
import Mend.Unicode.Fold

/-!
# Searching

A pattern is compiled to a program of instructions with explicit successors, and the program is run
on a text with a list of threads in the order of their preference. A thread that reaches the end of
the program ends all threads after it, so that the leftmost match is found and of those the preferred
one.
-/

namespace Mend.Regex

open Unicode (CharSet)

/-- An instruction. -/
inductive Instr where
  /-- Takes a character of the set. -/
  | one (set : CharSet) (next : Nat)
  /-- Goes on at both places, rather at the first. -/
  | split (first second : Nat)
  /-- Goes on where the condition holds. -/
  | look (condition : Look) (next : Nat)
  /-- Notes the place in a slot. -/
  | save (slot next : Nat)
  /-- Ends the match. -/
  | accept

/-- Instructions, later ones compiled later. -/
abbrev Program := Array Instr

/-- Adds an instruction and tells its address. -/
def emit (p : Program) (i : Instr) : Nat × Program := (p.size, p.push i)

/-- A choice between going into a repetition and leaving it. -/
def fork (greedy : Bool) (into out : Nat) : Instr := if greedy then .split into out else .split out into

/-- Compiles `n` copies before `next`. -/
def copies (one : Nat → Program → Nat × Program) : Nat → Nat → Program → Nat × Program
  | 0, next, p => (next, p)
  | n + 1, next, p =>
    let (start, p) := one next p
    copies one n start p

/-- Compiles `n` nested optional copies before `next`. -/
def optionals (one : Nat → Program → Nat × Program) (greedy : Bool) (next : Nat) :
    Nat → Nat → Program → Nat × Program
  | 0, start, p => (start, p)
  | n + 1, start, p =>
    let (body, p) := one start p
    let (start, p) := emit p (fork greedy body next)
    optionals one greedy next n start p

/-- Compiles the characters of a text before `next`. -/
def compileText (cs : List Char) (next : Nat) (p : Program) : Nat × Program :=
  cs.foldr (fun c (next, p) => emit p (.one (CharSet.single c) next)) (next, p)

mutual

/-- Compiles a pattern before the instruction `next`, telling where it begins. A body that can match
nothing is repeated as an optional repetition of at least one copy. -/
def compile : Node → Nat → Program → Nat × Program
  | .empty, next, p => (next, p)
  | .literal cs, next, p => compileText cs next p
  | .one s, next, p => emit p (.one s next)
  | .look l, next, p => emit p (.look l next)
  | .cat ns, next, p => compileParts ns next p
  | .alt bs, next, p => compileBranches bs next p
  | .group i b, next, p =>
    let (close, p) := emit p (.save (2 * i + 1) next)
    let (start, p) := compile b close p
    emit p (.save (2 * i) start)
  | .rep min none greedy b, next, p =>
    let (loop, p) := emit p .accept
    let (start, p) := compile b loop p
    let p := p.setIfInBounds loop (fork greedy start next)
    if min = 0 then
      if b.advances then (loop, p) else emit p (fork greedy start next)
    else copies (compile b) (min - 1) start p
  | .rep min (some max) greedy b, next, p =>
    let (start, p) := optionals (compile b) greedy next (max - min) next p
    copies (compile b) min start p

/-- Compiles patterns one after the other. -/
def compileParts : List Node → Nat → Program → Nat × Program
  | [], next, p => (next, p)
  | n :: ns, next, p =>
    let (start, p) := compileParts ns next p
    compile n start p

/-- Compiles alternatives. -/
def compileBranches : List Node → Nat → Program → Nat × Program
  | [], next, p => emit p (.one CharSet.empty next)
  | [b], next, p => compile b next p
  | b :: bs, next, p =>
    let (first, p) := compile b next p
    let (second, p) := compileBranches bs next p
    emit p (.split first second)

end

/-- A compiled pattern. -/
structure Machine where
  program : Program
  start : Nat
  slots : Nat
  names : List (String × Nat)

/-- Compiles a pattern as group zero. -/
def Machine.ofNode (node : Node) (groups : Nat) (names : List (String × Nat)) : Machine :=
  let (start, p) := compile (.group 0 node) 0 #[.accept]
  ⟨p, start, 2 * (groups + 1), names⟩

/-! ## Conditions -/

/-- Word characters, in all scripts or in ASCII only. -/
def isWord (ascii : Bool) (c : Char) : Bool :=
  if c.toNat < 128 then c.isAlphanum || c = '_' else !ascii && Unicode.wordChars.contains c.toNat

/-- Whether a condition holds between the characters `i - 1` and `i` of a text. -/
def Look.holds (text : Array Char) (i : Nat) : Look → Bool
  | .textStart => i = 0
  | .textEnd => i = text.size
  | .lineStart => i = 0 || text[i - 1]? = some '\n'
  | .lineEnd => i = text.size || text[i]? = some '\n'
  | .lineStartCr =>
    i = 0 || text[i - 1]? = some '\n' || (text[i - 1]? = some '\r' && text[i]? ≠ some '\n')
  | .lineEndCr =>
    i = text.size || text[i]? = some '\r' ||
      (text[i]? = some '\n' && (i = 0 || text[i - 1]? ≠ some '\r'))
  | .word edge ascii =>
    let before := i ≠ 0 && ((text[i - 1]?).map (isWord ascii)).getD false
    let after := ((text[i]?).map (isWord ascii)).getD false
    match edge with
    | .boundary => before != after
    | .noBoundary => before == after
    | .start => !before && after
    | .finish => before && !after
    | .startHalf => !before
    | .finishHalf => !after

/-! ## Threads -/

/-- The places noted so far. -/
abbrev Slots := Array (Option Nat)

/-- A place in the program with the places noted on the way. -/
structure Thread where
  pc : Nat
  slots : Slots

/-- The threads at one place of the text, the preferred first once reversed, and which instructions
they have been through. -/
structure Front where
  threads : List Thread
  visited : Array Bool

/-- No threads. -/
def Front.empty (size : Nat) : Front := ⟨[], Array.replicate size false⟩

/-- Follows the instructions that take no character. Every instruction is followed once, for the
thread that reaches it first; `fuel` is at least twice the size of the program. -/
def follow (program : Program) (text : Array Char) (i : Nat) : Nat → List Thread → Front → Front
  | 0, _, front => front
  | _, [], front => front
  | fuel + 1, t :: stack, front =>
    if (front.visited[t.pc]?).getD true then follow program text i fuel stack front
    else
      let front := { front with visited := front.visited.setIfInBounds t.pc true }
      match program[t.pc]? with
      | none => follow program text i fuel stack front
      | some (.split a b) => follow program text i fuel (⟨a, t.slots⟩ :: ⟨b, t.slots⟩ :: stack) front
      | some (.look l next) =>
        if l.holds text i then follow program text i fuel (⟨next, t.slots⟩ :: stack) front
        else follow program text i fuel stack front
      | some (.save slot next) =>
        follow program text i fuel (⟨next, t.slots.setIfInBounds slot (some i)⟩ :: stack) front
      | some _ => follow program text i fuel stack { front with threads := t :: front.threads }

/-- Adds a thread and what it leads to. -/
def Front.add (m : Machine) (text : Array Char) (i : Nat) (t : Thread) (front : Front) : Front :=
  follow m.program text i (3 * m.program.size + 3) [t] front

/-- Moves the threads over a character, in order, up to the first that has ended; its places become
the match. -/
def advance (m : Machine) (text : Array Char) (i : Nat) (c : Option Char) :
    List Thread → Front → Option Slots → Front × Option Slots
  | [], front, found => (front, found)
  | t :: rest, front, found =>
    match m.program[t.pc]?, c with
    | some .accept, _ => (front, some t.slots)
    | some (.one s next), some c =>
      if s.contains c.toNat then
        advance m text i (some c) rest (front.add m text (i + 1) ⟨next, t.slots⟩) found
      else advance m text i (some c) rest front found
    | _, c => advance m text i c rest front found

/-- Runs the threads from place `i` on, `left` characters being left. A new thread starts at every
place until a match is found. -/
def run (m : Machine) (text : Array Char) : Nat → Nat → Front → Option Slots → Option Slots
  | left, i, front, found =>
    let front := if found.isNone then
        front.add m text i ⟨m.start, Array.replicate m.slots none⟩
      else front
    let (next, found) :=
      advance m text i text[i]? front.threads.reverse (Front.empty m.program.size) found
    match left with
    | 0 => found
    | left + 1 => if next.threads.isEmpty && found.isSome then found else run m text left (i + 1) next found

/-- The leftmost match that begins at place `i` or later. -/
def Machine.find (m : Machine) (text : Array Char) (i : Nat) : Option Slots :=
  if i ≤ text.size then run m text (text.size - i) i (Front.empty m.program.size) none else none

/-- The ends of the whole match. -/
def Slots.whole? (s : Slots) : Option (Nat × Nat) :=
  match s[0]?, s[1]? with
  | some (some a), some (some b) => some (a, b)
  | _, _ => none

/-- All matches from place `i` on, none overlapping another. An empty match does not stand right
after another match. -/
def matchesFrom (m : Machine) (text : Array Char) : Nat → Nat → Option Nat → List Slots
  | 0, _, _ => []
  | fuel + 1, i, last =>
    match m.find text i with
    | none => []
    | some s =>
      match s.whole? with
      | none => []
      | some (a, b) =>
        if a = b && last = some b then matchesFrom m text fuel (i + 1) last
        else s :: matchesFrom m text fuel b (some b)

/-- All matches in a text. -/
def Machine.findAll (m : Machine) (text : Array Char) : List Slots :=
  matchesFrom m text (2 * text.size + 3) 0 none

end Mend.Regex
