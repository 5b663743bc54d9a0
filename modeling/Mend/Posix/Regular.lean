import Mend.Posix.Bracket

/-!
# Regular expressions

The basic and the extended expressions that the text tools share. An expression maps a place in a
text to the places where a match may end (`Regular.ends`); of all matches the leftmost counts, and of
those the longest.
-/

namespace Mend.Posix

/-- What has to hold at a place. -/
inductive Anchor where
  | start
  | finish
  | wordStart
  | wordEnd
  | boundary
  | noBoundary
  deriving DecidableEq, Repr

/-- An expression. -/
inductive Regular where
  | empty
  | one (set : Bracket)
  | anchor (kind : Anchor)
  /-- The text that a group matched. -/
  | back (index : Nat)
  | group (index : Nat) (body : Regular)
  | seq (first second : Regular)
  | alt (first second : Regular)
  | rep (min : Nat) (max : Option Nat) (body : Regular)
  deriving DecidableEq, Repr, Inhabited

/-- How a match is looked for. -/
structure Search where
  text : Array Char
  /-- Letters match in either case. -/
  fold : Bool := false

/-- Where a match has come to, and what its groups matched. -/
structure Reached where
  place : Nat
  groups : List (Nat × Nat × Nat)
  deriving DecidableEq, Repr, Inhabited

/-- A byte of a word. -/
def isWordByte (c : Char) : Bool := c.isAlphanum || c = '_'

namespace Anchor

/-- Whether a condition holds before byte `i`. -/
def holds (text : Array Char) (i : Nat) : Anchor → Bool
  | .start => i = 0
  | .finish => i = text.size
  | .wordStart => !before && after
  | .wordEnd => before && !after
  | .boundary => before != after
  | .noBoundary => before == after
where
  /-- A word byte stands before. -/
  before : Bool := i ≠ 0 && text[i - 1]?.any isWordByte
  /-- A word byte stands after. -/
  after : Bool := text[i]?.any isWordByte

end Anchor

namespace Regular

/-! ## Matching -/

/-- The expression refers back to a group. -/
def hasBack : Regular → Bool
  | .back _ => true
  | .group _ b => b.hasBack
  | .seq a b => a.hasBack || b.hasBack
  | .alt a b => a.hasBack || b.hasBack
  | .rep _ _ b => b.hasBack
  | _ => false

/-- Adds what has been reached unless it is there; where groups do not matter, one way to a place is
enough. -/
def insertNew (exact : Bool) (found : List Reached) (r : Reached) : List Reached :=
  if found.any fun f => f.place = r.place && (!exact || f.groups = r.groups) then found else found ++ [r]

/-- What several starts lead to, the earlier ones first. -/
def allFrom (exact : Bool) (step : Reached → List Reached) (rs : List Reached) : List Reached :=
  rs.foldl (fun found r => (step r).foldl (insertNew exact) found) []

/-- What `n` steps lead to. -/
def times (exact : Bool) (step : Reached → List Reached) : Nat → List Reached → List Reached
  | 0, rs => rs
  | n + 1, rs => times exact step n (allFrom exact step rs)

/-- What up to `n` further steps lead to, those of more steps first, as long as they come to somewhere
new. -/
def upTo (exact : Bool) (step : Reached → List Reached) : Nat → List Reached → List Reached → List Reached
  | 0, _, rs => rs
  | n + 1, seen, rs =>
    let next := (allFrom exact step rs).filter fun r =>
      !(seen.any fun f => f.place = r.place && (!exact || f.groups = r.groups))
    if next.isEmpty then rs
    else (rs.foldl (insertNew exact) (upTo exact step n (seen ++ next) next))

/-- The text that a group matched. -/
def groupText (text : Array Char) (groups : List (Nat × Nat × Nat)) (i : Nat) : List Char :=
  match groups.lookup i with
  | some (a, b) => (text.extract a b).toList
  | none => []

/-- Where a match that has come to `r` may go on to through the expression. -/
def ends (s : Search) (exact : Bool) : Regular → Reached → List Reached
  | .empty, r => [r]
  | .one b, r =>
    match s.text[r.place]? with
    | some c => if (if s.fold then b.hasFolded c else b.has c) then [{ r with place := r.place + 1 }] else []
    | none => []
  | .anchor k, r => if k.holds s.text r.place then [r] else []
  | .back i, r =>
    match r.groups.lookup i with
    | none => []
    | some (a, b) =>
      let same (c d : Char) : Bool := c = d || (s.fold && c.toLower = d.toLower)
      let there := (s.text.extract r.place (r.place + (b - a))).toList
      let here := (s.text.extract a b).toList
      if there.length = here.length && (here.zip there).all fun p => same p.1 p.2 then
        [{ r with place := r.place + (b - a) }]
      else []
  | .group i b, r =>
    (ends s exact b r).map fun e => ⟨e.place, (i, r.place, e.place) :: e.groups.filter fun g => g.1 ≠ i⟩
  | .seq a b, r => allFrom exact (ends s exact b) (ends s exact a r)
  | .alt a b, r => (ends s exact b r).foldl (insertNew exact) (ends s exact a r)
  | .rep min max b, r =>
    let least := times exact (ends s exact b) min [r]
    let more := match max with
      | some m => Nat.min (m - min) (s.text.size + 1)
      | none => s.text.size + 1
    upTo exact (ends s exact b) more least least

/-- The longest of matches, the first of those. -/
def longest : List Reached → Option Reached
  | [] => none
  | r :: rs =>
    match longest rs with
    | some b => if r.place < b.place then some b else some r
    | none => some r

/-- The longest match that begins at a place. -/
def matchAt (e : Regular) (s : Search) (i : Nat) : Option Reached := longest (ends s e.hasBack e ⟨i, []⟩)

/-- The leftmost match that begins at `i` or one of the `n` places after it, group zero being all of
it. -/
def findFrom (e : Regular) (s : Search) : Nat → Nat → Option Reached
  | n, i =>
    match e.matchAt s i with
    | some r => some { r with groups := (0, i, r.place) :: r.groups }
    | none =>
      match n with
      | 0 => none
      | n + 1 => findFrom e s n (i + 1)

/-- The leftmost match that begins at a place or after it. -/
def find (e : Regular) (s : Search) (i : Nat) : Option Reached :=
  if i ≤ s.text.size then findFrom e s (s.text.size - i) i else none

/-- The expression matches somewhere in a text. -/
def matchesIn (e : Regular) (fold : Bool) (cs : List Char) : Bool := (e.find ⟨cs.toArray, fold⟩ 0).isSome

/-- The ends of all matches from place `i` on, none overlapping another. No empty match stands right
after another match. -/
def allMatches (e : Regular) (s : Search) : Nat → Nat → Option Nat → List Reached
  | 0, _, _ => []
  | fuel + 1, i, last =>
    match e.find s i with
    | none => []
    | some r =>
      match r.groups.lookup 0 with
      | none => []
      | some (a, b) =>
        if a = b && last = some b then allMatches e s fuel (i + 1) last
        else r :: allMatches e s fuel b (some b)

/-- All matches in a text. -/
def findAll (e : Regular) (s : Search) : List Reached := e.allMatches s (2 * s.text.size + 3) 0 none

/-! ## Reading -/

/-- One byte. -/
def char (c : Char) : Regular := .one (.single c)

/-- One expression after the other. -/
def append : Regular → Regular → Regular
  | .empty, b => b
  | a, .empty => a
  | a, b => .seq a b

/-- What a letter after a backslash stands for. -/
def letter? : Char → Option Regular
  | 'w' => some (.one (.ofClass false isWordByte))
  | 'W' => some (.one (.ofClass true isWordByte))
  | 's' => some (.one (.ofClass false isSpace))
  | 'S' => some (.one (.ofClass true isSpace))
  | 'b' => some (.anchor .boundary)
  | 'B' => some (.anchor .noBoundary)
  | '<' => some (.anchor .wordStart)
  | '>' => some (.anchor .wordEnd)
  | '\x60' => some (.anchor .start)
  | '\'' => some (.anchor .finish)
  | _ => none

/-- A number, and the rest. -/
def number (cs : List Char) : Option Nat × List Char :=
  let ds := cs.takeWhile Char.isDigit
  ((String.ofList ds).toNat?, cs.drop ds.length)

/-- The bounds of a repetition after the opening brace, and the rest after the closing one. -/
def bounds? (extended : Bool) (cs : List Char) : Option ((Nat × Option Nat) × List Char) :=
  let close? (r : List Char) : Option (List Char) :=
    match extended, r with
    | true, '\x7d' :: r => some r
    | false, '\\' :: '\x7d' :: r => some r
    | _, _ => none
  match number cs with
  | (lo, ',' :: r) =>
    let (hi, r) := number r
    (close? r).bind fun rest =>
      match lo, hi with
      | none, none => some ((0, none), rest)
      | lo, hi => some ((lo.getD 0, hi), rest)
  | (some n, r) => (close? r).map fun rest => ((n, some n), rest)
  | (none, _) => none

/-- The sign of a repetition that stands at the start of a text, and the rest. -/
def copies? (extended : Bool) (cs : List Char) : Option ((Nat × Option Nat) × List Char) :=
  match extended, cs with
  | _, '*' :: r => some ((0, none), r)
  | true, '+' :: r => some ((1, none), r)
  | true, '?' :: r => some ((0, some 1), r)
  | true, '\x7b' :: r => bounds? true r
  | false, '\\' :: '+' :: r => some ((1, none), r)
  | false, '\\' :: '?' :: r => some ((0, some 1), r)
  | false, '\\' :: '\x7b' :: r => bounds? false r
  | _, _ => none

/-- An expression with the repetitions that follow it; `fuel` is at least the length of the text. -/
def repeated (extended : Bool) : Nat → Regular → List Char → Regular × List Char
  | 0, e, cs => (e, cs)
  | fuel + 1, e, cs =>
    match copies? extended cs with
    | some ((lo, hi), r) => repeated extended fuel (.rep lo hi e) r
    | none => (e, cs)

/-- The rest after the sign that opens a group. -/
def open? (extended : Bool) : List Char → Option (List Char)
  | '(' :: r => if extended then some r else none
  | '\\' :: '(' :: r => if extended then none else some r
  | _ => none

/-- The rest after the sign that closes a group. -/
def close? (extended : Bool) : List Char → Option (List Char)
  | ')' :: r => if extended then some r else none
  | '\\' :: ')' :: r => if extended then none else some r
  | _ => none

/-- The rest after the sign between alternatives. -/
def bar? (extended : Bool) : List Char → Option (List Char)
  | '|' :: r => if extended then some r else none
  | '\\' :: '|' :: r => if extended then none else some r
  | _ => none

/-- A dollar sign before this text is an anchor. -/
def endsHere (extended : Bool) (r : List Char) : Bool :=
  extended || r.isEmpty || (close? extended r).isSome || (bar? extended r).isSome

mutual

/-- Reads alternatives; `groups` counts the groups that have been opened. -/
def alternatives? (extended : Bool) (fuel groups : Nat) (cs : List Char) :
    Option (Regular × Nat × List Char) :=
  match fuel with
  | 0 => none
  | fuel + 1 => do
    let (a, groups, r) ← pieces? extended fuel true groups cs
    match bar? extended r with
    | some r =>
      let (b, groups, rest) ← alternatives? extended fuel groups r
      some (.alt a b, groups, rest)
    | none => some (a, groups, r)

/-- Reads pieces that follow each other; `first` if none has been read. -/
def pieces? (extended : Bool) (fuel : Nat) (first : Bool) (groups : Nat) (cs : List Char) :
    Option (Regular × Nat × List Char) :=
  match fuel with
  | 0 => none
  | fuel + 1 =>
    if cs.isEmpty || (close? extended cs).isSome || (bar? extended cs).isSome then some (.empty, groups, cs)
    else do
      let (e, anchored, groups, r) ← piece? extended fuel first groups cs
      let (e, r) := if anchored && !extended then (e, r) else repeated extended r.length e r
      let (more, groups, rest) ← pieces? extended fuel (anchored && first) groups r
      some (append e more, groups, rest)

/-- Reads one piece, and tells whether it is the anchor that a basic expression begins with. -/
def piece? (extended : Bool) (fuel : Nat) (first : Bool) (groups : Nat) (cs : List Char) :
    Option (Regular × Bool × Nat × List Char) :=
  match fuel with
  | 0 => none
  | fuel + 1 =>
    match open? extended cs with
    | some r => do
      let (body, n, r) ← alternatives? extended fuel (groups + 1) r
      let rest ← close? extended r
      some (.group (groups + 1) body, false, n, rest)
    | none =>
      match cs with
      | '.' :: r => some (.one .all, false, groups, r)
      | '^' :: r => if extended || first then some (.anchor .start, true, groups, r) else some (char '^', false, groups, r)
      | '$' :: r =>
        if endsHere extended r then some (.anchor .finish, false, groups, r) else some (char '$', false, groups, r)
      | '[' :: r => (Bracket.read? ['^'] false r).map fun (b, rest) => (.one b, false, groups, rest)
      | '\\' :: c :: r =>
        if '1' ≤ c && c ≤ '9' then
          if c.toNat - 48 ≤ groups then some (.back (c.toNat - 48), false, groups, r) else none
        else some ((letter? c).getD (char c), false, groups, r)
      | ['\\'] => none
      | c :: r => some (char c, false, groups, r)
      | [] => none

end

/-- The expression that a text spells. -/
def parse (extended : Bool) (cs : List Char) : Option Regular :=
  match alternatives? extended (4 * cs.length + 8) 0 cs with
  | some (e, _, []) => some e
  | _ => none

end Regular
end Mend.Posix
