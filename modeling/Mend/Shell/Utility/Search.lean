import Mend.Posix.Glob
import Mend.Posix.Regular
import Mend.Regex.Pattern
import Mend.Shell.Utility.File

/-!
# Searching texts

The utility that prints the lines of files in which a pattern is found.
-/

namespace Mend.Shell

open Posix (Regular)

/-- Where a pattern is found in a line: the first match that begins at a place or after it. -/
abbrev Finder := Array Char → Nat → Option (Nat × Nat)

namespace Finder

/-- The leftmost of what several patterns find, and the longest of those. -/
def any (fs : List Finder) : Finder := fun text i =>
  fs.foldl (fun best f =>
    match best, f text i with
    | some (a, b), some (c, d) => if c < a || (c = a && b < d) then some (c, d) else some (a, b)
    | none, r => r
    | r, none => r) none

/-- A place is not inside a word. -/
def atEdge (text : Array Char) (i : Nat) : Bool :=
  let isWord (j : Nat) : Bool := text[j]?.any Posix.isWordByte
  i = 0 || !isWord (i - 1) || !isWord i

/-- The longest match from place `i` on that is bounded as options ask for. -/
def boundedAt (e : Regular) (fold whole words : Bool) (text : Array Char) (i : Nat) : Option (Nat × Nat) :=
  let isWord (j : Nat) : Bool := text[j]?.any Posix.isWordByte
  let fits (b : Nat) : Bool :=
    (!whole || (i = 0 && b = text.size)) && (!words || ((i = 0 || !isWord (i - 1)) && !isWord b))
  let found := (e.ends ⟨text, fold⟩ e.hasBack ⟨i, []⟩).filter fun r => fits r.place
  (Regular.longest found).map fun r => (i, r.place)

/-- What an expression finds; `whole` for matches of whole lines, `words` for matches of whole words. -/
def ofRegular (e : Regular) (fold whole words : Bool) : Finder := fun text i =>
  ((List.range (text.size + 1 - i)).map (· + i)).findSome? (boundedAt e fold whole words text)

/-- What a pattern of the richer kind finds. -/
def ofMachine (m : Regex.Machine) : Finder := fun text i => (m.find text i).bind Regex.Slots.whole?

/-- What a text finds that stands for itself. -/
def ofText (cs : List Char) (fold whole words : Bool) : Finder :=
  ofRegular (cs.foldr (fun c e => Regular.append (Regular.char c) e) .empty) fold whole words

end Finder

/-- What a search looks for, by its options; none if a pattern has a mistake. -/
def finder? (g : Given) (kind : Option Char) (patterns : List String) : Option Finder :=
  let fold := g.has 'i' || g.has 'y'
  let one (pattern : String) : Option Finder :=
    if kind = some 'F' then some (.ofText pattern.toList fold (g.has 'x') (g.has 'w'))
    else if kind = some 'P' then
      let body := "(?:" ++ pattern ++ ")"
      let body := if g.has 'w' then "\\b" ++ body ++ "\\b" else body
      let body := if g.has 'x' then "^" ++ body ++ "$" else body
      (Regex.parse ((if fold then "(?i)" else "") ++ body)).map fun (node, groups) =>
        .ofMachine (.ofNode node groups.count groups.names)
    else (Regular.parse (kind = some 'E') pattern.toList).map fun e => .ofRegular e fold (g.has 'x') (g.has 'w')
  (patterns.mapM one).map Finder.any

/-- All matches in a line that are not empty. -/
def matchesIn (f : Finder) (text : Array Char) : Nat → Nat → List (Nat × Nat)
  | 0, _ => []
  | fuel + 1, i =>
    if text.size < i then []
    else match f text i with
      | none => []
      | some (a, b) => if a = b then matchesIn f text fuel (b + 1) else (a, b) :: matchesIn f text fuel b

/-- The files below a directory, or a file itself. -/
def filesAt (p : Process) (w : String) : List String :=
  if p.isDir w then
    match p.disk.locate (p.locate w) with
    | .ok l => (p.disk.filesBelow l).map fun f => inside w (Text.Octets.ofText (String.intercalate "/" f.1))
    | .error _ => [w]
  else [w]

/-- The options of a search. -/
def searchOptions : Known :=
  { letters := "EFGPivwxclLnoqshHrRaUIyzbZT", valued := "efmABC", attached := "KYJ",
    long := [("extended-regexp", 'E'), ("fixed-strings", 'F'), ("basic-regexp", 'G'), ("perl-regexp", 'P'),
      ("ignore-case", 'i'), ("invert-match", 'v'), ("word-regexp", 'w'), ("line-regexp", 'x'), ("count", 'c'),
      ("files-with-matches", 'l'), ("files-without-match", 'L'), ("line-number", 'n'), ("only-matching", 'o'),
      ("quiet", 'q'), ("silent", 'q'), ("no-messages", 's'), ("no-filename", 'h'), ("with-filename", 'H'),
      ("recursive", 'r'), ("text", 'a'), ("regexp", 'e'), ("file", 'f'), ("max-count", 'm'),
      ("after-context", 'A'), ("before-context", 'B'), ("context", 'C'), ("color", 'K'), ("colour", 'K'),
      ("include", 'Y'), ("exclude", 'J'), ("null", 'Z')] }

/-- Words in which a count right after a dash has become the value of an option. -/
def contextFirst (words : List String) : List String :=
  words.flatMap fun w =>
    match w.toList with
    | '-' :: c :: cs => if (c :: cs).all Char.isDigit then ["-C", String.ofList (c :: cs)] else [w]
    | _ => [w]

/-- What is printed of a file: its lines with their numbers, and whether each is wanted. -/
structure Hits where
  name : String
  lines : List (String × Nat × Bool)

/-- The lines that are printed, those around wanted ones included, with a mark where lines are left
out. -/
def Hits.shown (h : Hits) (before after : Nat) : List (Option (String × Nat × Bool)) :=
  let wanted := (h.lines.filter fun l => l.2.2).map fun l => l.2.1
  let near (i : Nat) : Bool := wanted.any fun w => w ≤ i + before && i ≤ w + after
  let kept := if before = 0 && after = 0 then h.lines.filter fun l => l.2.2 else h.lines.filter fun l => near l.2.1
  let step (out : List (Option (String × Nat × Bool)) × Option Nat) (l : String × Nat × Bool) :
      List (Option (String × Nat × Bool)) × Option Nat :=
    let gap := (before ≠ 0 || after ≠ 0) && (match out.2 with
      | some i => decide (i + 1 < l.2.1)
      | none => false)
    ((if gap then some l :: none :: out.1 else some l :: out.1), some l.2.1)
  (kept.foldl step ([], none)).1.reverse

/-- Searches files for lines in which a pattern is found; `preset` is the kind of pattern that the name
of the utility asks for. -/
def grep (preset : Option Char) : Utility := fun words =>
  withOptions "grep" searchOptions 2 (fun g => do
    let kind := (g.last? ['E', 'F', 'G', 'P']) <|> preset
    let fromFiles ← (g.values 'f').mapM fun f => do
      match ← readSource f with
      | .ok text => return some (lines text)
      | .error e =>
        complain "grep" (f ++ ": " ++ e.words)
        return none
    let given := g.values 'e'
    if fromFiles.any Option.isNone then return 2
    let implicit := given.isEmpty && fromFiles.isEmpty
    match implicit, g.operands with
    | true, [] =>
      write 2 "Usage: grep [OPTION]... PATTERNS [FILE]...\nTry 'grep --help' for more information.\n"
      return 2
    | _, operands =>
      let patterns := if implicit then [operands.headD ""] else given
      let operands := if implicit then operands.tail else operands
      let patterns := (patterns.flatMap fun s => (s.toList.splitOn '\n').map String.ofList) ++
        (fromFiles.filterMap id).flatten
      match finder? g kind patterns with
      | none =>
        complain "grep" "Invalid regular expression"
        return 2
      | some f => search g f operands) (contextFirst words)
where
  /-- The names of the files are printed. -/
  isNamed (g : Given) (deep : Bool) (operands : List String) : Bool :=
    if g.last? ['h', 'H'] = some 'h' then false
    else g.has 'H' || operands.length > 1 || deep
  /-- A file is among those that options ask for. -/
  isIncluded (g : Given) (path : String) : Bool :=
    let fits (c : Char) : Bool :=
      (g.values c).any fun s => Posix.Glob.accepts false (Posix.Glob.parse s.toList) (baseOf path).toList
    ((g.values 'Y').isEmpty || fits 'Y') && !fits 'J'
  /-- Searches files. -/
  search (g : Given) (f : Finder) (operands : List String) : Act Nat := do
    let p ← get
    let deep := g.has 'r' || g.has 'R'
    let bare := operands.isEmpty && deep
    let names :=
      if bare then (filesAt p ".").map fun n => String.ofList (n.toList.drop 2)
      else if operands.isEmpty then ["-"]
      else if deep then operands.flatMap (filesAt p)
      else operands
    let names := if deep then names.filter (isIncluded g) else names
    let named := isNamed g (bare || (deep && operands.any p.isDir)) operands
    let number (c : Char) : Nat := ((g.value? c <|> g.value? 'C').bind String.toNat?).getD 0
    let limit := (g.value? 'm').bind String.toNat?
    let results ← names.mapM fun name => do
      let source : Except Fs.Error String ←
        if p.isDir name then pure (.error .isDirectory) else readSource name
      match source with
      | .error e =>
        if !g.has 's' then complain "grep" (name ++ ": " ++ e.words)
        return none
      | .ok text =>
        let shownName := if name = "-" then "(standard input)" else name
        let all : List (String × Nat × Bool) := (lines text).zipIdx.map fun (l, i) =>
          (l, i + 1, (f l.toList.toArray 0).isSome != g.has 'v')
        let wanted := (all.filter fun l => l.2.2)
        let cutOff : Option Nat := match limit with
          | some n => (wanted[n - 1]?).map fun (l : String × Nat × Bool) => l.2.1
          | none => none
        let all : List (String × Nat × Bool) := match limit, cutOff with
          | some 0, _ => []
          | _, some i => all.map fun l => if l.2.1 > i then (l.1, l.2.1, false) else l
          | _, none => all
        let wanted := all.filter fun l => l.2.2
        let start := if named then shownName else ""
        if g.has 'q' then pure ()
        else if g.has 'l' then (if wanted.isEmpty then pure () else sayLine shownName)
        else if g.has 'L' then (if wanted.isEmpty then sayLine shownName else pure ())
        else if g.has 'c' then sayLine ((if named then start ++ ":" else "") ++ toString wanted.length)
        else if text.toList.contains '\x00' && !g.has 'a' && !wanted.isEmpty then
          sayLine ("grep: " ++ shownName ++ ": binary file matches")
        else
          let lead (l : String × Nat × Bool) : String :=
            let sign := if l.2.2 then ":" else "-"
            (if named then start ++ sign else "") ++ (if g.has 'n' then toString l.2.1 ++ sign else "")
          for l in Hits.shown ⟨name, all⟩ (number 'B') (number 'A') do
            match l with
            | none => sayLine "--"
            | some l =>
              if g.has 'o' then
                if l.2.2 && !g.has 'v' then
                  let cs := l.1.toList.toArray
                  for (a, b) in matchesIn f cs (cs.size + 1) 0 do
                    sayLine (lead l ++ String.ofList (cs.extract a b).toList)
              else sayLine (lead l ++ l.1)
        return some (!wanted.isEmpty)
    let hit := results.any (· = some true)
    let hit := if g.has 'L' then results.any (· = some false) else hit
    let broken := results.any (· = none)
    return if hit && (g.has 'q' || !broken) then 0 else if broken then 2 else 1

end Mend.Shell
