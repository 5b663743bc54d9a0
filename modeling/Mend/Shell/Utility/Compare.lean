import Mend.Diff
import Mend.Shell.Utility.File

/-!
# Comparing files

Utilities that tell whether files differ, and how.
-/

namespace Mend.Shell

/-! ## Bytes -/

/-- Where two texts first differ: the place, and the bytes there. -/
def firstDifference : Nat → List Char → List Char → Option (Nat × Option Char × Option Char)
  | _, [], [] => none
  | i, [], c :: _ => some (i, none, some c)
  | i, c :: _, [] => some (i, some c, none)
  | i, c :: cs, d :: ds => if c = d then firstDifference (i + 1) cs ds else some (i, some c, some d)

/-- Compares two files byte by byte. -/
def cmp : Utility :=
  withOptions "cmp" { letters := "slb", valued := "ni", long := [("silent", 's'), ("quiet", 's'), ("verbose", 'l')] } 2
    fun g => do
  match g.operands with
  | [] => misuse "cmp" 2 "missing operand after 'cmp'"
  | a :: rest =>
    let b := rest.headD "-"
    match ← readSource a, ← readSource b with
    | .error e, _ =>
      if !g.has 's' then complain "cmp" (a ++ ": " ++ e.words)
      return 2
    | _, .error e =>
      if !g.has 's' then complain "cmp" (b ++ ": " ++ e.words)
      return 2
    | .ok s, .ok t =>
      let limit := (g.value? 'n').bind sized?
      let part (s : String) : List Char := match limit with
        | some n => s.toList.take n
        | none => s.toList
      let (s, t) := (part s, part t)
      if s = t then return 0
      if g.has 's' then return 1
      match firstDifference 0 s t with
      | none => return 0
      | some (i, some _, some _) =>
        if g.has 'l' then
          let width := (toString (max s.length t.length)).length
          let octal (c : Char) : String := padLeft 3 (String.ofList (Nat.toDigits 8 c.toNat))
          for ((c, d), k) in (s.zip t).zipIdx do
            if c ≠ d then sayLine (padLeft width (toString (k + 1)) ++ " " ++ octal c ++ " " ++ octal d)
          if s.length ≠ t.length then
            complain "cmp" ("EOF on " ++ (if s.length < t.length then a else b) ++ " after byte " ++
              toString (min s.length t.length))
        else
          sayLine (a ++ " " ++ b ++ " differ: char " ++ toString (i + 1) ++ ", line " ++
            toString ((s.take i).count '\n' + 1))
        return 1
      | some (i, c, _) =>
        let short := if c.isNone then s else t
        let short_ := if c.isNone then a else b
        if short.isEmpty then complain "cmp" ("EOF on " ++ short_ ++ " which is empty")
        else
          let n := short.count '\n'
          let line := if short.getLast? = some '\n' then ", line " ++ toString n else ", in line " ++ toString (n + 1)
          complain "cmp" ("EOF on " ++ short_ ++ " after byte " ++ toString i ++ line)
        return 1

/-! ## Lines -/

/-- A difference: lines of the first file from a place on, and the lines of the second that stand there
instead. Places count from zero. -/
structure Change where
  first : Nat
  removed : Nat
  second : Nat
  added : Nat
  deriving Repr, Inhabited

/-- The differences that a diff makes; `i` and `j` count the lines that have passed. -/
def changesOf : Nat → Nat → List Diff.Op → List Change
  | _, _, [] => []
  | i, j, .keep n :: ops => changesOf (i + n) (j + n) ops
  | i, j, .delete n :: .insert ls :: ops => ⟨i, n, j, ls.length⟩ :: changesOf (i + n) (j + ls.length) ops
  | i, j, .insert ls :: .delete n :: ops => ⟨i, n, j, ls.length⟩ :: changesOf (i + n) (j + ls.length) ops
  | i, j, .delete n :: ops => ⟨i, n, j, 0⟩ :: changesOf (i + n) j ops
  | i, j, .insert ls :: ops => ⟨i, 0, j, ls.length⟩ :: changesOf i (j + ls.length) ops

/-- Two files as lists of lines, each with its end. -/
structure Sides where
  first : Array String
  second : Array String

/-- A line with a mark in front of it, and a note if it has no end. -/
def marked (mark : String) (line : String) : String :=
  if line.toList.getLast? = some '\n' then mark ++ line else mark ++ line ++ "\n\\ No newline at end of file\n"

/-- The numbers of lines from a place on; without lines, the line before the place. -/
def span (start count : Nat) : String :=
  if count = 0 then toString start
  else if count = 1 then toString (start + 1)
  else toString (start + 1) ++ "," ++ toString (start + count)

/-- A difference in the plain form. -/
def Change.plain (c : Change) (s : Sides) : String :=
  let sign := if c.removed = 0 then "a" else if c.added = 0 then "d" else "c"
  let old := ((s.first.extract c.first (c.first + c.removed)).toList.map (marked "< "))
  let new := ((s.second.extract c.second (c.second + c.added)).toList.map (marked "> "))
  span c.first c.removed ++ sign ++ span c.second c.added ++ "\n" ++ String.join old ++
    (if c.removed ≠ 0 && c.added ≠ 0 then "---\n" else "") ++ String.join new

/-- Differences that are so near to each other that the lines around them meet. -/
def groups (context : Nat) : List Change → List (List Change)
  | [] => []
  | c :: cs =>
    match groups context cs with
    | (d :: run) :: rest =>
      if d.first ≤ c.first + c.removed + 2 * context then (c :: d :: run) :: rest else [c] :: (d :: run) :: rest
    | rest => [c] :: rest

/-- The place and number of lines in the head of a group. -/
def unifiedSpan (start count : Nat) : String :=
  if count = 1 then toString (start + 1)
  else toString (if count = 0 then start else start + 1) ++ "," ++ toString count

/-- The lines of a group from place `i` of the first file on, up to place `stop`. -/
def unifiedLines (s : Sides) (stop : Nat) : Nat → List Change → String
  | i, [] => String.join ((s.first.extract i stop).toList.map (marked " "))
  | i, c :: cs =>
    String.join ((s.first.extract i c.first).toList.map (marked " ")) ++
      String.join ((s.first.extract c.first (c.first + c.removed)).toList.map (marked "-")) ++
      String.join ((s.second.extract c.second (c.second + c.added)).toList.map (marked "+")) ++
      unifiedLines s stop (c.first + c.removed) cs

/-- A group of differences in the unified form. -/
def unifiedGroup (context : Nat) (s : Sides) (cs : List Change) : String :=
  match cs, cs.getLast? with
  | c :: _, some d =>
    let before := min context c.first
    let stop := min s.first.size (d.first + d.removed + context)
    let after := stop - (d.first + d.removed)
    let start := c.first - before
    let start' := c.second - before
    "@@ -" ++ unifiedSpan start (stop - start) ++ " +" ++
      unifiedSpan start' (d.second + d.added + after - start') ++ " @@\n" ++ unifiedLines s stop start cs
  | _, _ => ""

/-- What of a line counts when lines are compared. -/
def comparedPart (g : Given) (line : String) : String :=
  let cs := line.toList
  let cs := if g.has 'i' then cs.map Char.toLower else cs
  let isBlank (c : Char) : Bool := c = ' ' || c = '\t' || c = '\r' || c = '\n'
  let cs := if g.has 'w' then cs.filter fun c => !isBlank c
    else if g.has 'b' then
      let runs := cs.foldr (fun c out => if isBlank c then (if out.head? = some ' ' then out else ' ' :: out) else c :: out) []
      (runs.reverse.dropWhile (· = ' ')).reverse
    else cs
  String.ofList cs

/-- How two texts differ, in the form that options ask for; none if they do not. -/
def differences (g : Given) (title : String) (a b : String) : Option String :=
  let s : Sides := ⟨((rows a).map String.ofList).toArray, ((rows b).map String.ofList).toArray⟩
  let d := Diff.ofLines (s.first.toList.map (comparedPart g)) (s.second.toList.map (comparedPart g))
  let isEmptyLine (l : String) : Bool := l.toList.all fun c => c = '\n'
  let matter (c : Change) : Bool :=
    !(g.has 'B' && ((s.first.extract c.first (c.first + c.removed)).all isEmptyLine &&
      (s.second.extract c.second (c.second + c.added)).all isEmptyLine))
  let cs := (changesOf 0 0 d.ops).filter matter
  if cs.isEmpty then none
  else if g.has 'u' || g.has 'U' then
    let context := ((g.value? 'U').bind String.toNat?).getD 3
    some (title ++ String.join ((groups context cs).map (unifiedGroup context s)))
  else some (String.join (cs.map fun c => c.plain s))

/-- Compares two files, or with `-r` two directories; `fuel` bounds the depth. -/
def diffFiles (g : Given) : Nat → Bool → String → String → Act Nat
  | 0, _, _, _ => return 2
  | fuel + 1, titled, a, b => do
    let p ← get
    if p.isDir a && p.isDir b then
      let (ns, ms) := (namesIn p a, namesIn p b)
      let all := ((ns ++ ms.filter fun m => !ns.contains m).mergeSort fun x y => decide (x ≤ y))
      onEach all fun n => do
        let only (dir : String) : Act Nat := do
          sayLine ("Only in " ++ dir ++ ": " ++ n)
          return 1
        if !ms.contains n && !g.has 'N' then only a
        else if !ns.contains n && !g.has 'N' then only b
        else if p.isDir (inside a n) && p.isDir (inside b n) && !g.has 'r' then do
          sayLine ("Common subdirectories: " ++ inside a n ++ " and " ++ inside b n)
          return 0
        else diffFiles g fuel true (inside a n) (inside b n)
    else
      let a := if p.isDir a && b ≠ "-" then inside a (baseOf b) else a
      let b := if p.isDir b && a ≠ "-" then inside b (baseOf a) else b
      let missing (e : Fs.Error) : Bool := g.has 'N' && e = .notFound
      let read (w : String) : Act (Except Fs.Error String) := do
        match ← readSource w with
        | .error e => return if missing e then .ok "" else .error e
        | .ok s => return .ok s
      match ← read a, ← read b with
      | .error e, r =>
        complain "diff" (a ++ ": " ++ e.words)
        match r with
        | .error e => complain "diff" (b ++ ": " ++ e.words)
        | .ok _ => pure ()
        return 2
      | _, .error e =>
        complain "diff" (b ++ ": " ++ e.words)
        return 2
      | .ok s, .ok t =>
        let stamp := dateText p.now "\t%F %T.%N %z\n".toList
        let title := "--- " ++ a ++ stamp ++ "+++ " ++ b ++ stamp
        let binary := s.toList.contains '\x00' || t.toList.contains '\x00'
        let found := if s = t then none else if binary then some "" else differences g title s t
        match found with
        | none =>
          if g.has 's' then sayLine ("Files " ++ a ++ " and " ++ b ++ " are identical")
          return 0
        | some text =>
          if g.has 'q' then sayLine ("Files " ++ a ++ " and " ++ b ++ " differ")
          else if binary then sayLine ("Binary files " ++ a ++ " and " ++ b ++ " differ")
          else
            let letters := String.join (g.options.map fun o => " -" ++ o.1.toString ++ o.2)
            if titled then sayLine ("diff" ++ letters ++ " " ++ a ++ " " ++ b)
            say text
          return 1

/-- Compares files line by line. -/
def diff : Utility :=
  withOptions "diff"
    { letters := "uqrsNiwbBaEt", valued := "U",
      long := [("unified", 'u'), ("brief", 'q'), ("recursive", 'r'), ("report-identical-files", 's'),
        ("new-file", 'N'), ("ignore-case", 'i'), ("ignore-all-space", 'w'), ("ignore-space-change", 'b'),
        ("ignore-blank-lines", 'B'), ("text", 'a')] }
    2 fun g => do
  match g.operands with
  | [a, b] => diffFiles g 64 false a b
  | [] => misuse "diff" 2 "missing operand after 'diff'"
  | [a] => misuse "diff" 2 ("missing operand after '" ++ a ++ "'")
  | _ :: _ :: c :: _ => misuse "diff" 2 ("extra operand '" ++ c ++ "'")

end Mend.Shell
