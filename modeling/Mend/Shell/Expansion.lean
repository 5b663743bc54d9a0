import Mend.Posix.Glob
import Mend.Shell.Arithmetic
import Mend.Shell.Parser
import Mend.Shell.Utility.File

/-!
# Expansion

What a command is given for the words of a script. A word becomes glyphs, each of which knows whether it
was quoted and whether it comes from a value; values are split into fields, and fields that are patterns
become the names of files. A script whose output is part of a word is run by whoever asks for the
expansion.
-/

namespace Mend.Shell

open Posix (Glob)

/-- What a word is made of after its parts have been replaced. -/
inductive Glyph where
  /-- A byte as it is written in the script. -/
  | plain (c : Char)
  /-- A byte that stands only for itself. -/
  | quoted (c : Char)
  /-- A byte of a value. -/
  | value (c : Char)
  /-- A field begins here, even if nothing is in it. -/
  | mark
  /-- A field ends here. -/
  | gap
  deriving DecidableEq, Repr

namespace Glyph

/-- Glyphs of a value. -/
def ofValue (quoted : Bool) (s : String) : List Glyph :=
  if quoted then .mark :: s.toList.map .quoted else s.toList.map .value

/-- A word between the braces of a variable is like a value where it is not quoted. -/
def inValue : Glyph → Glyph
  | .plain c => .value c
  | g => g

/-- The byte of a glyph. -/
def byte? : Glyph → Option Char
  | .plain c => some c
  | .quoted c => some c
  | .value c => some c
  | .gap => some ' '
  | .mark => none

/-- The bytes of a glyph in a pattern. -/
def inPattern : Glyph → List Char
  | .quoted c => Glob.quote [c]
  | g => g.byte?.toList

end Glyph

/-- The text of glyphs. -/
def textOf (gs : List Glyph) : String := String.ofList (gs.filterMap Glyph.byte?)

/-- The pattern that glyphs spell. -/
def patternOf (gs : List Glyph) : List Char := gs.flatMap Glyph.inPattern

/-! ## Fields -/

/-- The separator that a glyph is. -/
def separator? (separators : String) : Glyph → Option Char
  | .value c => if separators.toList.contains c then some c else none
  | _ => none

/-- Splits glyphs into fields. White space between values is dropped; any other separator ends a field,
together with the white space around it. `open_` holds the field that has begun, its last glyph first,
and `ended` tells that white space has just ended a field. -/
def fieldsFrom (separators : String) (open_ : Option (List Glyph)) (ended : Bool) : List Glyph → List (List Glyph)
  | [] => (open_.map List.reverse).toList
  | g :: r =>
    match separator? separators g with
    | some c =>
      if c = ' ' || c = '\t' || c = '\n' then
        match open_ with
        | some f => f.reverse :: fieldsFrom separators none true r
        | none => fieldsFrom separators none ended r
      else match open_, ended with
        | none, true => fieldsFrom separators none false r
        | f, _ => (f.getD []).reverse :: fieldsFrom separators none false r
    | none =>
      if g = .gap then (open_.map List.reverse).toList ++ fieldsFrom separators none false r
      else fieldsFrom separators (some (g :: open_.getD [])) false r

/-- The fields of glyphs. -/
def fields (separators : String) (gs : List Glyph) : List (List Glyph) := fieldsFrom separators none false gs

/-! ## Names of files -/

/-- Glyphs between slashes. -/
def steps (gs : List Glyph) : List (List Glyph) := gs.splitOnP fun g => g.byte? = some '/'

/-- The paths that continue one of `paths`, which end with a slash or are empty, by names that match. -/
def pathsFrom (p : Process) : List (List Glyph) → List String → List String
  | [], paths => paths
  | s :: rest, paths =>
    let end_ := if rest.isEmpty then "" else "/"
    let next := if Glob.isWild (patternOf s) then
        let pattern := patternOf s
        let glob := Glob.parse pattern
        let hidden := ((s.filterMap Glyph.byte?).head? = some '.')
        paths.flatMap fun path =>
          let dots := if hidden && p.dialect = .plain then [".", ".."] else []
          let names := (dots ++ namesIn p (if path.isEmpty then "." else path)).filter fun n =>
            (hidden || n.toList.head? ≠ some '.') && glob.accepts false n.toList
          let names := names.filter fun n => rest.isEmpty || p.isDir (path ++ n)
          names.map fun n => path ++ n ++ end_
      else
        (paths.map fun path => path ++ textOf s ++ end_).filter fun path => !rest.isEmpty || (p.node? path).isSome
    pathsFrom p rest next

/-- What a field stands for: the names of files that match it, or its text. -/
def filesOf (p : Process) (field : List Glyph) : List String :=
  if p.options.plainNames || !Glob.isWild (patternOf field) then [textOf field]
  else match pathsFrom p (steps field) [""] with
    | [] => [textOf field]
    | found => found.mergeSort fun a b => decide (a ≤ b)

/-! ## Braces -/

/-- The alternatives between braces, and what follows them; `depth` braces are open in an alternative,
whose last glyph comes first. -/
def alternatives? (depth : Nat) (current : List Glyph) : List Glyph → Option (List (List Glyph) × List Glyph)
  | [] => none
  | g :: r =>
    match g, depth with
    | .plain '\x7d', 0 => some ([current.reverse], r)
    | .plain ',', 0 => (alternatives? 0 [] r).map fun (gs, rest) => (current.reverse :: gs, rest)
    | .plain '\x7d', n + 1 => alternatives? n (g :: current) r
    | .plain '\x7b', n => alternatives? (n + 1) (g :: current) r
    | _, n => alternatives? n (g :: current) r

/-- The numbers or letters from one to another in even steps. -/
def series? (s : String) : Option (List String) :=
  let numbers (a b step : Int) : List Int :=
    let k := max 1 step.natAbs
    (List.range ((b - a).natAbs / k + 1)).map fun i => if a ≤ b then a + (i * k : Nat) else a - (i * k : Nat)
  let letter? (t : String) : Option Int := match t.toList with
    | [c] => if c.isAlpha then some c.toNat else none
    | _ => none
  let build (a b : String) (step : Int) : Option (List String) :=
    match decimal? a, decimal? b, letter? a, letter? b with
    | some m, some n, _, _ =>
      if a.isEmpty || b.isEmpty then none
      else
        let padded := (a.length > 1 && a.toList.head? = some '0') || (b.length > 1 && b.toList.head? = some '0')
        let width := if padded then max a.length b.length else 0
        some ((numbers m n step).map fun i =>
          let digits := toString i.natAbs
          let sign := if i < 0 then "-" else ""
          sign ++ String.ofList (List.replicate (width - sign.length - digits.length) '0') ++ digits)
    | _, _, some m, some n => some ((numbers m n step).map fun i => (Char.ofNat i.toNat).toString)
    | _, _, _, _ => none
  match s.splitOn ".." with
  | [a, b] => build a b 1
  | [a, b, k] => (decimal? k).bind (build a b)
  | _ => none

/-- The words that braces make of glyphs; `fuel` is more than their number. -/
def braces : Nat → List Glyph → List (List Glyph)
  | 0, gs => [gs]
  | _, [] => [[]]
  | fuel + 1, g :: r =>
    let onward (_ : Unit) : List (List Glyph) := (braces fuel r).map (g :: ·)
    match g with
    | .plain '\x7b' =>
      match alternatives? 0 [] r with
      | some ([one], rest) =>
        match (if one.all fun g => g matches .plain _ then series? (textOf one) else none) with
        | some items =>
          let ends := braces fuel rest
          items.flatMap fun i => ends.map (i.toList.map Glyph.plain ++ ·)
        | none => onward ()
      | some (many, rest) =>
        let ends := braces fuel rest
        (many.flatMap (braces fuel)).flatMap fun w => ends.map (w ++ ·)
      | none => onward ()
    | _ => onward ()

/-! ## Variables -/

/-- The letters of the options of a shell. -/
def Options.letters (o : Options) : String :=
  String.join ([(o.exportAll, "a"), (o.strict, "e"), (o.plainNames, "f"), (o.readOnly, "n"), (o.declared, "u"),
    (o.keepFiles, "C")].filterMap fun (set, letter) => if set then some letter else none)

/-- The value of a variable or of a special parameter. -/
def Process.parameter? (p : Process) (name : String) : Option String :=
  match name with
  | "?" => some (toString p.status)
  | "$" => some (toString p.number)
  | "#" => some (toString p.arguments.length)
  | "!" => p.jobs.head?.map fun j => toString j.1
  | "-" => some (p.options.letters ++ (match p.dialect, p.fatal with
    | .plain, _ => ""
    | .rich, 127 => "hBc"
    | .rich, _ => "hB"))
  | "0" => some p.name
  | "@" => if p.arguments.isEmpty then none else some (String.intercalate " " p.arguments)
  | "*" => if p.arguments.isEmpty then none else some (String.intercalate " " p.arguments)
  | "PPID" => some "1"
  | "UID" => if p.dialect = .rich then some "0" else p.value? name
  | "EUID" => if p.dialect = .rich then some "0" else p.value? name
  | _ =>
    match name.toNat? with
    | some i => p.arguments[i - 1]?
    | none => p.value? name

/-- The name stands for all arguments. -/
def isMany (name : String) : Bool := name = "@" || name = "*"

/-- Ends the shell because of a mistake. -/
def abort {α : Type} (what : String) : Act α := do
  let p ← get
  complain p.name what
  halt (.exited p.fatal)

/-- Ends the shell because of words that make no sense, or the line of the richer dialect. -/
def refuseLine {α : Type} (what : String) : Act α := do
  let p ← get
  complain p.name what
  halt (.exited (match p.dialect with
    | .plain => 2
    | .rich => 1))

/-- Complains of a variable without a value if that is a mistake here. -/
def needValue (name : String) : Act Unit := do
  if (← get).options.declared && !isMany name && name ≠ "!" then abort (name ++ ": parameter not set")

/-- Sets a variable, unless its value is fixed. -/
def setVariable (name value : String) : Act Unit := do
  let p ← get
  match p.vars.lookup name with
  | some v => if v.fixed then refuseLine (name ++ ": is read only") else set (p.assign name value)
  | none => set (p.assign name value)

/-- The number that the value of a variable stands for: in the richer dialect it may be an expression,
whose variables hold expressions in turn, `depth` times at most. -/
def Process.numberIn? (p : Process) : Nat → String → Option Int
  | 0, _ => none
  | depth + 1, s =>
    match Arithmetic.integer? s, p.dialect with
    | some n, _ => some n
    | none, .plain => none
    | none, .rich =>
      match Arithmetic.value true s.toList { get := p.parameter?, read := p.numberIn? depth } with
      | .ok (n, _) => some n
      | .error _ => none

/-- The value of an arithmetic expression; the variables that it sets are set. -/
def compute (expression : String) : Act Int := do
  let p ← get
  match Arithmetic.value (p.dialect = .rich) expression.toList
    { get := p.parameter?, strict := p.options.declared, read := p.numberIn? 100 } with
  | .ok (n, sets) =>
    sets.reverse.forM fun (name, v) => setVariable name v
    return n
  | .error .unreadable => refuseLine ("arithmetic expression: expecting primary: \"" ++ expression ++ "\"")
  | .error .divisionByZero => refuseLine "division by zero"
  | .error (.notNumber s) => refuseLine ("Illegal number: " ++ s)
  | .error (.unset name) => abort (name ++ ": parameter not set")

/-- The bytes from a place on, which may be counted from the end, and at most so many. -/
def sliced (s : List Char) (start : Int) (count : Option Int) : List Char :=
  let size : Int := s.length
  let first := if start < 0 then start + size else start
  if first < 0 then []
  else
    let rest := s.drop first.toNat
    match count with
    | none => rest
    | some n => if n < 0 then rest.take ((rest.length : Int) + n).toNat else rest.take n.toNat

/-- A text with matches of a glob replaced; `n` is more than its length. -/
def replaced (g : Glob) (all : Bool) (new : List Char) : Nat → List Char → List Char
  | 0, cs => cs
  | n + 1, cs =>
    match g.start? true cs, cs with
    | some (k + 1), _ =>
      let rest := cs.drop (k + 1)
      new ++ (if all then replaced g all new n rest else rest)
    | _, c :: rest => c :: replaced g all new n rest
    | _, [] => []

/-- What a use makes of a value by patterns that have been expanded. -/
def replacedAt (place : Replaced) (g : Glob) (new : String) (s : String) : String :=
  let cs := s.toList
  String.ofList <| match place with
    | .first => replaced g false new.toList (cs.length + 1) cs
    | .all => replaced g true new.toList (cs.length + 1) cs
    | .atStart =>
      match g.start? true cs with
      | some n => new.toList ++ cs.drop n
      | none => cs
    | .atEnd =>
      match g.finish? true cs with
      | some n => cs.take n ++ new.toList
      | none => cs

/-- A value without what a glob matches at one of its ends. -/
def without (g : Glob) (atEnd longest : Bool) (s : String) : String :=
  let cs := s.toList
  String.ofList <|
    if atEnd then (match g.finish? longest cs with
      | some n => cs.take n
      | none => cs)
    else (match g.start? longest cs with
      | some n => cs.drop n
      | none => cs)

/-- A value with letters of another case. -/
def recased (upper all : Bool) (s : String) : String :=
  let f (c : Char) : Char := if upper then c.toUpper else c.toLower
  match all, s.toList with
  | true, cs => String.ofList (cs.map f)
  | false, c :: cs => String.ofList (f c :: cs)
  | false, [] => ""

/-! ## Words -/

section

variable (run : Script → Act String)

/-- The glyphs of values, one field for each argument where the name stands for all of them. -/
def glyphsOf (name : String) (quoted : Bool) (f : String → String) (value : String) : Act (List Glyph) := do
  let p ← get
  let each := p.arguments.map fun a => Glyph.ofValue quoted (f a)
  if name = "@" || (name = "*" && !quoted) then return (each.intersperse [.gap]).flatten
  else if name = "*" then
    let joint := match p.value? "IFS" with
      | none => " "
      | some s => String.ofList (s.toList.take 1)
    return .mark :: (String.intercalate joint (p.arguments.map f)).toList.map .quoted
  else return Glyph.ofValue quoted (f value)

mutual

/-- The glyphs of a word. -/
def glyphs (w : List Part) : Act (List Glyph) :=
  match w with
  | [] => return []
  | p :: w => do
    let gs ← partGlyphs p
    return gs ++ (← glyphs w)

/-- The glyphs of a part of a word. -/
def partGlyphs (p : Part) : Act (List Glyph) :=
  match p with
  | .text cs quoted => return if quoted then .mark :: cs.map .quoted else cs.map .plain
  | .parameter name use quoted => useGlyphs name quoted use
  | .output script quoted => do return Glyph.ofValue quoted (← run script)
  | .number e quoted => do
    let gs ← glyphs e
    return Glyph.ofValue quoted (toString (← compute (textOf gs)))

/-- The glyphs of what is made of a variable. -/
def useGlyphs (name : String) (quoted : Bool) (use : Use) : Act (List Glyph) := do
  let old := (← get).parameter? name
  let missing (orEmpty : Bool) : Bool := old.isNone || (orEmpty && old = some "")
  let changed (f : String → String) : Act (List Glyph) := do
    if old.isNone then needValue name
    glyphsOf name quoted f (old.getD "")
  let word (gs : List Glyph) : List Glyph := if quoted then .mark :: gs else gs.map Glyph.inValue
  match use with
  | .value => changed id
  | .length =>
    let p ← get
    if isMany name && p.dialect = .rich then return Glyph.ofValue quoted (toString p.arguments.length)
    else
      if old.isNone then needValue name
      return Glyph.ofValue quoted (toString (old.getD "").length)
  | .orElse orEmpty w => if missing orEmpty then do return word (← glyphs w) else glyphsOf name quoted id (old.getD "")
  | .orSet orEmpty w =>
    if missing orEmpty then do
      let s := textOf (← glyphs w)
      setVariable name s
      return Glyph.ofValue quoted s
    else glyphsOf name quoted id (old.getD "")
  | .orFail orEmpty w =>
    if missing orEmpty then do
      let s := textOf (← glyphs w)
      abort (name ++ ": " ++ (if s.isEmpty then "parameter not set or null" else s))
    else glyphsOf name quoted id (old.getD "")
  | .instead orEmpty w => if missing orEmpty then return (if quoted then [.mark] else []) else do return word (← glyphs w)
  | .cut atEnd longest w => do
    let g := Glob.parse (patternOf (← glyphs w))
    changed (without g atEnd longest)
  | .slice start count => do
    let a ← compute (textOf (← glyphs start))
    let n ← match count with
      | some w => do pure (some (← compute (textOf (← glyphs w))))
      | none => pure none
    if isMany name then do
      let p ← get
      let all := p.name :: p.arguments
      let first := if a < 0 then (a + all.length).toNat else a.toNat
      let chosen := (all.drop first).take (match n with
        | some n => n.toNat
        | none => all.length)
      return ((chosen.map (Glyph.ofValue quoted)).intersperse [.gap]).flatten
    else changed fun s => String.ofList (sliced s.toList a n)
  | .replace place pattern w => do
    let g := Glob.parse (patternOf (← glyphs pattern))
    let new := textOf (← glyphs w)
    changed (replacedAt place g new)
  | .recase upper all => changed (recased upper all)
  | .indirect => do
    let p ← get
    return Glyph.ofValue quoted ((p.parameter? (old.getD "")).getD "")

end

/-- A word with the home directory in place of a tilde that it begins with. -/
def withHome (p : Process) (gs : List Glyph) : List Glyph :=
  match gs with
  | .plain '~' :: r =>
    match p.value? "HOME", r with
    | some home, [] => home.toList.map .quoted
    | some home, .plain '/' :: _ => home.toList.map .quoted ++ r
    | _, _ => gs
  | _ => gs

/-- The text of a word as one piece. -/
def wholeText (w : Word) : Act String := do
  let gs ← glyphs run w
  return textOf (withHome (← get) gs)

/-- The glob that a word spells. -/
def globOf (w : Word) : Act Glob := do
  return Glob.parse (patternOf (← glyphs run w))

/-- The words that a command is given for one word of the script. -/
def expandWord (w : Word) : Act (List String) := do
  let gs ← glyphs run w
  let p ← get
  let alternatives := match p.dialect with
    | .rich => braces (gs.length + 1) gs
    | .plain => [gs]
  return (alternatives.flatMap fun gs => fields p.separators (withHome p gs)).flatMap (filesOf p)

/-- The words that a command is given. -/
def expandWords (ws : List Word) : Act (List String) := do
  return (← ws.mapM (expandWord run)).flatten

end

end Mend.Shell
