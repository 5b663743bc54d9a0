import Mend.Posix.Regular
import Mend.Shell.Utility.File

/-!
# Editing streams

An editor reads texts line by line into a working space, carries out a script on it and prints what is
left. A script is a list of commands, each for some of the lines; commands in braces stand in the list
between a command that opens and one that closes. Running a script costs fuel, because it may jump back.
-/

namespace Mend.Shell.Edit

open Posix (Regular)

/-! ## Scripts -/

/-- A regular expression; an empty one is the last that was used. -/
structure Expression where
  regular : Option Regular
  fold : Bool
  deriving Inhabited

/-- What picks a line. -/
inductive Address where
  | line (number : Nat)
  | every (first step : Nat)
  | last
  | expression (e : Expression)
  deriving Inhabited

/-- Where a range of lines ends. -/
inductive Limit where
  | address (a : Address)
  | further (count : Nat)
  | multiple (of : Nat)
  deriving Inhabited

/-- The lines that a command is for. -/
structure Scope where
  first : Option Address := none
  limit : Option Limit := none
  inverted : Bool := false
  deriving Inhabited

/-- How letters are changed from here on in a replacement. -/
inductive Recase where
  | upper
  | lower
  | upperNext
  | lowerNext
  | none
  deriving DecidableEq, Repr

/-- A piece of a replacement. -/
inductive Piece where
  | text (c : Char)
  | group (index : Nat)
  | recase (r : Recase)
  deriving Repr

/-- A substitution. -/
structure Substitution where
  pattern : Expression
  replacement : List Piece
  /-- The match that is replaced first. -/
  nth : Nat := 1
  /-- The matches after it are replaced too. -/
  all : Bool := false
  print : Bool := false
  file : Option String := none
  deriving Inhabited

/-- What a command does. -/
inductive Action where
  | opening
  | closing
  | substitute (s : Substitution)
  | translate (pairs : List (Char × Char))
  | delete
  | deleteLine
  | print
  | printLine
  | append (text : List Char)
  | insert (text : List Char)
  | change (text : List Char)
  | hold (adding : Bool)
  | recall (adding : Bool)
  | exchange
  | next
  | nextAdding
  | quit (code : Nat) (silently : Bool)
  | number
  | readFile (name : String)
  | writeFile (name : String)
  | jump (label : String)
  | jumpIf (label : String) (replaced : Bool)
  | label (name : String)
  | list
  | clear
  | fileName
  deriving Inhabited

/-- A command. -/
structure Command where
  scope : Scope
  action : Action
  deriving Inhabited

/-! ## Reading scripts -/

/-- Reads up to a delimiter that has no backslash; one that has loses it. Line ends are written `\n`. -/
def delimited? (delimiter : Char) (isExpression : Bool) : List Char → Option (List Char × List Char)
  | [] => none
  | '\\' :: c :: r =>
    let more := delimited? delimiter isExpression r
    if c = delimiter && c ≠ 'n' then more.map fun (cs, rest) => (c :: cs, rest)
    else if c = 'n' && isExpression then more.map fun (cs, rest) => ('\n' :: cs, rest)
    else more.map fun (cs, rest) => ('\\' :: c :: cs, rest)
  | c :: r =>
    if c = delimiter then some ([], r)
    else (delimited? delimiter isExpression r).map fun (cs, rest) => (c :: cs, rest)

/-- The byte that a letter after a backslash stands for. -/
def escape? (c : Char) : Option Char :=
  [('t', '\t'), ('f', '\x0c'), ('v', '\x0b'), ('a', '\x07'), ('r', '\r')].lookup c

/-- An expression with its escapes replaced. -/
def unescaped : List Char → List Char
  | '\\' :: c :: r =>
    match escape? c with
    | some d => d :: unescaped r
    | none => '\\' :: c :: unescaped r
  | c :: r => c :: unescaped r
  | [] => []

/-- The expression that a text spells. -/
def expression? (extended fold : Bool) (cs : List Char) : Option Expression :=
  if cs.isEmpty then some ⟨none, fold⟩
  else (Regular.parse extended (unescaped cs)).map fun e => ⟨some e, fold⟩

/-- The pieces of a replacement. -/
def pieces : List Char → List Piece
  | '\\' :: c :: r =>
    if c.isDigit then .group (c.toNat - 48) :: pieces r
    else
      let recase : List (Char × Recase) :=
        [('U', .upper), ('L', .lower), ('u', .upperNext), ('l', .lowerNext), ('E', .none)]
      match recase.lookup c with
      | some k => .recase k :: pieces r
      | none => .text (if c = 'n' then '\n' else (escape? c).getD c) :: pieces r
  | '&' :: r => .group 0 :: pieces r
  | c :: r => .text c :: pieces r
  | [] => []

/-- Drops blanks. -/
def skip (cs : List Char) : List Char := cs.dropWhile fun c => c = ' ' || c = '\t'

/-- Reads a number. -/
def number? (cs : List Char) : Option (Nat × List Char) :=
  let ds := cs.takeWhile Char.isDigit
  (String.ofList ds).toNat?.map fun n => (n, cs.drop ds.length)

/-- Reads an address, if there is one; none if it has a mistake. -/
def address? (extended : Bool) (cs : List Char) : Option (Option Address × List Char) :=
  let pattern (delimiter : Char) (r : List Char) : Option (Option Address × List Char) := do
    let (e, r) ← delimited? delimiter true r
    let (fold, r) := match r with
      | 'I' :: r => (true, r)
      | 'M' :: r => (false, r)
      | r => (false, r)
    some (some (.expression (← expression? extended fold e)), r)
  match cs with
  | '$' :: r => some (some .last, r)
  | '/' :: r => pattern '/' r
  | '\\' :: c :: r => pattern c r
  | _ =>
    match number? cs with
    | some (n, '~' :: r) =>
      match number? r with
      | some (s, r) => some (some (.every n s), r)
      | none => none
    | some (n, r) => some (some (.line n), r)
    | none => some (none, cs)

/-- Reads the lines that a command is for. -/
def scope? (extended : Bool) (cs : List Char) : Option (Scope × List Char) := do
  let (first, r) ← address? extended cs
  let (limit, r) ← match first, skip r with
    | some _, ',' :: r =>
      match skip r with
      | '+' :: r => (number? r).map fun (n, r) => (some (Limit.further n), r)
      | '~' :: r => (number? r).map fun (n, r) => (some (Limit.multiple n), r)
      | r =>
        match address? extended r with
        | some (some a, r) => some (some (Limit.address a), r)
        | _ => none
    | _, r => some (none, r)
  match skip r with
  | '!' :: r => some (⟨first, limit, true⟩, (skip r).dropWhile (· = '!'))
  | r => some (⟨first, limit, false⟩, r)

/-- Reads the text of a command: one line, and more after backslashes at the ends of lines. -/
def textLines : List Char → List Char × List Char
  | [] => ([], [])
  | '\n' :: r => ([], r)
  | '\\' :: c :: r =>
    let (cs, rest) := textLines r
    (c :: cs, rest)
  | c :: r =>
    let (cs, rest) := textLines r
    (c :: cs, rest)

/-- Reads the text after a letter that takes one. -/
def text? (cs : List Char) : Option (List Char × List Char) :=
  match skip cs with
  | [] => none
  | '\\' :: r =>
    match skip r with
    | '\n' :: r =>
      let (cs, rest) := textLines r
      some (cs ++ ['\n'], rest)
    | _ =>
      let (cs, rest) := textLines r
      some (cs ++ ['\n'], rest)
  | r =>
    let (cs, rest) := textLines r
    some (cs ++ ['\n'], rest)

/-- Reads the flags of a substitution. -/
def flags? (s : Substitution) : List Char → Option (Substitution × Bool × List Char)
  | 'g' :: r => flags? { s with all := true } r
  | 'p' :: r => flags? { s with print := true } r
  | 'm' :: r => flags? s r
  | 'M' :: r => flags? s r
  | 'i' :: r => (flags? s r).map fun (s, _, rest) => (s, true, rest)
  | 'I' :: r => (flags? s r).map fun (s, _, rest) => (s, true, rest)
  | 'w' :: r =>
    let name := (skip r).takeWhile (· ≠ '\n')
    some ({ s with file := some (String.ofList name) }, false, (skip r).drop name.length)
  | c :: r =>
    if c.isDigit then
      let n := if s.nth = 1 then c.toNat - 48 else 10 * s.nth + (c.toNat - 48)
      flags? { s with nth := n } r
    else some (s, false, c :: r)
  | [] => some (s, false, [])

/-- Pairs of bytes that are translated into each other. -/
def pairs? : List Char → List Char → Option (List (Char × Char))
  | [], [] => some []
  | a, b =>
    let first : List Char → Option (Char × List Char)
      | '\\' :: '\\' :: r => some ('\\', r)
      | '\\' :: 'n' :: r => some ('\n', r)
      | '\\' :: 't' :: r => some ('\t', r)
      | c :: r => some (c, r)
      | [] => none
    go (a.length + b.length) first a b
where
  /-- Takes a byte off each text in turn. -/
  go : Nat → (List Char → Option (Char × List Char)) → List Char → List Char → Option (List (Char × Char))
  | 0, _, a, b => if a.isEmpty && b.isEmpty then some [] else none
  | fuel + 1, first, a, b =>
    match first a, first b with
    | none, none => some []
    | some (x, a), some (y, b) => (go fuel first a b).map fun ps => (x, y) :: ps
    | _, _ => none

/-- Reads a substitution after its letter. -/
def substitution? (extended : Bool) (cs : List Char) : Option (Action × List Char) :=
  match cs with
  | [] => none
  | d :: r => do
    let (e, r) ← delimited? d true r
    let (t, r) ← delimited? d false r
    let (s, fold, rest) ← flags? { pattern := ⟨none, false⟩, replacement := pieces t } r
    some (.substitute { s with pattern := ← expression? extended fold e }, rest)

/-- Reads a command after its scope. -/
def action? (extended : Bool) (cs : List Char) : Option (Action × List Char) :=
  let word (r : List Char) : String × List Char :=
    let w := (skip r).takeWhile fun c => c ≠ '\n' && c ≠ ';'
    (String.ofList (w.reverse.dropWhile fun c => c = ' ').reverse, (skip r).drop w.length)
  let name (r : List Char) : String × List Char :=
    let w := (skip r).takeWhile (· ≠ '\n')
    (String.ofList w, (skip r).drop w.length)
  let code (r : List Char) : Nat × List Char := (number? (skip r)).getD (0, r)
  match cs with
  | '\x7b' :: r => some (.opening, r)
  | '\x7d' :: r => some (.closing, r)
  | 's' :: r => substitution? extended r
  | 'y' :: d :: r => do
    let (a, r) ← delimited? d false r
    let (b, rest) ← delimited? d false r
    some (.translate (← pairs? a b), rest)
  | 'd' :: r => some (.delete, r)
  | 'D' :: r => some (.deleteLine, r)
  | 'p' :: r => some (.print, r)
  | 'P' :: r => some (.printLine, r)
  | 'a' :: r => (text? r).map fun (t, rest) => (.append t, rest)
  | 'i' :: r => (text? r).map fun (t, rest) => (.insert t, rest)
  | 'c' :: r => (text? r).map fun (t, rest) => (.change t, rest)
  | 'h' :: r => some (.hold false, r)
  | 'H' :: r => some (.hold true, r)
  | 'g' :: r => some (.recall false, r)
  | 'G' :: r => some (.recall true, r)
  | 'x' :: r => some (.exchange, r)
  | 'n' :: r => some (.next, r)
  | 'N' :: r => some (.nextAdding, r)
  | 'q' :: r => let (n, rest) := code r; some (.quit n false, rest)
  | 'Q' :: r => let (n, rest) := code r; some (.quit n true, rest)
  | '=' :: r => some (.number, r)
  | 'r' :: r => let (n, rest) := name r; some (.readFile n, rest)
  | 'w' :: r => let (n, rest) := name r; some (.writeFile n, rest)
  | 'b' :: r => let (l, rest) := word r; some (.jump l, rest)
  | 't' :: r => let (l, rest) := word r; some (.jumpIf l true, rest)
  | 'T' :: r => let (l, rest) := word r; some (.jumpIf l false, rest)
  | ':' :: r => let (l, rest) := word r; some (.label l, rest)
  | 'l' :: r => some (.list, r)
  | 'z' :: r => some (.clear, r)
  | 'F' :: r => some (.fileName, r)
  | _ => none

/-- A command may be followed by this text. -/
def endsCommand (a : Action) (cs : List Char) : Bool :=
  match a, skip cs with
  | .opening, _ => true
  | _, [] => true
  | _, c :: _ => c = '\n' || c = ';' || c = '\x7d' || c = '#' ||
    (match a with
      | .append _ => true
      | .insert _ => true
      | .change _ => true
      | _ => false)

/-- Reads commands; `fuel` is more than the length of the text. -/
def commands? (extended : Bool) : Nat → List Char → Option (List Command)
  | 0, _ => none
  | fuel + 1, cs =>
    match cs.dropWhile fun c => Posix.isSpace c || c = ';' with
    | [] => some []
    | '#' :: r => commands? extended fuel (r.dropWhile (· ≠ '\n'))
    | cs => do
      let (s, r) ← scope? extended cs
      let (a, rest) ← action? extended r
      if endsCommand a rest then some (⟨s, a⟩ :: (← commands? extended fuel rest)) else none

/-- The blocks of a script are closed in their order. -/
def balanced : Nat → List Command → Bool
  | n, [] => n = 0
  | n, c :: cs =>
    match c.action with
    | .opening => balanced (n + 1) cs
    | .closing => 0 < n && balanced (n - 1) cs
    | _ => balanced n cs

/-- The script that a text spells. -/
def parse (extended : Bool) (s : String) : Option (Array Command) :=
  match commands? extended (s.length + 2) s.toList with
  | some cs => if balanced 0 cs then some cs.toArray else none
  | none => none

/-! ## Running scripts -/

/-- The state of an editor. -/
structure Session where
  /-- The lines that have not been read, with their ends. -/
  input : List (List Char)
  /-- The name of the file. -/
  file : String
  /-- The texts of files that may be read. -/
  files : List (String × String) := []
  line : Nat := 0
  space : List Char := []
  held : List Char := []
  /-- The line in the working space has an end. -/
  ended : Bool := true
  /-- The pieces that have been printed, the last first. -/
  printed : List (List Char) := []
  /-- The last line that was printed has no end. -/
  openLine : Bool := false
  /-- What comes after the line. -/
  queue : List (List Char) := []
  /-- What has been written to files, the last first. -/
  written : List (String × List Char) := []
  /-- Where the ranges of commands end that have begun; no number if that is not a line's number. -/
  ranges : List (Nat × Option Nat) := []
  last : Option Regular := none
  replaced : Bool := false
  silent : Bool := false
  code : Nat := 0

namespace Session

/-- Prints a text, after ending the line before it. -/
def out (s : Session) (text : List Char) : Session :=
  { s with printed := text :: (if s.openLine then ['\n'] :: s.printed else s.printed), openLine := false }

/-- Prints a line, which has an end if the line that was read has one. -/
def outLine (s : Session) (text : List Char) : Session :=
  let s := s.out (if s.ended then text ++ ['\n'] else text)
  { s with openLine := !s.ended }

/-- No line is left. -/
def atLast (s : Session) : Bool := s.input.isEmpty

/-- Prints what comes after the line. -/
def flush (s : Session) : Session :=
  { s.queue.foldl (fun s t => if t.isEmpty then s else s.out t) s with queue := [] }

/-- Ends a turn: prints the working space, unless nothing is to be printed, and what comes after it. -/
def finish (s : Session) : Session := (if s.silent then s else s.outLine s.space).flush

/-- Reads a line into the working space, after what is in it if `adding`. -/
def read (s : Session) (adding : Bool) : Session :=
  match s.input with
  | [] => s
  | l :: rest =>
    let body := chomp l
    { s with
      input := rest
      line := s.line + 1
      ended := l.length ≠ body.length
      space := if adding then s.space ++ '\n' :: body else body }

/-- The expression that is meant, and the session that remembers it. -/
def resolve (s : Session) (e : Expression) : Regular × Session :=
  let r := (e.regular <|> s.last).getD .empty
  (r, { s with last := some r })

/-- An address picks the line. -/
def picks (s : Session) : Address → Bool × Session
  | .line n => (s.line = n, s)
  | .every first step =>
    (if step = 0 then s.line = first else first ≤ s.line && (s.line - first) % step = 0, s)
  | .last => (s.atLast, s)
  | .expression e =>
    let (r, s) := s.resolve e
    (r.matchesIn e.fold s.space, s)

/-- The session in which the range of a command has begun, or has not. -/
def setRange (s : Session) (i : Nat) (r : Option (Option Nat)) : Session :=
  let others := s.ranges.filter fun p => p.1 ≠ i
  { s with ranges := match r with
    | some stop => (i, stop) :: others
    | none => others }

/-- A range that begins at this line: the session in which it goes on, unless it ends here. -/
def begin_ (s : Session) (i : Nat) (limit : Limit) : Session :=
  let upTo (n : Nat) : Session := if n ≤ s.line then s else s.setRange i (some (some n))
  match limit with
  | .address (.line n) => upTo n
  | .further n => upTo (s.line + n)
  | .multiple n => upTo (if n = 0 then s.line else (s.line + n - 1) / n * n)
  | .address _ => s.setRange i (some none)

/-- The command with a number is for this line. -/
def inScope (s : Session) (i : Nat) (c : Scope) : Bool × Session :=
  match c.first, c.limit with
  | none, _ => (!c.inverted, s)
  | some a, none =>
    let (r, s) := s.picks a
    (r != c.inverted, s)
  | some a, some limit =>
    match s.ranges.lookup i with
    | some (some stop) =>
      let s := if stop ≤ s.line then s.setRange i none else s
      if s.line ≤ stop then (!c.inverted, s)
      else
        let (r, s) := s.picks a
        ((r != c.inverted), if r then s.begin_ i limit else s)
    | some none =>
      let (stops, s) := match limit with
        | .address b => s.picks b
        | _ => (false, s)
      (!c.inverted, if stops then s.setRange i none else s)
    | none =>
      let (r, s) := s.picks a
      (r != c.inverted, if r then s.begin_ i limit else s)

/-- The number of the command that closes a block, from a number on; `depth` blocks are open. -/
def closing (program : Array Command) : Nat → Nat → Nat → Nat
  | 0, i, _ => i
  | fuel + 1, i, depth =>
    match program[i]?.map Command.action with
    | none => i
    | some .opening => closing program fuel (i + 1) (depth + 1)
    | some .closing => if depth = 0 then i else closing program fuel (i + 1) (depth - 1)
    | some _ => closing program fuel (i + 1) depth

/-- The number of the command after a label, or after the last command. -/
def target (program : Array Command) (label : String) : Nat :=
  if label.isEmpty then program.size
  else
    let found := program.toList.zipIdx.find? fun (c, _) => match c.action with
      | .label l => l = label
      | _ => false
    (found.map (·.2)).getD program.size

end Session

/-! ### Substitution -/

/-- The text of a replacement after a match; `one` changes the next byte and `all` those from here on. -/
def replacementText (text : Array Char) (r : Posix.Reached) : List Piece → Recase → Recase → List Char
  | [], _, _ => []
  | .recase k :: ps, one, all =>
    match k with
    | .upperNext => replacementText text r ps .upperNext all
    | .lowerNext => replacementText text r ps .lowerNext all
    | k => replacementText text r ps one k
  | p :: ps, one, all =>
    let cs := match p with
      | .text c => [c]
      | .group i => Regular.groupText text r.groups i
      | .recase _ => []
    let cs := match all with
      | .upper => cs.map Char.toUpper
      | .lower => cs.map Char.toLower
      | _ => cs
    let (cs, one) := match one, cs with
      | .upperNext, c :: r => (c.toUpper :: r, Recase.none)
      | .lowerNext, c :: r => (c.toLower :: r, Recase.none)
      | o, cs => (cs, o)
    cs ++ replacementText text r ps one all

/-- A text with matches replaced from the `nth` on, and how many were; `i` counts the matches that have
passed and `place` is where the text goes on. -/
def replaceMatches (s : Substitution) (text : Array Char) : Nat → Nat → List Posix.Reached → List Char × Nat
  | _, place, [] => ((text.extract place text.size).toList, 0)
  | i, place, m :: ms =>
    match m.groups.lookup 0 with
    | none => replaceMatches s text i place ms
    | some (a, b) =>
      let (rest, n) := replaceMatches s text (i + 1) b ms
      let before := (text.extract place a).toList
      if i = s.nth || (s.nth < i && s.all) then
        (before ++ replacementText text m s.replacement .none .none ++ rest, n + 1)
      else (before ++ (text.extract a b).toList ++ rest, n)

/-- A line as it is shown when it is listed, cut into pieces. -/
def listed (width : Nat) (cs : List Char) : List Char :=
  let shown (c : Char) : List Char :=
    match ([('\\', "\\\\"), ('\x07', "\\a"), ('\x08', "\\b"), ('\x0c', "\\f"), ('\n', "\\n"), ('\r', "\\r"),
        ('\t', "\\t"), ('\x0b', "\\v")] : List (Char × String)).lookup c with
    | some s => s.toList
    | none =>
      if 32 ≤ c.toNat && c.toNat < 127 then [c]
      else
        let ds := Nat.toDigits 8 c.toNat
        '\\' :: List.replicate (3 - ds.length) '0' ++ ds
  let step (acc : List (List Char) × List Char) (c : Char) : List (List Char) × List Char :=
    let piece := shown c
    if acc.2.length + piece.length > width - 1 then (acc.2 :: acc.1, piece) else (acc.1, acc.2 ++ piece)
  let (done, open_) := cs.foldl step ([], [])
  (List.intersperse ['\\', '\n'] (open_ :: done).reverse).flatten ++ ['$', '\n']

/-! ### Turns -/

/-- How a turn goes on after a command. -/
inductive After where
  | goOn (at_ : Nat)
  /-- The turn is over and nothing is printed. -/
  | dropped
  /-- The next turn begins without reading a line. -/
  | again
  | quit

/-- Carries out the command with a number. -/
def carryOut (program : Array Command) (i : Nat) (scope : Scope) (s : Session) : Action → Session × After
  | .opening => (s, .goOn (i + 1))
  | .closing => (s, .goOn (i + 1))
  | .label _ => (s, .goOn (i + 1))
  | .substitute u =>
    let (r, s) := s.resolve u.pattern
    let text := s.space.toArray
    let (space, n) := replaceMatches u text 1 0 (r.findAll ⟨text, u.pattern.fold⟩)
    if n = 0 then (s, .goOn (i + 1))
    else
      let s := { s with space := space, replaced := true }
      let s := if u.print then s.outLine s.space else s
      let s := match u.file with
        | some f => if f = "/dev/stdout" then s.outLine s.space else { s with written := (f, s.space ++ ['\n']) :: s.written }
        | none => s
      (s, .goOn (i + 1))
  | .translate ps => ({ s with space := s.space.map fun c => (ps.lookup c).getD c }, .goOn (i + 1))
  | .delete => (s, .dropped)
  | .deleteLine =>
    if s.space.contains '\n' then ({ s with space := (s.space.dropWhile (· ≠ '\n')).tail }, .again) else (s, .dropped)
  | .print => (s.outLine s.space, .goOn (i + 1))
  | .printLine => (s.out (s.space.takeWhile (· ≠ '\n') ++ ['\n']), .goOn (i + 1))
  | .append t => ({ s with queue := s.queue ++ [t] }, .goOn (i + 1))
  | .insert t => (s.out t, .goOn (i + 1))
  | .change t =>
    let goesOn := scope.limit.isSome && !scope.inverted && (s.ranges.lookup i).isSome
    (if goesOn then s else s.out t, .dropped)
  | .hold adding => ({ s with held := if adding then s.held ++ '\n' :: s.space else s.space }, .goOn (i + 1))
  | .recall adding => ({ s with space := if adding then s.space ++ '\n' :: s.held else s.held }, .goOn (i + 1))
  | .exchange => ({ s with space := s.held, held := s.space }, .goOn (i + 1))
  | .next =>
    if s.atLast then (s, .quit)
    else (s.finish.read false, .goOn (i + 1))
  | .nextAdding =>
    if s.atLast then (s, .quit)
    else (s.flush.read true, .goOn (i + 1))
  | .quit code silently =>
    let s := { s with code := code }
    if silently then ({ s with silent := true, queue := [] }, .quit) else (s, .quit)
  | .number => (s.out (toString s.line ++ "\n").toList, .goOn (i + 1))
  | .readFile f => ({ s with queue := s.queue ++ [((s.files.lookup f).getD "").toList] }, .goOn (i + 1))
  | .writeFile f =>
    (if f = "/dev/stdout" then s.outLine s.space else { s with written := (f, s.space ++ ['\n']) :: s.written },
      .goOn (i + 1))
  | .jump l => (s, .goOn (Session.target program l))
  | .jumpIf l wanted =>
    if s.replaced = wanted then ({ s with replaced := false }, .goOn (Session.target program l))
    else ({ s with replaced := false }, .goOn (i + 1))
  | .list => (s.out (listed 70 s.space), .goOn (i + 1))
  | .clear => ({ s with space := [] }, .goOn (i + 1))
  | .fileName => (s.out (s.file ++ "\n").toList, .goOn (i + 1))

/-- Carries out the script from a command on, and then turn after turn until no line is left. -/
def run (program : Array Command) : Nat → Nat → Session → Session
  | 0, _, s => s
  | fuel + 1, i, s =>
    let nextTurn (s : Session) : Session :=
      if s.atLast then s else run program fuel 0 { s.read false with replaced := false }
    match program[i]? with
    | none => nextTurn s.finish
    | some c =>
      let (applies, s) := s.inScope i c.scope
      if !applies then
        match c.action with
        | .opening => run program fuel (Session.closing program program.size (i + 1) 0 + 1) s
        | _ => run program fuel (i + 1) s
      else
        match carryOut program i c.scope s c.action with
        | (s, .goOn j) => run program fuel j s
        | (s, .dropped) => nextTurn s.flush
        | (s, .again) => run program fuel 0 s.flush
        | (s, .quit) => s.finish

/-- The ranges that begin before the first line. -/
def earlyRanges (program : Array Command) : List (Nat × Option Nat) :=
  program.toList.zipIdx.filterMap fun (c, i) =>
    match c.scope.first, c.scope.limit with
    | some (.line 0), some (.address (.expression _)) => some (i, none)
    | _, _ => none

/-- The steps that a script may take. -/
def enough (lines : Nat) : Nat := 1000000 + 1000 * lines

/-- Edits a text: what is printed, and the session that is left. -/
def edit (program : Array Command) (s : Session) : String × Session :=
  let s := { s with ranges := earlyRanges program }
  let s := if s.atLast then s else run program (enough s.input.length) 0 (s.read false)
  (String.ofList s.printed.reverse.flatten, s)

/-- The files that a script reads. -/
def filesRead (program : Array Command) : List String :=
  program.toList.filterMap fun c => match c.action with
    | .readFile f => some f
    | _ => none

/-- The files that a script writes. -/
def filesWritten (program : Array Command) : List String :=
  (program.toList.filterMap fun c => match c.action with
    | .writeFile f => some f
    | .substitute u => u.file
    | _ => none).filter (· ≠ "/dev/stdout")

/-! ## The utility -/

/-- The options of the editor. -/
def options : Known :=
  { letters := "nErsuzb", valued := "efl", attached := "i",
    long := [("quiet", 'n'), ("silent", 'n'), ("regexp-extended", 'E'), ("expression", 'e'), ("file", 'f'),
      ("in-place", 'i'), ("separate", 's'), ("null-data", 'z'), ("posix", 'u'), ("unbuffered", 'u'), ("debug", 'u')] }

/-- The name of the copy that is kept of a file. -/
def backupName (suffix name : String) : String :=
  if suffix.toList.contains '*' then
    String.ofList (suffix.toList.flatMap fun c => if c = '*' then (baseOf name).toList else [c])
  else name ++ suffix

/-- Edits files, or the input. -/
def utility : Utility :=
  withOptions "sed" options 1 fun g => do
  let fromFiles ← (g.values 'f').mapM fun f => do
    match ← readSource f with
    | .ok text => return text
    | .error e =>
      complain "sed" ("couldn't open file " ++ f ++ ": " ++ e.words)
      return ""
  let given := g.values 'e' ++ fromFiles
  match given.isEmpty, g.operands with
  | true, [] =>
    write 2 "Usage: sed [OPTION]... \x7bscript-only-if-no-other-script\x7d [input-file]...\n"
    return 1
  | implicit, operands =>
    let script := if implicit then operands.headD "" else String.intercalate "\n" given
    let names := if implicit then operands.tail else operands
    match parse (g.has 'E' || g.has 'r') script with
    | none =>
      complain "sed" "-e expression #1, char 0: unknown command"
      return 1
    | some program =>
      let quiet := g.has 'n' || script = "#n" || startsWith "#n\n" script
      for f in filesWritten program do
        let _ ← writeFile f ""
      let texts ← (filesRead program).mapM fun f => do
        match ← readSource (if f = "/dev/stdin" then "-" else f) with
        | .ok t => return (f, t)
        | .error _ => return (f, "")
      let start (name : String) (ls : List (List Char)) : Session :=
        { input := ls, file := name, files := texts, silent := quiet }
      let keep (s : Session) : Act Unit :=
        for (f, t) in s.written.reverse do
          match ← openOut f true with
          | .ok c => c.write (String.ofList t)
          | .error _ => pure ()
      let unreadable (name : String) (e : Fs.Error) : Act Nat := do
        if e = .isDirectory then complain "sed" ("couldn't edit " ++ name ++ ": not a regular file")
        else complain "sed" ("can't read " ++ name ++ ": " ++ e.words)
        return if e = .isDirectory && g.has 'i' then 4 else 2
      let names := if names.isEmpty then ["-"] else names
      if g.has 'i' || g.has 's' then
        onEach names fun name => do
          match ← readSource name with
          | .error e => unreadable name e
          | .ok text =>
            let (out, s) := edit program (start name (rows text))
            if g.has 'i' && name ≠ "-" then
              let suffix := (g.value? 'i').getD ""
              if !suffix.isEmpty then
                let _ ← writeFile (backupName suffix name) text
              let _ ← writeFile name out
            else say out
            keep s
            return s.code
      else
        let read ← names.mapM fun name => do
          match ← readSource name with
          | .ok text => return (some text, 0)
          | .error e => return (none, ← unreadable name e)
        let found := read.filterMap (·.1)
        let ls := found.flatMap rows
        let joined := ls.zipIdx.map fun (l, i) => if i + 1 < ls.length && l.getLast? ≠ some '\n' then l ++ ['\n'] else l
        let (out, s) := edit program (start (names.headD "-") joined)
        say out
        keep s
        return if s.code ≠ 0 then s.code else read.foldl (fun n r => max n r.2) 0

end Mend.Shell.Edit
