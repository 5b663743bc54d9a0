import Mend.Shell.Utility.Basic
import Mend.Text.Blank

/-!
# Lines

Utilities that pass texts on, whole or in part, line by line.
-/

namespace Mend.Shell

/-! ## Passing on -/

/-- A byte made visible. -/
def visible (c : Char) : List Char :=
  let n := c.toNat
  let low (n : Nat) : List Char := if n < 32 then ['^', Char.ofNat (n + 64)] else if n = 127 then ['^', '?'] else [Char.ofNat n]
  if c = '\n' || c = '\t' then [c] else if n < 128 then low n else 'M' :: '-' :: low (n - 128)

/-- The lines of a text with what options add to them, the first being numbered after `n`. The text
goes on after a line with `blank` set. -/
def decorated (g : Given) : Nat → Bool → List (List Char) → List Char
  | _, _, [] => []
  | n, blank, l :: ls =>
    let body := chomp l
    if g.has 's' && blank && body.isEmpty then decorated g n true ls
    else
      let numbered := if g.has 'b' then !body.isEmpty else g.has 'n'
      let shown := if g.has 'v' then body.flatMap visible else body
      let shown := if g.has 'T' then shown.flatMap fun c => if c = '\t' then ['^', 'I'] else [c] else shown
      (if numbered then (padLeft 6 (toString (n + 1)) ++ "\t").toList else []) ++ shown ++
        (if l.length = body.length then [] else if g.has 'E' then ['$', '\n'] else ['\n']) ++
        decorated g (if numbered then n + 1 else n) body.isEmpty ls

/-- Prints files, or the input. -/
def cat : Utility :=
  withOptions "cat"
    { letters := "nbsETvAetu",
      long := [("number", 'n'), ("number-nonblank", 'b'), ("squeeze-blank", 's'), ("show-ends", 'E'),
        ("show-tabs", 'T'), ("show-nonprinting", 'v'), ("show-all", 'A')] }
    1 fun g => do
  let implied : List (Char × List Char) := [('A', ['v', 'E', 'T']), ('e', ['v', 'E']), ('t', ['v', 'T'])]
  let g := { g with options := g.options ++ (implied.filter fun i => g.has i.1).flatMap fun i => i.2.map fun c => (c, "") }
  let (text, code) ← allSources "cat" 1 g.operands
  say (if g.options.isEmpty then text else String.ofList (decorated g 0 false (rows text)))
  return code

/-- Prints the input and writes it to files. -/
def tee : Utility :=
  withOptions "tee" { letters := "aip", long := [("append", 'a'), ("ignore-interrupts", 'i')] } 1 fun g => do
  let text ← takeAll 0
  say text
  onEach g.operands fun name => do
    match ← openOut name (g.has 'a') with
    | .ok c =>
      c.write text
      return 0
    | .error e =>
      complain "tee" (name ++ ": " ++ e.words)
      return 1

/-- The lines of texts in the other order. -/
def tac : Utility :=
  withOptions "tac" { letters := "br", valued := "s" } 1 fun g =>
  onSources "tac" 1 g.operands fun _ text => say (String.ofList (rows text).reverse.flatten)

/-- Prints every line from its end to its start. -/
def rev : Utility :=
  withOptions "rev" {} 1 fun g =>
  onSources "rev" 1 g.operands fun _ text =>
    say (String.ofList ((rows text).flatMap fun l => (chomp l).reverse ++ l.drop (chomp l).length))

/-- Prints lines with numbers. -/
def nl : Utility :=
  withOptions "nl" { letters := "p", valued := "bwsvinhflid" } 1 fun g => do
  let (text, code) ← allSources "nl" 1 g.operands
  let width := ((g.value? 'w').bind String.toNat?).getD 6
  let separator := (g.value? 's').getD "\t"
  let step := ((g.value? 'i').bind String.toNat?).getD 1
  let style := (g.value? 'b').getD "t"
  let shown (n : Nat) : String :=
    match g.value? 'n' with
    | some "ln" => padRight width (toString n)
    | some "rz" => Time.padded width n
    | _ => padLeft width (toString n)
  let (out, _) := (lines text).foldl
    (fun (out, n) l =>
      if style = "a" || (style = "t" && !l.isEmpty) then (out ++ shown n ++ separator ++ l ++ "\n", n + step)
      else (out ++ padLeft (width + separator.length) "" ++ l ++ "\n", n))
    ("", ((g.value? 'v').bind String.toNat?).getD 1)
  say out
  return code

/-- Cuts a line into pieces of a width, after a blank where there is one and `spaces` is set. `fuel` is
at least the length of the line. -/
def folded (spaces : Bool) (width : Nat) : Nat → List Char → List (List Char)
  | 0, cs => [cs]
  | fuel + 1, cs =>
    if cs.length ≤ width then [cs]
    else
      let piece := cs.take width
      let upToBlank := (piece.reverse.dropWhile fun c => c ≠ ' ' && c ≠ '\t').reverse
      let piece := if spaces && !upToBlank.isEmpty then upToBlank else piece
      piece :: folded spaces width fuel (cs.drop piece.length)

/-- Cuts long lines. -/
def fold : Utility :=
  withOptions "fold" { letters := "bs", valued := "w", long := [("width", 'w'), ("spaces", 's'), ("bytes", 'b')] } 1
    fun g => do
  let width := max 1 (((g.value? 'w').bind String.toNat?).getD 80)
  onSources "fold" 1 g.operands fun _ text =>
    say (String.ofList ((rows text).flatMap fun l =>
      (List.intersperse ['\n'] (folded (g.has 's') width l.length (chomp l))).flatten ++ l.drop (chomp l).length))

/-- A line with its tabs replaced by blanks up to the next stop; `column` is where it has come to. -/
def untabbed (stop : Nat) : Nat → List Char → List Char
  | _, [] => []
  | column, '\t' :: r =>
    let n := stop - column % stop
    List.replicate n ' ' ++ untabbed stop (column + n) r
  | column, c :: r => c :: untabbed stop (column + 1) r

/-- Replaces tabs by blanks. -/
def expandTabs : Utility :=
  withOptions "expand" { letters := "i", valued := "t", long := [("tabs", 't')] } 1 fun g => do
  let stop := max 1 (((g.value? 't').bind String.toNat?).getD 8)
  onSources "expand" 1 g.operands fun _ text => say (String.ofList ((rows text).flatMap (untabbed stop 0)))

/-! ## Ends of files -/

/-- How much of a text is wanted: a number of units from one of its ends, or all but that. -/
structure Extent where
  count : Nat := 10
  bytes : Bool := false
  /-- The count is of units that are left out at the other end. -/
  inverted : Bool := false

/-- Reads a count; `sign` marks one that is of units left out. -/
def Extent.read? (sign : Char) (bytes : Bool) (s : String) : Option Extent :=
  match s.toList with
  | c :: cs =>
    if c = sign then (sized? (String.ofList cs)).map fun n => ⟨n, bytes, true⟩
    else if c = '-' || c = '+' then (sized? (String.ofList cs)).map fun n => ⟨n, bytes, false⟩
    else (sized? s).map fun n => ⟨n, bytes, false⟩
  | [] => none

/-- The units of a text: its bytes or its lines. -/
def Extent.units (e : Extent) (text : String) : List (List Char) :=
  if e.bytes then text.toList.map fun c => [c] else rows text

/-- The start of a text. -/
def Extent.head (e : Extent) (text : String) : String :=
  let us := e.units text
  String.ofList (us.take (if e.inverted then us.length - e.count else e.count)).flatten

/-- The end of a text. A count of units left out starts with one. -/
def Extent.tail (e : Extent) (text : String) : String :=
  let us := e.units text
  String.ofList (us.drop (if e.inverted then e.count - 1 else us.length - e.count)).flatten

/-- Words in which a count right after a dash, or a plus sign, has become the value of an option. -/
def countFirst (plus : Bool) : List String → List String
  | [] => []
  | w :: ws =>
    match w.toList with
    | '-' :: c :: cs =>
      if c.isDigit then
        let (ds, letters) := (c :: cs).span Char.isDigit
        (if letters.contains 'c' then "-c" else "-n") :: String.ofList ds :: ws
      else w :: ws
    | '+' :: c :: cs => if plus && c.isDigit then "-n" :: String.ofList ('+' :: c :: cs) :: ws else w :: ws
    | _ => w :: ws

/-- Prints an end of each file, with its name if there are several. -/
def partOf (who : String) (sign : Char) (part : Extent → String → String) : Utility := fun words =>
  withOptions who
    { letters := "qvfFzs", valued := "nc",
      long := [("lines", 'n'), ("bytes", 'c'), ("quiet", 'q'), ("silent", 'q'), ("verbose", 'v'), ("follow", 'f')] }
    1 (fun g => do
      let extent? := match g.last? ['n', 'c'] with
        | some c => (g.value? c).bind (Extent.read? sign (c = 'c'))
        | none => some {}
      match extent? with
      | none =>
        let c := (g.last? ['n', 'c']).getD 'n'
        complain who ("invalid number of " ++ (if c = 'c' then "bytes" else "lines") ++ ": '" ++ (g.value? c).getD "" ++ "'")
        return 1
      | some e =>
        let names := if g.operands.isEmpty then ["-"] else g.operands
        let titled := (names.length > 1 && !g.has 'q') || g.has 'v'
        let (_, code) ← names.foldlM (fun (first, code) name => do
          let stored ← isStored
          match ← readSource name with
          | .error reason =>
            if reason = .isDirectory then complain who ("error reading '" ++ name ++ "': " ++ reason.words)
            else complain who ("cannot open '" ++ name ++ "' for reading: " ++ reason.words)
            return (first, 1)
          | .ok text =>
            let title := "==> " ++ (if name = "-" then "standard input" else name) ++ " <==\n"
            if titled then say ((if first then "" else "\n") ++ title)
            let shown := part e text
            say shown
            if name = "-" && stored && who = "head" then untake 0 (String.ofList (text.toList.drop shown.length))
            return (false, code)) (true, 0)
        return code) (countFirst (who = "tail") words)
where
  /-- What there is to read is a file. -/
  isStored : Act Bool := do
    match ← channel? 0 with
    | some (.buffer _ stored) => return stored
    | _ => return false

/-- Prints the starts of files. -/
def head : Utility := partOf "head" '-' Extent.head
/-- Prints the ends of files. -/
def tail : Utility := partOf "tail" '+' Extent.tail

/-! ## Counting -/

/-- Lines, words, bytes and the length of the longest line. -/
structure Counts where
  lines : Nat := 0
  words : Nat := 0
  bytes : Nat := 0
  longest : Nat := 0

/-- The counts of a text. -/
def Counts.of (text : String) : Counts :=
  let cs := text.toList
  let isBlank (c : Char) : Bool := c = ' ' || (9 ≤ c.toNat && c.toNat ≤ 13)
  let (n, _) := cs.foldl (fun (n, inside) c => if isBlank c then (n, false) else (if inside then n else n + 1, true)) (0, false)
  ⟨cs.count '\n', n, cs.length, (rows text).foldl (fun m l => max m (chomp l).length) 0⟩

/-- The counts of two texts together. -/
def Counts.add (a b : Counts) : Counts :=
  ⟨a.lines + b.lines, a.words + b.words, a.bytes + b.bytes, max a.longest b.longest⟩

/-- Counts lines, words and bytes. -/
def wc : Utility :=
  withOptions "wc"
    { letters := "lwcmL",
      long := [("lines", 'l'), ("words", 'w'), ("bytes", 'c'), ("chars", 'm'), ("max-line-length", 'L')] }
    1 fun g => do
  let letters := if g.options.isEmpty then ['l', 'w', 'c'] else ['l', 'w', 'm', 'c', 'L'].filter g.has
  let stdin ← channel? 0
  let names := if g.operands.isEmpty then ["-"] else g.operands
  let found ← names.mapM fun name => do
    match ← readSource name with
    | .ok text => return (name, some (Counts.of text))
    | .error e =>
      complain "wc" (name ++ ": " ++ e.words)
      return (name, if e = .isDirectory then some {} else none)
  let p ← get
  let irregular := names.any fun name =>
    if name = "-" then (match stdin with
      | some (.buffer _ true) => false
      | _ => true)
    else p.isDir name
  let total := found.foldl (fun t f => t.add (f.2.getD {})) {}
  let width :=
    if names.length = 1 && letters.length = 1 then 1
    else max (toString total.bytes).length (if irregular then 7 else 1)
  let line (c : Counts) (name : String) : String :=
    let ns := letters.map fun l =>
      if l = 'l' then c.lines else if l = 'w' then c.words else if l = 'L' then c.longest else c.bytes
    String.intercalate " " (ns.map fun n => padLeft width (toString n)) ++ (if name.isEmpty then "" else " " ++ name)
  for f in found do
    match f.2 with
    | some c => sayLine (line c (if g.operands.isEmpty then "" else f.1))
    | none => pure ()
  if names.length > 1 then sayLine (line total "total")
  return if found.any (fun f => f.2.isNone) || names.any p.isDir then 1 else 0

/-! ## Side by side -/

/-- Rows of a table whose columns may have different lengths; `n` is the greatest. -/
def rowsOf (columns : List (List String)) (n : Nat) : List (List String) :=
  (List.range n).map fun i => columns.map fun column => (column[i]?).getD ""

/-- A row with delimiters between its fields, used in turn. -/
def joinedBy (delimiters : List String) : Nat → List String → String
  | _, [] => ""
  | _, [f] => f
  | i, f :: fs => f ++ (delimiters[i % delimiters.length]?).getD "" ++ joinedBy delimiters (i + 1) fs

/-- The delimiters that a text lists. -/
def delimiterList : List Char → List String
  | '\\' :: 'n' :: r => "\n" :: delimiterList r
  | '\\' :: 't' :: r => "\t" :: delimiterList r
  | '\\' :: '\\' :: r => "\\" :: delimiterList r
  | '\\' :: '0' :: r => "" :: delimiterList r
  | c :: r => c.toString :: delimiterList r
  | [] => []

/-- Every `n`-th line from the one with number `i` on. -/
def everyNth (n i : Nat) (ls : List String) : List String :=
  (ls.zipIdx.filter fun l => l.2 % n = i).map (·.1)

/-- Joins the lines of files. -/
def paste : Utility :=
  withOptions "paste" { letters := "sz", valued := "d", long := [("serial", 's'), ("delimiters", 'd')] } 1 fun g => do
  let delimiters := delimiterList ((g.value? 'd').getD "\t").toList
  let delimiters := if delimiters.isEmpty then [""] else delimiters
  let names := if g.operands.isEmpty then ["-"] else g.operands
  let dashes := names.count "-"
  let input ← if dashes = 0 then pure [] else lines <$> takeAll 0
  let (columns, _, code) ← names.foldlM (fun (cols, i, code) name => do
    if name = "-" then
      return (cols ++ [if g.has 's' then (if i = 0 then input else []) else everyNth dashes i input], i + 1, code)
    else match ← readFile name with
      | .ok text => return (cols ++ [lines text], i, code)
      | .error e =>
        complain "paste" (name ++ ": " ++ e.words)
        return (cols, i, 1)) (([] : List (List String)), 0, 0)
  if code ≠ 0 then return code
  let table := if g.has 's' then columns else rowsOf columns (columns.foldl (fun n c => max n c.length) 0)
  say (unlines (table.map (joinedBy delimiters 0)))
  return 0

/-- Merges sorted lines: those of the first file alone, of the second alone, and of both. -/
def merged : Nat → List String → List String → List (Nat × String)
  | 0, _, _ => []
  | _, [], [] => []
  | n + 1, a :: as, [] => (0, a) :: merged n as []
  | n + 1, [], b :: bs => (1, b) :: merged n [] bs
  | n + 1, a :: as, b :: bs =>
    if a < b then (0, a) :: merged n as (b :: bs)
    else if b < a then (1, b) :: merged n (a :: as) bs
    else (2, a) :: merged n as bs

/-- Compares sorted files line by line. -/
def comm : Utility :=
  withOptions "comm" { letters := "123z" } 1 fun g => do
  match g.operands with
  | [a, b] =>
    match ← readSource a, ← readSource b with
    | .ok s, .ok t =>
      let (s, t) := (lines s, lines t)
      let tab (c : Char) : String := if g.has c then "" else "\t"
      for (k, l) in merged (s.length + t.length) s t do
        if k = 0 && !g.has '1' then sayLine l
        else if k = 1 && !g.has '2' then sayLine (tab '1' ++ l)
        else if k = 2 && !g.has '3' then sayLine (tab '1' ++ tab '2' ++ l)
      return 0
    | .error e, _ =>
      complain "comm" (a ++ ": " ++ e.words)
      return 1
    | _, .error e =>
      complain "comm" (b ++ ": " ++ e.words)
      return 1
  | _ => misuse "comm" 1 "missing operand"

end Mend.Shell
