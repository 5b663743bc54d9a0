import Mend.Shell.Utility.Print

/-!
# Files

Utilities that make, move, copy, remove and list files and directories. The disk has no links, so that
to link is to copy.
-/

namespace Mend.Shell

open Fs (Disk Location Node Tree)
open Text

/-- A path between quotes. -/
def quotedPath (path : String) : String := "'" ++ path ++ "'"

/-- Complains of what could not be done with a path. -/
def refuse (who what path : String) (e : Fs.Error) : Act Nat := do
  complain who (what ++ " " ++ quotedPath path ++ ": " ++ e.words)
  return 1

/-- Carries out a change of the disk at a path; `what` says what could not be done. -/
def changing (who what path : String) (change : Disk → Location → Except Fs.Error Disk) : Act Nat := do
  let p ← get
  if path.isEmpty then refuse who what path .notFound
  else match ← onDisk fun d => change d (p.locate path) with
    | .ok () => return 0
    | .error e => refuse who what path e

/-- A path in a directory. -/
def inside (dir name : String) : String :=
  if dir.toList.getLast? = some '/' then dir ++ name else dir ++ "/" ++ name

/-! ## Making and removing -/

/-- Makes files that are not there. -/
def touch : Utility :=
  withOptions "touch"
    { letters := "camfh", valued := "drt", long := [("no-create", 'c'), ("date", 'd'), ("reference", 'r')] }
    1 fun g => do
  if g.operands.isEmpty then misuse "touch" 1 "missing file operand"
  else onEach g.operands fun w => do
    let p ← get
    if (p.node? w).isSome || (g.has 'c' && !w.isEmpty) then return 0
    else changing "touch" "cannot touch" w Disk.touch

/-- Makes directories. -/
def mkdir : Utility :=
  withOptions "mkdir" { letters := "pv", valued := "m", long := [("parents", 'p'), ("verbose", 'v'), ("mode", 'm')] } 1
    fun g => do
  if g.operands.isEmpty then misuse "mkdir" 1 "missing operand"
  else onEach g.operands fun w => do
    let p ← get
    let there := p.isDir w
    let code ← changing "mkdir" "cannot create directory" w fun d l =>
      if g.has 'p' then
        match d.mkdirs l with
        | (.ok (), d) => .ok d
        | (.error e, _) => .error e
      else d.mkdir l
    if code = 0 && g.has 'v' && !there then sayLine ("mkdir: created directory " ++ quotedPath w)
    return code

/-- Removes empty directories. -/
def rmdir : Utility :=
  withOptions "rmdir"
    { letters := "pvi", long := [("parents", 'p'), ("verbose", 'v'), ("ignore-fail-on-non-empty", 'i')] }
    1 fun g => do
  let one (w : String) : Act Nat := do
    let p ← get
    match ← onDisk fun d => d.rmdir (p.locate w) with
    | .ok () => return 0
    | .error e => if g.has 'i' && e = .notEmpty then return 0 else refuse "rmdir" "failed to remove" w e
  let above (w : String) : List String :=
    let ps := (w.toList.splitOn '/').filter fun s => !s.isEmpty
    (List.range ps.length).reverse.map fun n =>
      String.ofList (List.intercalate ['/'] (ps.take (n + 1)))
  if g.operands.isEmpty then misuse "rmdir" 1 "missing operand"
  else onEach g.operands fun w => if g.has 'p' then onEach (above w) one else one w

/-- Removes files, and directories where options ask for it. -/
def rm : Utility :=
  withOptions "rm"
    { letters := "rRfidvI",
      long := [("recursive", 'r'), ("force", 'f'), ("verbose", 'v'), ("dir", 'd'), ("interactive", 'i')] }
    1 fun g => do
  let deep := g.has 'r' || g.has 'R'
  if g.operands.isEmpty then
    if g.has 'f' then return 0 else misuse "rm" 1 "missing operand"
  else onEach g.operands fun w => do
    let p ← get
    let l := p.locate w
    let last := baseOf w
    if deep && (last = "." || last = "..") then
      complain "rm" ("refusing to remove '.' or '..' directory: skipping " ++ quotedPath w)
      return 1
    else if w.isEmpty then (if g.has 'f' then return 0 else refuse "rm" "cannot remove" w .notFound)
    else match p.disk.find l with
      | .ok (.file _ _) =>
        set { p with disk := p.disk.removeAll l }
        if g.has 'v' then sayLine ("removed " ++ quotedPath w)
        return 0
      | .ok .dir =>
        if deep then
          set { p with disk := p.disk.removeAll l }
          if g.has 'v' then sayLine ("removed directory " ++ quotedPath w)
          return 0
        else if g.has 'd' then changing "rm" "cannot remove" w Disk.rmdir
        else refuse "rm" "cannot remove" w .isDirectory
      | .error e =>
        if g.has 'f' && (e = .notFound || e = .notDirectory) then return 0 else refuse "rm" "cannot remove" w e

/-- Removes one file. -/
def unlink : Utility := fun words => do
  match words with
  | [w] => changing "unlink" "cannot unlink" w Disk.unlink
  | _ => misuse "unlink" 1 "missing operand"

/-- Cuts files, or lengthens them with zero bytes. -/
def truncate : Utility :=
  withOptions "truncate" { letters := "co", valued := "sr", long := [("size", 's'), ("no-create", 'c')] } 1 fun g => do
  match (g.value? 's').bind sized? with
  | none => misuse "truncate" 1 "you must specify either '--size' or '--reference'"
  | some n => onEach g.operands fun w => do
    let old ← readFile w
    match old, g.has 'c' with
    | .error .notFound, true => return 0
    | _, _ =>
      let cs := match old with
        | .ok s => s.toList
        | .error _ => []
      match ← writeFile w (String.ofList (cs.take n ++ List.replicate (n - cs.length) '\x00')) with
      | .ok () => return 0
      | .error e =>
        complain "truncate" ("cannot open " ++ quotedPath w ++ " for writing: " ++ e.words)
        return 1

/-- A name in which the letters X at its end, or before its last ones, are replaced by a number. -/
def numberedName (template : String) (n : Nat) : String :=
  let back := template.toList.reverse
  let tail := back.takeWhile (· ≠ 'X')
  let xs := (back.drop tail.length).takeWhile (· = 'X')
  let ds := (toString n).toList
  let filled := List.replicate (xs.length - ds.length) '0' ++ ds
  String.ofList ((back.drop (tail.length + xs.length)).reverse ++ filled ++ tail.reverse)

/-- Makes a file or a directory with a name that nothing has. -/
def mktemp : Utility :=
  withOptions "mktemp"
    { letters := "duqt", valued := "p", attached := "T", long := [("directory", 'd'), ("dry-run", 'u'), ("tmpdir", 'T')] }
    1 fun g => do
  let p ← get
  let dir := (g.value? 'p').getD ((p.value? "TMPDIR").getD "/tmp")
  let template := match g.operands.head? with
    | some t => if g.has 'p' || g.has 't' || g.has 'T' then inside dir t else t
    | none => inside dir "tmp.XXXXXXXXXX"
  let free := (List.range 1000).find? fun n => (p.node? (numberedName template (n + 1))).isNone
  let path := numberedName template (free.getD 0 + 1)
  let make (d : Disk) (l : Location) : Except Fs.Error Disk :=
    if g.has 'u' then .ok d else if g.has 'd' then d.mkdir l else d.touch l
  let kind := if g.has 'd' then "directory" else "file"
  let code ← changing "mktemp" ("failed to create " ++ kind ++ " via template") path make
  if code = 0 then sayLine path
  return code

/-! ## Permissions -/

/-- Who a mode is for, as the bits of a mode that are theirs. -/
def holders (cs : List Char) : Nat :=
  let bit (c : Char) (m : Nat) : Nat := if cs.contains c || cs.contains 'a' || cs.isEmpty then m else 0
  bit 'u' 0o700 + bit 'g' 0o070 + bit 'o' 0o007

/-- The bits that letters name, for everyone. -/
def permissions (cs : List Char) (isDir : Bool) (old : Nat) : Nat :=
  let bit (c : Char) (m : Nat) : Nat := if cs.contains c then m else 0
  let x := if cs.contains 'x' || (cs.contains 'X' && (isDir || old &&& 0o111 ≠ 0)) then 0o111 else 0
  bit 'r' 0o444 + bit 'w' 0o222 + x

/-- The mode that one clause of a symbolic mode makes of another. -/
def clauseMode? (isDir : Bool) (old : Nat) (clause : List Char) : Option Nat :=
  let who := clause.takeWhile fun c => "ugoa".toList.contains c
  match clause.drop who.length with
  | op :: letters =>
    if !letters.all "rwxXst".toList.contains then none
    else
      let mask := holders who
      let mask := if who.isEmpty then mask - (mask &&& permissions letters isDir old &&& 0o022) else mask
      let bits := permissions letters isDir old &&& mask
      if op = '+' then some (old ||| bits)
      else if op = '-' then some (old - (old &&& bits))
      else if op = '=' then some ((old - (old &&& holders who)) ||| bits)
      else none
  | [] => none

/-- The mode that a text makes of another. -/
def modeOf? (isDir : Bool) (old : Nat) (s : String) : Option Nat :=
  if s.toList.all isOctal && !s.isEmpty then some (valueOfDigits 8 s.toList)
  else (s.toList.splitOn ',').foldlM (clauseMode? isDir) old

/-- Gives files other permissions. -/
def chmod : Utility := fun words => do
  let isMode (w : String) : Bool := (modeOf? false 0 w).isSome
  let options := words.takeWhile fun w => w.toList.head? = some '-' && !isMode w
  let deep := options.any fun w => w.toList.contains 'R'
  match words.drop options.length with
  | [] => misuse "chmod" 1 "missing operand"
  | [m] => misuse "chmod" 1 ("missing operand after '" ++ m ++ "'")
  | mode :: paths =>
    if !isMode mode then misuse "chmod" 1 ("invalid mode: '" ++ mode ++ "'")
    else onEach paths fun path => do
      let p ← get
      let change (d : Disk) (l : Location) : Except Fs.Error Disk :=
        match d.find l with
        | .error e => .error e
        | .ok .dir => .ok d
        | .ok (.file _ old) => d.chmod l ((modeOf? false old mode).getD old)
      changing "chmod" "cannot access" path fun d l => do
        let d ← change d l
        if deep && p.isDir path then
          match d.locate l with
          | .ok l => (d.filesBelow l).foldlM (fun d f => change d (l ++ f.1)) d
          | .error _ => .ok d
        else .ok d

/-! ## Copying and moving -/

/-- The tree where a path leads. -/
def treeAt? (p : Process) (path : String) : Except Fs.Error Tree :=
  if path.isEmpty then .error .notFound
  else match p.disk.reach (p.locate path) with
    | .error e => .error e
    | .ok ⟨_, none⟩ => .error .notFound
    | .ok ⟨_, some t⟩ => .ok t

/-- Two paths lead to the same place. -/
def samePlace (p : Process) (a b : String) : Bool :=
  match p.disk.locate (p.locate a), p.disk.locate (p.locate b) with
  | .ok l, .ok m => l = m
  | _, _ => false

/-- A disk with a tree copied to a location; a directory that is there keeps what is in it. -/
def copyTree (t : Tree) (l : Location) (d : Disk) : Except Fs.Error Disk :=
  (t.entries []).foldlM
    (fun d (at_, n) =>
      let l := l ++ at_
      match n with
      | .dir => if d.isDir l then .ok d else d.mkdir l
      | .file content mode =>
        let new := !d.exists l
        match d.write l content with
        | .ok d => if new then d.chmod l mode else .ok d
        | .error e => .error e) d

/-- Where the last operand is a directory, the places in it; else the place itself. -/
def targets (who : String) (g : Given) (act : String → String → Act Nat) : Act Nat := do
  let p ← get
  let into (dir : String) (sources : List String) : Act Nat :=
    onEach sources fun s => act s (inside dir (baseOf s))
  match g.value? 't', g.operands with
  | some dir, sources => into dir sources
  | none, [] => misuse who 1 "missing file operand"
  | none, [a] => misuse who 1 ("missing destination file operand after " ++ quotedPath a)
  | none, operands =>
    let last := (operands.getLast?).getD ""
    match operands.dropLast with
    | [a] => if p.isDir last && !g.has 'T' then into last [a] else act a last
    | sources =>
      if p.isDir last then into last sources
      else
        complain who ("target " ++ quotedPath last ++ ": " ++
          (if (p.node? last).isSome then Fs.Error.notDirectory.words else Fs.Error.notFound.words))
        return 1

/-- The options of copying and moving. -/
def transferOptions : Known :=
  { letters := "rRafnvpiuTdPLH", valued := "tS",
    long := [("recursive", 'r'), ("archive", 'a'), ("force", 'f'), ("no-clobber", 'n'), ("verbose", 'v'),
      ("target-directory", 't'), ("no-target-directory", 'T'), ("update", 'u')] }

/-- Copies files, and directories where options ask for it. -/
def cp : Utility :=
  withOptions "cp" transferOptions 1 fun g => targets "cp" g fun source target => do
  let p ← get
  match treeAt? p source with
  | .error e => refuse "cp" "cannot stat" source e
  | .ok t =>
    if t.node = .dir && !(g.has 'r' || g.has 'R' || g.has 'a') then
      complain "cp" ("-r not specified; omitting directory " ++ quotedPath source)
      return 1
    else if samePlace p source target then
      complain "cp" (quotedPath source ++ " and " ++ quotedPath target ++ " are the same file")
      return 1
    else if g.has 'n' && (p.node? target).isSome && t.node ≠ .dir then return 0
    else if t.node = .dir && (match p.node? target with
        | some (.file _ _) => true
        | _ => false) then
      complain "cp" ("cannot overwrite non-directory " ++ quotedPath target ++ " with directory " ++ quotedPath source)
      return 1
    else
      match copyTree t (p.locate target) p.disk with
      | .ok d =>
        set { p with disk := d }
        if g.has 'v' then sayLine (quotedPath source ++ " -> " ++ quotedPath target)
        return 0
      | .error e =>
        refuse "cp" (if t.node = .dir then "cannot create directory" else "cannot create regular file") target e

/-- Moves files and directories. -/
def mv : Utility :=
  withOptions "mv" transferOptions 1 fun g => targets "mv" g fun source target => do
  let p ← get
  match treeAt? p source with
  | .error e => refuse "mv" "cannot stat" source e
  | .ok t =>
    if samePlace p source target then
      complain "mv" (quotedPath source ++ " and " ++ quotedPath target ++ " are the same file")
      return 1
    else if g.has 'n' && (p.node? target).isSome then return 0
    else match t.node, p.node? target with
      | .dir, some (.file _ _) =>
        complain "mv" ("cannot overwrite non-directory " ++ quotedPath target ++ " with directory " ++ quotedPath source)
        return 1
      | .file _ _, some .dir =>
        complain "mv" ("cannot overwrite directory " ++ quotedPath target ++ " with non-directory")
        return 1
      | _, _ =>
        let below := match p.disk.locate (p.locate source), p.disk.locate (p.locate target) with
          | .ok l, .ok m => l.isPrefixOf m
          | _, _ => false
        if below then
          complain "mv" ("cannot move " ++ quotedPath source ++ " to a subdirectory of itself, " ++ quotedPath target)
          return 1
        else match ← onDisk fun d => d.rename (p.locate source) (p.locate target) with
          | .ok () =>
            if g.has 'v' then sayLine ("renamed " ++ quotedPath source ++ " -> " ++ quotedPath target)
            return 0
          | .error e =>
            complain "mv" ("cannot move " ++ quotedPath source ++ " to " ++ quotedPath target ++ ": " ++ e.words)
            return 1

/-- Links files, which is to copy them. A relative path of a symbolic link starts where the link is. -/
def ln : Utility :=
  withOptions "ln"
    { letters := "sfnvrTbi", valued := "t", long := [("symbolic", 's'), ("force", 'f'), ("no-dereference", 'n')] }
    1 fun g => do
  let g := match g.operands with
    | [a] => { g with operands := [a, "."] }
    | _ => g
  targets "ln" g fun source target => do
    let p ← get
    let from_ := if g.has 's' && source.toList.head? ≠ some '/' then inside (dirOf target) source else source
    match treeAt? p from_ with
    | .error e =>
      if g.has 's' then return 0 else refuse "ln" "failed to access" source e
    | .ok t =>
      if (p.node? target).isSome && !g.has 'f' then
        refuse "ln" ("failed to create " ++ (if g.has 's' then "symbolic" else "hard") ++ " link") target .exists
      else match copyTree t (p.locate target) p.disk with
        | .ok d =>
          set { p with disk := d }
          return 0
        | .error e =>
          refuse "ln" ("failed to create " ++ (if g.has 's' then "symbolic" else "hard") ++ " link") target e

/-! ## Listing -/

/-- The letters of a mode. -/
def modeText (n : Node) : String :=
  let (kind, mode) := match n with
    | .dir => ('d', 0o755)
    | .file _ m => ('-', m)
  let three (m : Nat) : List Char :=
    [if m &&& 4 = 0 then '-' else 'r', if m &&& 2 = 0 then '-' else 'w', if m &&& 1 = 0 then '-' else 'x']
  String.ofList (kind :: three (mode / 64 % 8) ++ three (mode / 8 % 8) ++ three (mode % 8))

/-- The bytes of a file, or what a directory takes up. -/
def sizeOfNode : Node → Nat
  | .dir => 4096
  | .file content _ => content.size

/-- The names in a directory, in their order. -/
def namesIn (p : Process) (dir : String) : List String :=
  match p.disk.names (p.locate dir) with
  | .ok found => (found.map Octets.ofText).mergeSort fun a b => decide (a ≤ b)
  | .error _ => []

/-- A line of a listing. -/
def listedLine (g : Given) (p : Process) (path name : String) : String :=
  let node := (p.node? path).getD .dir
  let mark := match node with
    | .dir => if g.has 'F' || g.has 'p' then "/" else ""
    | .file _ m => if g.has 'F' && m &&& 0o111 ≠ 0 then "*" else ""
  if g.has 'l' then
    modeText node ++ " 1 root root " ++ toString (sizeOfNode node) ++ " " ++ dateText p.now "%b %e %H:%M".toList ++ " " ++
      name ++ mark
  else name ++ mark

/-- Names in the order that options ask for; `path` gives their paths. -/
def arranged (g : Given) (p : Process) (path : String → String) (ns : List String) : List String :=
  let size (n : String) : Nat := ((p.node? (path n)).map sizeOfNode).getD 0
  let ns := if g.has 'S' then ns.mergeSort fun a b => decide (size b ≤ size a) else ns
  if g.has 'r' then ns.reverse else ns

/-- The listing of a directory, and of those in it where options ask for it; `fuel` bounds the depth. -/
def listing (g : Given) (p : Process) (titled : Bool) : Nat → String → List String
  | 0, _ => []
  | fuel + 1, dir =>
    let hidden (n : String) : Bool := n.toList.head? = some '.'
    let ns := (namesIn p dir).filter fun n => g.has 'a' || g.has 'A' || !hidden n
    let ns := if g.has 'a' then "." :: ".." :: ns else ns
    let ns := arranged g p (inside dir) ns
    let ls := ns.map fun n => listedLine g p (inside dir n) n
    let ls := if g.has 'l' then ("total " ++ toString (4 * ns.length)) :: ls else ls
    let deeper := if g.has 'R' then
        (ns.filter fun n => n ≠ "." && n ≠ ".." && p.isDir (inside dir n)).flatMap fun n =>
          "" :: listing g p true fuel (inside dir n)
      else []
    (if titled then [dir ++ ":"] else []) ++ ls ++ deeper

/-- Lists files and what is in directories. -/
def ls : Utility :=
  withOptions "ls"
    { letters := "1aAldRrFpStcufmCxhisngoqNbQkUv", valued := "wIT", attached := "K",
      long := [("all", 'a'), ("almost-all", 'A'), ("directory", 'd'), ("recursive", 'R'), ("reverse", 'r'),
        ("classify", 'F'), ("color", 'K')] }
    2 fun g => do
  let p ← get
  let operands := if g.operands.isEmpty then ["."] else g.operands
  let sorted := operands.mergeSort fun a b => decide (a ≤ b)
  let code ← onEach sorted fun w =>
    match p.disk.find (p.locate w), w.isEmpty with
    | .ok _, false => return 0
    | .error e, _ => do
      let _ ← refuse "ls" "cannot access" w e
      return 2
    | _, true => do
      let _ ← refuse "ls" "cannot access" w .notFound
      return 2
  let found := sorted.filter fun w => (p.node? w).isSome
  let files := found.filter fun w => g.has 'd' || !p.isDir w
  let dirs := found.filter fun w => !g.has 'd' && p.isDir w
  let titled := operands.length > 1 || g.has 'R'
  let blocks := dirs.map fun d => listing g p titled 64 d
  let shown := (arranged g p id files).map fun f => listedLine g p f f
  let all := (if shown.isEmpty then [] else [shown]) ++ blocks
  let out := (List.intersperse [""] all).flatten
  say (if g.has 'm' then String.intercalate ", " out ++ (if out.isEmpty then "" else "\n") else unlines out)
  return code

/-- A format with a field for each letter after a percent sign. -/
def filled (field : Char → String) : List Char → String
  | '%' :: c :: r => field c ++ filled field r
  | c :: r => c.toString ++ filled field r
  | [] => ""

/-- Tells about files by a format. -/
def stat : Utility :=
  withOptions "stat" { letters := "Lt", valued := "cf", long := [("format", 'c'), ("printf", 'f')] } 1 fun g =>
  onEach g.operands fun w => do
    let p ← get
    match treeAt? p w with
    | .error e => refuse "stat" "cannot statx" w e
    | .ok t =>
      let n := t.node
      let field (c : Char) : String := match c with
        | 'n' => w
        | 's' => toString (sizeOfNode n)
        | 'a' => match n with
          | .dir => "755"
          | .file _ m => String.ofList (Nat.toDigits 8 m)
        | 'A' => modeText n
        | 'F' => match n with
          | .dir => "directory"
          | .file c _ => if c.size = 0 then "regular empty file" else "regular file"
        | 'U' => "root"
        | 'G' => "root"
        | 'Y' => toString p.now.seconds
        | '%' => "%"
        | c => String.ofList ['%', c]
      match g.value? 'f' with
      | some f => say (filled field (Escapes.replace ⟨true, false⟩ f).1.toList)
      | none => sayLine (filled field ((g.value? 'c').getD "  File: %n\n  Size: %s").toList)
      return 0

/-! ## Paths -/

/-- The path of a location. -/
def pathOf (l : Location) : String := "/" ++ Octets.ofText (String.intercalate "/" l)

/-- Prints the places that paths lead to. -/
def realpath (who : String) : Utility :=
  withOptions who { letters := "femnqsz", valued := "" } 1 fun g => do
  if who = "readlink" && !(g.has 'f' || g.has 'e' || g.has 'm') then return 1
  else if g.operands.isEmpty then misuse who 1 "missing operand"
  else onEach g.operands fun w => do
    let p ← get
    match p.disk.reach (p.locate w) with
    | .ok spot =>
      if spot.tree.isNone && g.has 'e' then
        complain who (w ++ ": " ++ Fs.Error.notFound.words)
        return 1
      else
        say (pathOf spot.location ++ (if g.has 'n' then "" else "\n"))
        return 0
    | .error e =>
      complain who (w ++ ": " ++ e.words)
      return 1

end Mend.Shell
