import Mend.Posix.Glob
import Mend.Shell.Parser
import Mend.Shell.Utility.File

/-!
# Walking directories, running commands

Utilities that visit files or read words, and run commands on them.
-/

namespace Mend.Shell

/-! ## Visiting files -/

/-- What is asked of a file, or done with it. -/
inductive Visit where
  | always
  | never
  | name (glob : Posix.Glob) (fold : Bool)
  | path (glob : Posix.Glob) (fold : Bool)
  | isDir
  | isFile
  | empty
  | size (order : Ordering) (count unit : Nat)
  | mode (bits : Nat) (all : Bool)
  | newer
  | print (last : String)
  | printf (format : String)
  | delete
  | prune
  | quit
  | run (words : List String) (together : Bool)
  | not (v : Visit)
  | both (v w : Visit)
  | either (v w : Visit)
  | comma (v w : Visit)
  deriving Inhabited

namespace Visit

/-- Something is done that makes printing the path unnecessary. -/
def acts : Visit → Bool
  | .print _ => true
  | .printf _ => true
  | .delete => true
  | .run _ _ => true
  | .not v => v.acts
  | .both v w => v.acts || w.acts
  | .either v w => v.acts || w.acts
  | .comma v w => v.acts || w.acts
  | _ => false

/-- Something is removed, so that what is in a directory comes before it. -/
def deletes : Visit → Bool
  | .delete => true
  | .not v => v.deletes
  | .both v w => v.deletes || w.deletes
  | .either v w => v.deletes || w.deletes
  | .comma v w => v.deletes || w.deletes
  | _ => false

/-- The commands that are run once for all files. -/
def gathered : Visit → List (List String)
  | .run ws true => [ws]
  | .not v => v.gathered
  | .both v w => v.gathered ++ w.gathered
  | .either v w => v.gathered ++ w.gathered
  | .comma v w => v.gathered ++ w.gathered
  | _ => []

/-- A glob that a text spells. -/
def glob (s : String) : Posix.Glob := Posix.Glob.parse s.toList

/-- A number with a sign in front of it for more or less, and the size of its unit. -/
def sizeTest? (s : String) : Option Visit :=
  let (order, cs) := match s.toList with
    | '+' :: r => (Ordering.gt, r)
    | '-' :: r => (Ordering.lt, r)
    | r => (Ordering.eq, r)
  let (ds, unit) := cs.span Char.isDigit
  let unit := match unit with
    | ['c'] => 1
    | ['k'] => 1024
    | ['M'] => 1048576
    | ['w'] => 2
    | _ => 512
  (String.ofList ds).toNat?.map fun n => .size order n unit

mutual

/-- Reads alternatives. -/
def alternatives? : Nat → List String → Except String (Visit × List String)
  | 0, _ => .error ""
  | fuel + 1, ws => do
    let (v, rest) ← all? fuel ws
    match rest with
    | "-o" :: rest =>
      let (w, rest) ← alternatives? fuel rest
      return (.either v w, rest)
    | "-or" :: rest =>
      let (w, rest) ← alternatives? fuel rest
      return (.either v w, rest)
    | "," :: rest =>
      let (w, rest) ← alternatives? fuel rest
      return (.comma v w, rest)
    | rest => return (v, rest)

/-- Reads what has to hold together. -/
def all? : Nat → List String → Except String (Visit × List String)
  | 0, _ => .error ""
  | fuel + 1, ws => do
    let (v, rest) ← one? fuel ws
    let more (rest : List String) : Except String (Visit × List String) := do
      let (w, rest) ← all? fuel rest
      return (.both v w, rest)
    match rest with
    | [] => return (v, [])
    | "-a" :: rest => more rest
    | "-and" :: rest => more rest
    | w :: _ => if ["-o", "-or", ")", ","].contains w then return (v, rest) else more rest

/-- Reads one test or action. -/
def one? : Nat → List String → Except String (Visit × List String)
  | 0, _ => .error ""
  | fuel + 1, ws =>
    match ws with
    | [] => .error "expected an expression"
    | "!" :: rest => do
      let (v, rest) ← one? fuel rest
      return (.not v, rest)
    | "-not" :: rest => do
      let (v, rest) ← one? fuel rest
      return (.not v, rest)
    | "(" :: rest => do
      let (v, rest) ← alternatives? fuel rest
      match rest with
      | ")" :: rest => return (v, rest)
      | _ => .error "invalid expression; expected to find a ')' but didn't see one."
    | "-true" :: rest => .ok (.always, rest)
    | "-false" :: rest => .ok (.never, rest)
    | "-depth" :: rest => .ok (.always, rest)
    | "-xdev" :: rest => .ok (.always, rest)
    | "-print" :: rest => .ok (.print "\n", rest)
    | "-print0" :: rest => .ok (.print "\x00", rest)
    | "-delete" :: rest => .ok (.delete, rest)
    | "-prune" :: rest => .ok (.prune, rest)
    | "-quit" :: rest => .ok (.quit, rest)
    | "-empty" :: rest => .ok (.empty, rest)
    | "-name" :: s :: rest => .ok (.name (glob s) false, rest)
    | "-iname" :: s :: rest => .ok (.name (glob s) true, rest)
    | "-path" :: s :: rest => .ok (.path (glob s) false, rest)
    | "-wholename" :: s :: rest => .ok (.path (glob s) false, rest)
    | "-ipath" :: s :: rest => .ok (.path (glob s) true, rest)
    | "-type" :: s :: rest =>
      .ok (if s = "f" then .isFile else if s = "d" then .isDir else .never, rest)
    | "-size" :: s :: rest =>
      match sizeTest? s with
      | some v => .ok (v, rest)
      | none => .error ("invalid argument `" ++ s ++ "' to `-size'")
    | "-perm" :: s :: rest =>
      let all := s.toList.head? = some '-' || s.toList.head? = some '/'
      let ds := String.ofList (s.toList.dropWhile fun c => c = '-' || c = '/')
      match modeOf? false 0 ds with
      | some m => .ok (.mode m all, rest)
      | none => .error ("invalid mode `" ++ s ++ "'")
    | "-newer" :: _ :: rest => .ok (.newer, rest)
    | "-mtime" :: s :: rest => .ok (if s.toList.head? = some '+' then .never else .always, rest)
    | "-mmin" :: s :: rest => .ok (if s.toList.head? = some '+' then .never else .always, rest)
    | "-maxdepth" :: _ :: rest => .ok (.always, rest)
    | "-mindepth" :: _ :: rest => .ok (.always, rest)
    | "-printf" :: s :: rest => .ok (.printf s, rest)
    | w :: rest =>
      if w = "-exec" || w = "-ok" || w = "-execdir" then
        let words := rest.takeWhile fun w => w ≠ ";" && w ≠ "+"
        match rest.drop words.length with
        | ";" :: rest => .ok (.run words false, rest)
        | "+" :: rest =>
          if words.getLast? = some "\x7b\x7d" then .ok (.run words.dropLast true, rest)
          else .error "missing argument to `-exec'"
        | _ => .error "missing argument to `-exec'"
      else .error (if w.toList.head? = some '-' then "unknown predicate `" ++ w ++ "'" else "paths must precede expression: `" ++ w ++ "'")

end

end Visit

/-- What a visit of files has come to. -/
structure Tour where
  /-- The paths for commands that are run once. -/
  gathered : List String := []
  code : Nat := 0
  ended : Bool := false

/-- A file that is visited. -/
structure Stop where
  path : String
  depth : Nat
  /-- The path that the visit started from. -/
  start : String

/-- A text with a path in place of each pair of braces. -/
def withPath (path : String) : List Char → List Char
  | '\x7b' :: '\x7d' :: r => path.toList ++ withPath path r
  | c :: r => c :: withPath path r
  | [] => []

/-- A field of the format that files are printed by. -/
def visitField (p : Process) (s : Stop) (c : Char) : String :=
  let node := (p.node? s.path).getD .dir
  match c with
  | 'p' => s.path
  | 'f' => baseOf s.path
  | 'h' => dirOf s.path
  | 'd' => toString s.depth
  | 's' => toString (sizeOfNode node)
  | 'm' => match node with
    | .dir => "755"
    | .file _ m => String.ofList (Nat.toDigits 8 m)
  | 'P' =>
    let rest := s.path.toList.drop s.start.length
    String.ofList (if rest.head? = some '/' then rest.tail else rest)
  | 'y' => if node = .dir then "d" else "f"
  | '%' => "%"
  | c => String.ofList ['%', c]

/-- Carries out what is asked of a file, and tells whether it held and whether a directory is left
unvisited. -/
def visit (launch : Launcher) (s : Stop) : Visit → Tour → Act (Bool × Bool × Tour)
  | .not v, t => do
    let (r, prune, t) ← visit launch s v t
    return (!r, prune, t)
  | .both v w, t => do
    let (r, prune, t) ← visit launch s v t
    if !r || t.ended then return (false, prune, t)
    else
      let (r, prune', t) ← visit launch s w t
      return (r, prune || prune', t)
  | .either v w, t => do
    let (r, prune, t) ← visit launch s v t
    if r || t.ended then return (true, prune, t)
    else
      let (r, prune', t) ← visit launch s w t
      return (r, prune || prune', t)
  | .comma v w, t => do
    let (_, prune, t) ← visit launch s v t
    let (r, prune', t) ← visit launch s w t
    return (r, prune || prune', t)
  | .always, t => return (true, false, t)
  | .never, t => return (false, false, t)
  | .newer, t => return (false, false, t)
  | .name g fold, t => return (Posix.Glob.accepts fold g (baseOf s.path).toList, false, t)
  | .path g fold, t => return (Posix.Glob.accepts fold g s.path.toList, false, t)
  | .isDir, t => return ((← get).isDir s.path, false, t)
  | .isFile, t => return (!(← get).isDir s.path, false, t)
  | .empty, t => do
    let p ← get
    return (match p.node? s.path with
      | some (.file c _) => c.size = 0
      | some .dir => (namesIn p s.path).isEmpty
      | none => false, false, t)
  | .size order n unit, t => do
    let size := (((← get).node? s.path).map sizeOfNode).getD 0
    return (compare ((size + unit - 1) / unit) n = order, false, t)
  | .mode bits all, t => do
    let m := match (← get).node? s.path with
      | some (.file _ m) => m
      | _ => 0o755
    return (if all then m &&& bits = bits else m = bits, false, t)
  | .print last, t => do
    say (s.path ++ last)
    return (true, false, t)
  | .printf f, t => do
    let p ← get
    say (filled (visitField p s) (Escapes.replace ⟨true, false⟩ f).1.toList)
    return (true, false, t)
  | .delete, t => do
    let p ← get
    if s.path = "." then return (true, false, t)
    else if p.isDir s.path then
      match ← onDisk fun d => d.rmdir (p.locate s.path) with
      | .ok () => return (true, false, t)
      | .error e =>
        let _ ← refuse "find" "cannot delete" s.path e
        return (false, false, { t with code := 1 })
    else
      let code ← changing "find" "cannot delete" s.path Fs.Disk.unlink
      return (code = 0, false, { t with code := max t.code code })
  | .prune, t => return (true, true, t)
  | .quit, t => return (true, false, { t with ended := true })
  | .run _ true, t => return (true, false, { t with gathered := t.gathered ++ [s.path] })
  | .run words false, t => do
    let words := words.map fun w => String.ofList (withPath s.path w.toList)
    match ← launch words with
    | some code => return (code = 0, false, t)
    | none =>
      complain "find" (quotedPath (words.headD "") ++ ": " ++ Fs.Error.notFound.words)
      return (false, false, t)

/-- Visits a path and what is below it, between two depths; `fuel` bounds the depth. -/
def tour (launch : Launcher) (v : Visit) (least most : Nat) (first : Bool) : Nat → Stop → Tour → Act Tour
  | 0, _, t => return t
  | fuel + 1, s, t => do
    if t.ended then return t
    let here (t : Tour) : Act (Bool × Tour) := do
      if s.depth < least then return (false, t)
      else
        let (_, prune, t) ← visit launch s v t
        return (prune, t)
    let p ← get
    let below (t : Tour) : Act Tour := do
      if s.depth < most && p.isDir s.path then
        match (← get).disk.names ((← get).locate s.path) with
        | .ok ns =>
          ns.foldlM (fun t n =>
            tour launch v least most first fuel ⟨inside s.path (Text.Octets.ofText n), s.depth + 1, s.start⟩ t) t
        | .error _ => return t
      else return t
    if first then
      let (prune, t) ← here t
      if prune then return t else below t
    else return (← here (← below t)).2

/-- The number after a word. -/
def numberAfter (w : String) : List String → Option Nat
  | a :: b :: rest => if a = w then b.toNat? else numberAfter w (b :: rest)
  | _ => none

/-- Visits files and directories. -/
def find (launch : Launcher) : Utility := fun words => do
  let words := words.dropWhile fun w => w = "-L" || w = "-H" || w = "-P"
  let isPath (w : String) : Bool := !(w.toList.head? = some '-' || w = "!" || w = "(" || w = ")" || w = ",")
  let starts := words.takeWhile isPath
  let rest := words.drop starts.length
  let parsed := if rest.isEmpty then .ok (Visit.always, []) else Visit.alternatives? (4 * rest.length + 4) rest
  match parsed with
  | .error e =>
    complain "find" e
    return 1
  | .ok (_, w :: _) =>
    complain "find" ("paths must precede expression: `" ++ w ++ "'")
    return 1
  | .ok (v, []) =>
    let v := if v.acts then v else .both v (.print "\n")
    let least := (numberAfter "-mindepth" rest).getD 0
    let most := (numberAfter "-maxdepth" rest).getD 64
    let first := !(v.deletes || rest.contains "-depth")
    let t ← (if starts.isEmpty then ["."] else starts).foldlM (fun (t : Tour) w => do
      if ((← get).node? w).isNone then
        complain "find" (quotedPath w ++ ": " ++ Fs.Error.notFound.words)
        return { t with code := 1 }
      else tour launch v least most first 65 ⟨w, 0, w⟩ t) {}
    let codes ← v.gathered.mapM fun ws => do
      if t.gathered.isEmpty then return 0
      else match ← launch (ws ++ t.gathered) with
        | some code => return if code = 0 then 0 else 1
        | none =>
          complain "find" (quotedPath (ws.headD "") ++ ": " ++ Fs.Error.notFound.words)
          return 1
    return codes.foldl max t.code

/-! ## Commands from what is read -/

/-- The words of a text, with quotes and backslashes; none if a quote is not closed. -/
def quotedWords (cs : List Char) : Option (List String) :=
  go cs.length cs none
where
  /-- The word that is going on, if there is one, and those after it. -/
  go : Nat → List Char → Option (List Char) → Option (List String)
  | 0, _, word => some ((word.map fun w => String.ofList w.reverse).toList)
  | fuel + 1, cs, word =>
    match cs with
    | [] => some ((word.map fun w => String.ofList w.reverse).toList)
    | '\\' :: c :: r => go fuel r (some (c :: word.getD []))
    | c :: r =>
      if c = '\'' || c = '"' then
        let (text, rest) := r.span (· ≠ c)
        match rest with
        | _ :: rest => go fuel rest (some (text.reverse ++ word.getD []))
        | [] => none
      else if c = ' ' || c = '\t' || c = '\n' then
        (go fuel r none).map fun ws => (word.map fun w => String.ofList w.reverse).toList ++ ws
      else go fuel r (some (c :: word.getD []))

/-- A text with another in place of each of its pieces that are equal to a third. -/
def substituted (piece other : List Char) : Nat → List Char → List Char
  | 0, cs => cs
  | _, [] => []
  | fuel + 1, c :: cs =>
    if !piece.isEmpty && piece.isPrefixOf (c :: cs) then other ++ substituted piece other fuel ((c :: cs).drop piece.length)
    else c :: substituted piece other fuel cs

/-- The exit code of a utility whose commands had these. -/
def launchedCode (codes : List Nat) : Nat :=
  if codes.any (· = 127) then 127
  else if codes.any (· = 126) then 126
  else if codes.any (· = 255) then 124
  else if codes.any (· ≠ 0) then 123
  else 0

/-- Runs a command with words that are read as further arguments. -/
def xargs (launch : Launcher) : Utility :=
  withOptions "xargs"
    { letters := "0rtpxo", valued := "nIdLPsEa", attached := "ile", early := true,
      long := [("null", '0'), ("no-run-if-empty", 'r'), ("max-args", 'n'), ("replace", 'I'), ("delimiter", 'd'),
        ("max-lines", 'L'), ("max-procs", 'P'), ("arg-file", 'a')] }
    1 fun g => do
  let source : Except Fs.Error String ← match g.value? 'a' with
    | some f => readFile f
    | none => readSource "-"
  let text : String := match source with
    | .ok s => s
    | .error _ => ""
  let command := if g.operands.isEmpty then ["echo"] else g.operands
  let delimiter := if g.has '0' then some '\x00' else (g.value? 'd').bind fun d => (Escapes.replace ⟨true, false⟩ d).1.toList.head?
  let pieces (c : Char) : List String :=
    let ps := text.toList.splitOn c
    ((if ps.getLast? = some [] then ps.dropLast else ps)).map String.ofList
  let items : Option (List String) := match delimiter with
    | some c => some (pieces c)
    | none =>
      if g.has 'I' || g.has 'i' then
        some (((lines text).map fun l => String.ofList (l.toList.dropWhile isBlank)).filter fun l => !l.isEmpty)
      else if g.has 'L' then some ((lines text).filter fun l => !l.isEmpty)
      else quotedWords text.toList
  let run (words : List String) : Act Nat := do
    if g.has 't' then write 2 (String.intercalate " " words ++ "\n")
    match ← launch words with
    | some code => return code
    | none =>
      complain "xargs" (words.headD "" ++ ": " ++ Fs.Error.notFound.words)
      return 127
  match items with
  | none =>
    complain "xargs" "unmatched quote; by default quotes are special to xargs unless you use the -0 option"
    return 1
  | some items =>
    match g.value? 'I' <|> (if g.has 'i' then some "\x7b\x7d" else none) with
    | some mark =>
      let codes ← items.mapM fun item =>
        run (command.map fun w => String.ofList (substituted mark.toList item.toList (w.length + 1) w.toList))
      return launchedCode codes
    | none =>
      if items.isEmpty && g.has 'r' then return 0
      let number (c : Char) : Option Nat := ((g.value? c).bind String.toNat?).filter (0 < ·)
      let groups : List (List String) := match number 'n', number 'L' with
        | some n, _ => grouped n (items.length + 1) items
        | none, some n =>
          (grouped n (items.length + 1) items).map fun ls => (ls.map fun l => (quotedWords l.toList).getD []).flatten
        | none, none => [items]
      let groups := if items.isEmpty then [[]] else groups
      let codes ← groups.mapM fun group => run (command ++ group)
      return launchedCode codes
where
  /-- Pieces of a length. -/
  grouped (n : Nat) : Nat → List String → List (List String)
  | 0, _ => []
  | fuel + 1, ws => if ws.isEmpty then [] else ws.take n :: grouped n fuel (ws.drop n)

end Mend.Shell
