import Mend.Posix.Bracket
import Mend.Shell.Syntax

/-!
# Reading scripts

A reader takes the bytes that are left and gives what it read and the rest. Every call between readers
costs one unit of fuel, and a script needs only so many for each of its bytes, so that reading never
runs out of it. A script is read line by line (`line?`), because what stands before a mistake is run.
-/

namespace Mend.Shell

/-! ## Bytes -/

/-- A space or a tab. -/
def isBlank (c : Char) : Bool := c = ' ' || c = '\t'

/-- A byte that ends a word. -/
def isMeta (c : Char) : Bool := isBlank c || c = '\n' || ";&|<>()".toList.contains c

/-- A byte of a variable's name. -/
def isNameChar (c : Char) : Bool := c.isAlphanum || c = '_'

/-- Skips blanks, joined lines and comments. -/
def skipBlanks : List Char → List Char
  | '\\' :: '\n' :: cs => skipBlanks cs
  | '#' :: cs => cs.dropWhile (· ≠ '\n')
  | c :: cs => if isBlank c then skipBlanks cs else c :: cs
  | [] => []

/-- Skips what may stand before a statement: blanks, comments and ends of lines. -/
def skipLines : List Char → List Char
  | '\\' :: '\n' :: cs => skipLines cs
  | '#' :: cs => skipComment cs
  | c :: cs => if isBlank c || c = '\n' then skipLines cs else c :: cs
  | [] => []
where
  /-- Skips the rest of a comment. -/
  skipComment : List Char → List Char
  | '\n' :: cs => skipLines cs
  | _ :: cs => skipComment cs
  | [] => []

/-- The rest after a reserved word. -/
def reserved? (word : String) (cs : List Char) : Option (List Char) :=
  let w := word.toList
  if w.isPrefixOf cs then
    match cs.drop w.length with
    | [] => some []
    | c :: r => if isMeta c then some (c :: r) else none
  else none

/-- The words that end a list of statements. -/
def closers : List String := ["then", "else", "elif", "fi", "do", "done", "esac", "\x7d"]

/-- No statement begins here. -/
def atEnd (cs : List Char) : Bool :=
  match cs with
  | [] => true
  | ')' :: _ => true
  | ';' :: ';' :: _ => true
  | _ => closers.any fun w => (reserved? w cs).isSome

/-- A special parameter of one byte. -/
def isSpecial (c : Char) : Bool := "?$#@*!-".toList.contains c

/-- The name of a variable after a dollar sign. -/
def name? (cs : List Char) : Option (String × List Char) :=
  match cs with
  | c :: r =>
    if isSpecial c || c.isDigit then some (c.toString, r)
    else
      let (name, rest) := (c :: r).span isNameChar
      if name.isEmpty then none else some (String.ofList name, rest)
  | [] => none

/-- The name of a variable between braces, where a number may have several digits. -/
def bracedName? (cs : List Char) : Option (String × List Char) :=
  match cs with
  | c :: _ =>
    if c.isDigit then
      let (ds, rest) := cs.span Char.isDigit
      some (String.ofList ds, rest)
    else name? cs
  | [] => none

/-- The name of a variable that is set, whether its value is added to, and the rest. -/
def settingName? (d : Dialect) (cs : List Char) : Option (String × Bool × List Char) :=
  let (name, rest) := cs.span isNameChar
  match name, rest with
  | c :: _, '=' :: r => if c.isDigit then none else some (String.ofList name, false, r)
  | c :: _, '+' :: '=' :: r =>
    if c.isDigit || d = .plain then none else some (String.ofList name, true, r)
  | _, _ => none

/-- The text between single quotes. -/
def untilQuote (cs : List Char) : Option (List Char × List Char) :=
  let (text, rest) := cs.span (· ≠ '\'')
  match rest with
  | _ :: r => some (text, r)
  | [] => none

/-- A byte in front of a word, joined with text of its kind. -/
def consByte (c : Char) (quoted : Bool) : Word → Word
  | .text cs q :: w => if q = quoted then .text (c :: cs) q :: w else .text [c] quoted :: .text cs q :: w
  | w => .text [c] quoted :: w

/-- Quoted text in front of a word. -/
def consQuoted (text : List Char) (w : Word) : Word := .text text true :: w

/-- The bytes of a word as they are written, if it is only text, and whether any are quoted. -/
def literal? : Word → Option (List Char × Bool)
  | [] => some ([], false)
  | .text cs q :: w => (literal? w).map fun (ds, p) => (cs ++ ds, q || p)
  | _ :: _ => none

/-! ## Quoting -/

/-- The script between backquotes, with its backslashes taken off, and the rest. -/
def backquoted? (quoted : Bool) : List Char → Option (List Char × List Char)
  | [] => none
  | '\x60' :: r => some ([], r)
  | '\\' :: c :: r =>
    (backquoted? quoted r).map fun (cs, rest) =>
      (if c = '$' || c = '\\' || c = '\x60' || (quoted && c = '"') then c :: cs else '\\' :: c :: cs, rest)
  | c :: r => (backquoted? quoted r).map fun (cs, rest) => (c :: cs, rest)

/-- The value of digits of a base. -/
def valueOfDigits (base : Nat) (cs : List Char) : Nat :=
  cs.foldl (fun n c => base * n + (if c.isDigit then c.toNat - 48 else c.toLower.toNat - 87)) 0

/-- A digit of base eight. -/
def isOctal (c : Char) : Bool := '0' ≤ c && c ≤ '7'

/-- A digit of base sixteen. -/
def isHexadecimal (c : Char) : Bool := c.isDigit || ('a' ≤ c && c ≤ 'f') || ('A' ≤ c && c ≤ 'F')

/-- The byte that a letter after a backslash stands for. -/
def control? (c : Char) : Option Char :=
  [('n', '\n'), ('t', '\t'), ('r', '\r'), ('\\', '\\'), ('a', '\x07'), ('b', '\x08'), ('f', '\x0c'),
    ('v', '\x0b')].lookup c

/-- Reads text with escapes up to a single quote, past bytes that belong to an escape already. -/
def escapedText? : Nat → List Char → Option (List Char × List Char)
  | _, [] => none
  | past + 1, _ :: r => escapedText? past r
  | 0, '\'' :: r => some ([], r)
  | 0, '\\' :: c :: r =>
    let add (c : Char) (more : Option (List Char × List Char)) : Option (List Char × List Char) :=
      more.map fun (cs, rest) => (c :: cs, rest)
    if c = 'x' then
      let ds := (r.take 2).takeWhile isHexadecimal
      add (Char.ofNat (valueOfDigits 16 ds)) (escapedText? ds.length r)
    else if isOctal c then
      let ds := ((c :: r).take 3).takeWhile isOctal
      add (Char.ofNat (valueOfDigits 8 ds % 256)) (escapedText? (ds.length - 1) r)
    else if c = 'e' || c = 'E' then add '\x1b' (escapedText? 0 r)
    else if c = '\'' || c = '"' || c = '?' then add c (escapedText? 0 r)
    else match control? c with
      | some k => add k (escapedText? 0 r)
      | none => add '\\' (add c (escapedText? 0 r))
  | 0, c :: r => (escapedText? 0 r).map fun (cs, rest) => (c :: cs, rest)

/-! ## Documents in scripts -/

/-- The lines of a document up to its delimiter, and the rest after that line. -/
def documentLines (delimiter : List Char) (stripTabs : Bool) : Nat → List Char → List Char × List Char
  | 0, cs => ([], cs)
  | fuel + 1, cs =>
    if cs.isEmpty then ([], [])
    else
      let (line, rest) := cs.span (· ≠ '\n')
      let line := if stripTabs then line.dropWhile (· = '\t') else line
      if line = delimiter then ([], rest.tail)
      else
        let (more, after) := documentLines delimiter stripTabs fuel rest.tail
        (line ++ (if rest.isEmpty then [] else '\n' :: more), after)

/-- Takes a document out of what follows the line that announces it: its text, and the rest. -/
def takeDocument (delimiter : List Char) (stripTabs : Bool) (cs : List Char) : List Char × List Char :=
  let (line, rest) := cs.span (· ≠ '\n')
  let (text, after) := documentLines delimiter stripTabs (rest.length + 1) rest.tail
  (text, if rest.isEmpty then line else line ++ '\n' :: after)

/-! ## Statements -/

/-- What stands behind the opening of a variable between braces, up to its operator. -/
inductive Opening where
  | plain (name : String)
  | length (name : String)
  | indirect (name : String)

/-- Reads the start of what stands between braces. -/
def opening? (d : Dialect) (cs : List Char) : Option (Opening × List Char) :=
  match cs with
  | '#' :: '\x7d' :: r => some (.plain "#", '\x7d' :: r)
  | '#' :: r =>
    match bracedName? r with
    | some (name, '\x7d' :: rest) => some (.length name, '\x7d' :: rest)
    | _ => some (.plain "#", r)
  | '!' :: r =>
    match d, bracedName? r with
    | .rich, some (name, rest) => some (.indirect name, rest)
    | _, _ => some (.plain "!", r)
  | _ => (bracedName? cs).map fun (name, rest) => (.plain name, rest)

/-- The reading of a command that only has settings, words and redirections. -/
structure Simple where
  settings : List Setting := []
  words : List Word := []
  redirects : List Redirect := []

/-- The command that was read. -/
def Simple.statement (s : Simple) : Statement := .simple s.settings s.words s.redirects

/-- The name of a function that is defined here, and the rest after the empty brackets. -/
def functionName? (d : Dialect) (cs : List Char) : Option (String × List Char) :=
  let named := match d, reserved? "function" cs with
    | .rich, some r => (skipBlanks r, true)
    | _, _ => (cs, false)
  let (name, r) := named.1.span fun c => !isMeta c && !"$'\"=\\\x60".toList.contains c
  if name.isEmpty then none
  else match skipBlanks r with
    | '(' :: r =>
      match skipBlanks r with
      | ')' :: rest => some (String.ofList name, rest)
      | _ => none
    | rest => if named.2 then some (String.ofList name, rest) else none

section

variable (d : Dialect)

mutual

/-- Reads what follows a dollar sign. -/
def dollar? (fuel : Nat) (quoted : Bool) (cs : List Char) : Option (Part × List Char) :=
  match fuel with
  | 0 => none
  | fuel + 1 =>
    match cs with
    | '(' :: '(' :: r =>
      match expression? fuel 0 r with
      | some (w, rest) => some (.number w quoted, rest)
      | none => substituted? fuel quoted ('(' :: r)
    | '(' :: r => substituted? fuel quoted r
    | '\x7b' :: r => do
      let (o, r) ← opening? d r
      match o with
      | .length name => some (.parameter name .length quoted, r.tail)
      | .indirect name =>
        match r with
        | '\x7d' :: rest => some (.parameter name .indirect quoted, rest)
        | _ => none
      | .plain name => do
        let (use, rest) ← use? fuel quoted r
        some (.parameter name use quoted, rest)
    | r =>
      match name? r with
      | some (name, rest) => some (.parameter name .value quoted, rest)
      | none =>
        match d, quoted, r with
        | .rich, false, '\'' :: r => (escapedText? 0 r).map fun (text, rest) => (.text text true, rest)
        | _, _, _ => some (.text ['$'] quoted, r)

/-- Reads a script up to its closing bracket. -/
def substituted? (fuel : Nat) (quoted : Bool) (cs : List Char) : Option (Part × List Char) :=
  match fuel with
  | 0 => none
  | fuel + 1 => do
    let (script, rest) ← list? fuel true cs
    match rest with
    | ')' :: rest => some (.output script quoted, rest)
    | _ => none

/-- Reads the operator after a variable's name and all up to the closing brace. -/
def use? (fuel : Nat) (quoted : Bool) (cs : List Char) : Option (Use × List Char) :=
  match fuel with
  | 0 => none
  | fuel + 1 =>
    let argument (r : List Char) : Option (Word × List Char) :=
      if quoted then quoted? fuel '\x7d' r else word? fuel true r
    let conditional (orEmpty : Bool) (r : List Char) : Option (Use × List Char) :=
      match r with
      | '-' :: r => (argument r).map fun (w, rest) => (.orElse orEmpty w, rest)
      | '=' :: r => (argument r).map fun (w, rest) => (.orSet orEmpty w, rest)
      | '?' :: r => (argument r).map fun (w, rest) => (.orFail orEmpty w, rest)
      | '+' :: r => (argument r).map fun (w, rest) => (.instead orEmpty w, rest)
      | _ => none
    let pattern (atEnd longest : Bool) (r : List Char) : Option (Use × List Char) :=
      (word? fuel true r).map fun (w, rest) => (.cut atEnd longest w, rest)
    match cs with
    | '\x7d' :: rest => some (.value, rest)
    | '#' :: '#' :: r => pattern false true r
    | '#' :: r => pattern false false r
    | '%' :: '%' :: r => pattern true true r
    | '%' :: r => pattern true false r
    | ':' :: c :: r =>
      if "-=?+".toList.contains c then conditional true (c :: r)
      else if d = .plain then none
      else do
        let (start, r, more) ← bound? fuel (c :: r)
        if more then
          let (count, rest, _) ← bound? fuel r
          some (.slice start (some count), rest)
        else some (.slice start none, r)
    | '/' :: r => if d = .plain then none else replacement? fuel r
    | ['^', '\x7d'] => if d = .plain then none else some (.recase true false, [])
    | '^' :: '^' :: '\x7d' :: r => if d = .plain then none else some (.recase true true, r)
    | '^' :: '\x7d' :: r => if d = .plain then none else some (.recase true false, r)
    | ',' :: ',' :: '\x7d' :: r => if d = .plain then none else some (.recase false true, r)
    | ',' :: '\x7d' :: r => if d = .plain then none else some (.recase false false, r)
    | r => conditional false r

/-- Reads a bound of a slice up to a colon or the closing brace, and tells whether another follows. -/
def bound? (fuel : Nat) (cs : List Char) : Option (Word × List Char × Bool) :=
  match fuel with
  | 0 => none
  | fuel + 1 =>
    match cs with
    | [] => none
    | '\x7d' :: r => some ([], r, false)
    | ':' :: r => some ([], r, true)
    | '$' :: r => do
      let (p, r) ← dollar? fuel true r
      let (w, rest, more) ← bound? fuel r
      some (p :: w, rest, more)
    | c :: r => do
      let (w, rest, more) ← bound? fuel r
      some (consByte c true w, rest, more)

/-- Reads a pattern and what its matches are replaced by. -/
def replacement? (fuel : Nat) (cs : List Char) : Option (Use × List Char) :=
  match fuel with
  | 0 => none
  | fuel + 1 => do
    let (place, r) := match cs with
      | '/' :: r => (Replaced.all, r)
      | '#' :: r => (Replaced.atStart, r)
      | '%' :: r => (Replaced.atEnd, r)
      | r => (Replaced.first, r)
    let (p, r) ← slashed? fuel r
    match r with
    | '/' :: r =>
      let (w, rest) ← word? fuel true r
      some (.replace place p w, rest)
    | '\x7d' :: rest => some (.replace place p [], rest)
    | _ => none

/-- Reads a pattern up to a slash or a closing brace. -/
def slashed? (fuel : Nat) (cs : List Char) : Option (Word × List Char) :=
  match fuel with
  | 0 => none
  | fuel + 1 =>
    match cs with
    | [] => none
    | '/' :: _ => some ([], cs)
    | '\x7d' :: _ => some ([], cs)
    | '\\' :: c :: r => (slashed? fuel r).map fun (w, rest) => (consByte c true w, rest)
    | '\'' :: r => do
      let (text, r) ← untilQuote r
      let (w, rest) ← slashed? fuel r
      some (consQuoted text w, rest)
    | '"' :: r => do
      let (inner, r) ← quoted? fuel '"' r
      let (w, rest) ← slashed? fuel r
      some (inner ++ w, rest)
    | '$' :: r => do
      let (p, r) ← dollar? fuel false r
      let (w, rest) ← slashed? fuel r
      some (p :: w, rest)
    | c :: r => (slashed? fuel r).map fun (w, rest) => (consByte c false w, rest)

/-- Reads an arithmetic expression up to its two closing brackets; `depth` brackets are open in it. -/
def expression? (fuel depth : Nat) (cs : List Char) : Option (Word × List Char) :=
  match fuel with
  | 0 => none
  | fuel + 1 =>
    let add (c : Char) (more : Option (Word × List Char)) : Option (Word × List Char) :=
      more.map fun (w, rest) => (consByte c true w, rest)
    match cs with
    | [] => none
    | ')' :: r =>
      match depth, r with
      | 0, ')' :: rest => some ([], rest)
      | 0, _ => none
      | n + 1, _ => add ')' (expression? fuel n r)
    | '(' :: r => add '(' (expression? fuel (depth + 1) r)
    | '\\' :: '\n' :: r => expression? fuel depth r
    | '"' :: r => expression? fuel depth r
    | '$' :: r => do
      let (p, r) ← dollar? fuel true r
      let (w, rest) ← expression? fuel depth r
      some (p :: w, rest)
    | '\x60' :: r => do
      let (p, r) ← backquote? fuel true r
      let (w, rest) ← expression? fuel depth r
      some (p :: w, rest)
    | c :: r => add c (expression? fuel depth r)

/-- Reads a script up to a backquote. -/
def backquote? (fuel : Nat) (quoted : Bool) (cs : List Char) : Option (Part × List Char) :=
  match fuel with
  | 0 => none
  | fuel + 1 => do
    let (inner, rest) ← backquoted? quoted cs
    match ← list? fuel true inner with
    | (script, []) => some (.output script quoted, rest)
    | _ => none

/-- Reads up to the closing double quote, or up to a closing brace. -/
def quoted? (fuel : Nat) (close : Char) (cs : List Char) : Option (Word × List Char) :=
  match fuel with
  | 0 => none
  | fuel + 1 =>
    match cs with
    | [] => none
    | '\\' :: '\n' :: r => quoted? fuel close r
    | '\\' :: c :: r => do
      let (w, rest) ← quoted? fuel close r
      if "$\"\\\x60".toList.contains c || c = close then some (consByte c true w, rest)
      else some (consByte '\\' true (consByte c true w), rest)
    | '$' :: r => do
      let (p, r) ← dollar? fuel true r
      let (w, rest) ← quoted? fuel close r
      some (p :: w, rest)
    | '\x60' :: r => do
      let (p, r) ← backquote? fuel true r
      let (w, rest) ← quoted? fuel close r
      some (p :: w, rest)
    | c :: r =>
      if c = close then some ([], r)
      else if c = '"' then do
        let (inner, r) ← quoted? fuel '"' r
        let (w, rest) ← quoted? fuel close r
        some (inner ++ w, rest)
      else do
        let (w, rest) ← quoted? fuel close r
        some (consByte c true w, rest)

/-- Reads the text of a document, in which only variables and scripts are replaced. -/
def document? (fuel : Nat) (cs : List Char) : Option Word :=
  match fuel with
  | 0 => none
  | fuel + 1 =>
    match cs with
    | [] => some []
    | '\\' :: '\n' :: r => document? fuel r
    | '\\' :: c :: r => do
      let w ← document? fuel r
      if "$\\\x60".toList.contains c then some (consByte c true w)
      else some (consByte '\\' true (consByte c true w))
    | '$' :: r => do
      let (p, r) ← dollar? fuel true r
      some (p :: (← document? fuel r))
    | '\x60' :: r => do
      let (p, r) ← backquote? fuel true r
      some (p :: (← document? fuel r))
    | c :: r => do some (consByte c true (← document? fuel r))

/-- Reads the rest of a word, or what stands between braces. -/
def word? (fuel : Nat) (braced : Bool) (cs : List Char) : Option (Word × List Char) :=
  match fuel with
  | 0 => none
  | fuel + 1 =>
    match cs with
    | [] => if braced then none else some ([], [])
    | '\\' :: '\n' :: r => word? fuel braced r
    | '\\' :: c :: r => do
      let (w, rest) ← word? fuel braced r
      some (consByte c true w, rest)
    | '\'' :: r => do
      let (text, r) ← untilQuote r
      let (w, rest) ← word? fuel braced r
      some (consQuoted text w, rest)
    | '"' :: r => do
      let (inner, r) ← quoted? fuel '"' r
      let (w, rest) ← word? fuel braced r
      some (if inner.isEmpty then consQuoted [] w else inner ++ w, rest)
    | '$' :: r => do
      let (p, r) ← dollar? fuel false r
      let (w, rest) ← word? fuel braced r
      some (p :: w, rest)
    | '\x60' :: r => do
      let (p, r) ← backquote? fuel false r
      let (w, rest) ← word? fuel braced r
      some (p :: w, rest)
    | c :: r =>
      if braced && c = '\x7d' then some ([], r)
      else if !braced && isMeta c then some ([], c :: r)
      else do
        let (w, rest) ← word? fuel braced r
        some (consByte c false w, rest)

/-- Reads a word after blanks; there has to be one. -/
def someWord? (fuel : Nat) (cs : List Char) : Option (Word × List Char) :=
  match fuel with
  | 0 => none
  | fuel + 1 =>
    match skipBlanks cs with
    | [] => none
    | c :: r => if isMeta c then none else word? fuel false (c :: r)

/-- Reads a redirection, if there is one. -/
def redirect? (fuel : Nat) (cs : List Char) : Option (Redirect × List Char) :=
  match fuel with
  | 0 => none
  | fuel + 1 =>
    let (digits, r) := cs.span Char.isDigit
    let stream := (String.ofList digits).toNat?
    let output (stream : Nat) (append clobber : Bool) (r : List Char) : Option (Redirect × List Char) :=
      (someWord? fuel r).map fun (w, rest) => (.output stream w append clobber, rest)
    let document (stripTabs : Bool) (r : List Char) : Option (Redirect × List Char) := do
      let (w, r) ← someWord? fuel r
      let (delimiter, quoted) ← literal? w
      let (text, rest) := takeDocument delimiter stripTabs r
      if quoted then some (.document (stream.getD 0) [.text text true], rest)
      else some (.document (stream.getD 0) (← document? fuel text), rest)
    match r with
    | '<' :: '<' :: '<' :: r =>
      if d = .plain then none
      else (someWord? fuel r).map fun (w, rest) =>
        (.document (stream.getD 0) (w ++ [.text ['\n'] true]), rest)
    | '<' :: '<' :: '-' :: r => document true r
    | '<' :: '<' :: r => document false r
    | '<' :: '&' :: r => (someWord? fuel r).map fun (w, rest) => (.copy (stream.getD 0) w, rest)
    | '<' :: '>' :: r => (someWord? fuel r).map fun (w, rest) => (.input (stream.getD 0) w, rest)
    | '<' :: r => (someWord? fuel r).map fun (w, rest) => (.input (stream.getD 0) w, rest)
    | '>' :: '>' :: r => output (stream.getD 1) true true r
    | '>' :: '&' :: r => (someWord? fuel r).map fun (w, rest) => (.copy (stream.getD 1) w, rest)
    | '>' :: '|' :: r => output (stream.getD 1) false true r
    | '>' :: r => output (stream.getD 1) false false r
    | '&' :: '>' :: '>' :: r =>
      if d = .plain || !digits.isEmpty then none
      else (someWord? fuel r).map fun (w, rest) => (.outputs w true, rest)
    | '&' :: '>' :: r =>
      if d = .plain || !digits.isEmpty then none
      else (someWord? fuel r).map fun (w, rest) => (.outputs w false, rest)
    | _ => none

/-- Reads redirections. -/
def redirects? (fuel : Nat) (cs : List Char) : Option (List Redirect × List Char) :=
  match fuel with
  | 0 => none
  | fuel + 1 =>
    match redirect? fuel (skipBlanks cs) with
    | none => some ([], skipBlanks cs)
    | some (r, rest) => do
      let (rs, rest) ← redirects? fuel rest
      some (r :: rs, rest)

/-- Reads the settings, words and redirections of a command; `early` as long as there is no word. -/
def simple? (fuel : Nat) (early : Bool) (cs : List Char) : Option (Simple × List Char) :=
  match fuel with
  | 0 => none
  | fuel + 1 =>
    let cs := skipBlanks cs
    match redirect? fuel cs with
    | some (r, rest) => do
      let (s, rest) ← simple? fuel early rest
      some ({ s with redirects := r :: s.redirects }, rest)
    | none =>
      match cs with
      | [] => some ({}, [])
      | c :: _ =>
        if isMeta c then some ({}, cs)
        else match early, settingName? d cs with
          | true, some (name, append, r) => do
            let (w, r) ← word? fuel false r
            let (s, rest) ← simple? fuel true r
            some ({ s with settings := .mk name append w :: s.settings }, rest)
          | _, _ => do
            let (w, r) ← word? fuel false cs
            let (s, rest) ← simple? fuel false r
            some ({ s with words := w :: s.words }, rest)

/-- Reads words up to the end of a line or a semicolon. -/
def words? (fuel : Nat) (cs : List Char) : Option (List Word × List Char) :=
  match fuel with
  | 0 => none
  | fuel + 1 =>
    match skipBlanks cs with
    | [] => some ([], [])
    | c :: r =>
      if isMeta c then some ([], c :: r)
      else do
        let (w, r) ← word? fuel false (c :: r)
        let (ws, rest) ← words? fuel r
        some (w :: ws, rest)

/-- Reads the branches that follow a failed test, up to the end of the choice. -/
def otherwise? (fuel : Nat) (cs : List Char) : Option (Script × List Char) :=
  match fuel with
  | 0 => none
  | fuel + 1 =>
    match reserved? "fi" cs with
    | some r => some ([], r)
    | none =>
      match reserved? "elif" cs with
      | some r => do
        let (s, rest) ← choice? fuel r
        some ([s], rest)
      | none => do
        let r ← reserved? "else" cs
        let (no, r) ← list? fuel false r
        some (no, ← reserved? "fi" r)

/-- Reads a choice after its first word. -/
def choice? (fuel : Nat) (cs : List Char) : Option (Statement × List Char) :=
  match fuel with
  | 0 => none
  | fuel + 1 => do
    let (test, r) ← list? fuel false cs
    let (yes, r) ← list? fuel false (← reserved? "then" r)
    let (no, rest) ← otherwise? fuel r
    some (.choose test yes no, rest)

/-- Reads the body of a loop. -/
def body? (fuel : Nat) (cs : List Char) : Option (Script × List Char) :=
  match fuel with
  | 0 => none
  | fuel + 1 => do
    let (body, r) ← list? fuel false (← reserved? "do" (skipLines cs))
    some (body, ← reserved? "done" r)

/-- Reads a loop over words after its first word. -/
def each? (fuel : Nat) (cs : List Char) : Option (Statement × List Char) :=
  match fuel with
  | 0 => none
  | fuel + 1 =>
    match d, skipBlanks cs with
    | .rich, '(' :: '(' :: r => do
      let (start, r) ← clause? fuel r
      let (test, r) ← clause? fuel r
      let (step, r) ← expression? fuel 0 r
      let r := match skipLines r with
        | ';' :: r => r
        | r => r
      let (body, rest) ← body? fuel r
      some (.count start test step body, rest)
    | _, r => do
      let (name, r) ← name? r
      match reserved? "in" (skipLines r) with
      | some r => do
        let (words, r) ← words? fuel r
        match r with
        | ';' :: r => do
          let (body, rest) ← body? fuel r
          some (.each name (some words) body, rest)
        | '\n' :: r => do
          let (body, rest) ← body? fuel r
          some (.each name (some words) body, rest)
        | _ => none
      | none => do
        let r := match skipBlanks r with
          | ';' :: r => r
          | r => r
        let (body, rest) ← body? fuel r
        some (.each name none body, rest)

/-- Reads an expression up to a semicolon. -/
def clause? (fuel : Nat) (cs : List Char) : Option (Word × List Char) :=
  match fuel with
  | 0 => none
  | fuel + 1 =>
    match cs with
    | [] => none
    | ';' :: r => some ([], r)
    | '$' :: r => do
      let (p, r) ← dollar? fuel true r
      let (w, rest) ← clause? fuel r
      some (p :: w, rest)
    | c :: r => do
      let (w, rest) ← clause? fuel r
      some (consByte c true w, rest)

/-- Reads the patterns of a branch and the bracket after them. -/
def patterns? (fuel : Nat) (cs : List Char) : Option (List Word × List Char) :=
  match fuel with
  | 0 => none
  | fuel + 1 => do
    let (w, r) ← someWord? fuel cs
    match skipBlanks r with
    | '|' :: r => do
      let (ws, rest) ← patterns? fuel r
      some (w :: ws, rest)
    | ')' :: rest => some ([w], rest)
    | _ => none

/-- Reads the branches of a selection. -/
def branches? (fuel : Nat) (cs : List Char) : Option (List Branch × List Char) :=
  match fuel with
  | 0 => none
  | fuel + 1 =>
    let cs := skipLines cs
    match reserved? "esac" cs with
    | some r => some ([], r)
    | none => do
      let cs := match cs with
        | '(' :: r => r
        | r => r
      let (ps, r) ← patterns? fuel cs
      let (body, r) ← list? fuel true r
      match r with
      | ';' :: ';' :: r => do
        let (bs, rest) ← branches? fuel r
        some (.mk ps body :: bs, rest)
      | r => do some ([.mk ps body], ← reserved? "esac" r)

/-- Reads a condition between double brackets; `tight` if it may not be a disjunction. -/
def condition? (fuel : Nat) (tight : Bool) (cs : List Char) : Option (Condition × List Char) :=
  match fuel with
  | 0 => none
  | fuel + 1 => do
    let (c, r) ← if tight then primary? fuel cs else condition? fuel true cs
    match tight, skipLines r with
    | true, '&' :: '&' :: r =>
      let (e, rest) ← condition? fuel true r
      some (.both c e, rest)
    | false, '|' :: '|' :: r =>
      let (e, rest) ← condition? fuel false r
      some (.either c e, rest)
    | _, r => some (c, r)

/-- Reads one test of a condition. -/
def primary? (fuel : Nat) (cs : List Char) : Option (Condition × List Char) :=
  match fuel with
  | 0 => none
  | fuel + 1 =>
    match skipLines cs with
    | '!' :: ' ' :: r => (primary? fuel r).map fun (c, rest) => (.not c, rest)
    | '(' :: r => do
      let (c, r) ← condition? fuel false r
      match skipLines r with
      | ')' :: rest => some (c, rest)
      | _ => none
    | r => do
      let (a, r) ← word? fuel false r
      let r := skipLines r
      match literal? a with
      | some (['-', letter], false) =>
        if (reserved? "]]" r).isSome then some (.word a, r)
        else do
          let (w, rest) ← word? fuel false r
          some (.unary (String.ofList ['-', letter]) w, rest)
      | _ =>
        match r with
        | '<' :: r => do
          let (b, rest) ← word? fuel false (skipLines r)
          some (.binary "<" a b, rest)
        | '>' :: r => do
          let (b, rest) ← word? fuel false (skipLines r)
          some (.binary ">" a b, rest)
        | _ =>
          let (op, after) := r.span fun c => !isMeta c
          let op := String.ofList op
          if ["=", "==", "!=", "=~", "-eq", "-ne", "-lt", "-le", "-gt", "-ge", "-nt", "-ot"].contains op then do
            let (b, rest) ← if op = "=~" then expressionWord? fuel (skipLines after)
              else word? fuel false (skipLines after)
            some (.binary op a b, rest)
          else some (.word a, r)

/-- Reads a regular expression, which may hold brackets and bars, up to a blank. -/
def expressionWord? (fuel : Nat) (cs : List Char) : Option (Word × List Char) :=
  match fuel with
  | 0 => none
  | fuel + 1 =>
    match cs with
    | [] => some ([], [])
    | c :: r =>
      if Posix.isSpace c then some ([], c :: r)
      else if c = '(' || c = ')' || c = '|' || c = '<' || c = '>' || c = ';' || c = '&' then do
        let (w, rest) ← expressionWord? fuel r
        some (consByte c false w, rest)
      else if c = '\\' then
        match r with
        | e :: r => do
          let (w, rest) ← expressionWord? fuel r
          some (consByte '\\' false (consByte e false w), rest)
        | [] => none
      else do
        let (w, r) ← word? fuel false (c :: r)
        let (more, rest) ← expressionWord? fuel r
        some (w ++ more, rest)

/-- Reads a command that is more than words, if one begins here. -/
def compound? (fuel : Nat) (cs : List Char) : Option (Option (Statement × List Char)) :=
  match fuel with
  | 0 => none
  | fuel + 1 =>
    match cs with
    | '(' :: r =>
      let arithmetic := match d, r with
        | .rich, '(' :: r => expression? fuel 0 r
        | _, _ => none
      match arithmetic with
      | some (w, rest) => some (some (.compute w, rest))
      | none => do
        let (body, r) ← list? fuel false r
        match r with
        | ')' :: rest => some (some (.subshell body, rest))
        | _ => none
    | _ =>
      match reserved? "\x7b" cs with
      | some r => do
        let (body, r) ← list? fuel false r
        some (some (.block body, ← reserved? "\x7d" r))
      | none =>
      match reserved? "if" cs with
      | some r => (choice? fuel r).map some
      | none =>
      match reserved? "while" cs with
      | some r => do
        let (test, r) ← list? fuel false r
        let (body, rest) ← body? fuel r
        some (some (.loop false test body, rest))
      | none =>
      match reserved? "until" cs with
      | some r => do
        let (test, r) ← list? fuel false r
        let (body, rest) ← body? fuel r
        some (some (.loop true test body, rest))
      | none =>
      match reserved? "for" cs with
      | some r => (each? fuel r).map some
      | none =>
      match reserved? "case" cs with
      | some r => do
        let (w, r) ← someWord? fuel r
        let (bs, rest) ← branches? fuel (← reserved? "in" (skipLines r))
        some (some (.select w bs, rest))
      | none =>
      match d, reserved? "[[" cs with
      | .rich, some r => do
        let (c, r) ← condition? fuel false r
        some (some (.condition c, ← reserved? "]]" (skipLines r)))
      | _, _ => some none

/-- Reads a command. -/
def command? (fuel : Nat) (cs : List Char) : Option (Statement × List Char) :=
  match fuel with
  | 0 => none
  | fuel + 1 =>
    let cs := skipBlanks cs
    if atEnd cs then none
    else do
      match ← compound? fuel cs with
      | some (s, r) =>
        let (rs, rest) ← redirects? fuel r
        if rs.isEmpty then some (s, rest) else some (.redirected s rs, rest)
      | none =>
        match functionName? d cs with
        | some (name, r) =>
          let (body, rest) ← command? fuel (skipLines r)
          some (.define name body, rest)
        | none =>
          let (s, rest) ← simple? fuel true cs
          if s.settings.isEmpty && s.words.isEmpty && s.redirects.isEmpty then none
          else some (s.statement, rest)

/-- Reads commands with bars between them. -/
def stages? (fuel : Nat) (cs : List Char) : Option (Script × List Char) :=
  match fuel with
  | 0 => none
  | fuel + 1 => do
    let (s, r) ← command? fuel cs
    match skipBlanks r with
    | '|' :: '|' :: _ => some ([s], skipBlanks r)
    | '|' :: '&' :: r => do
      let (ss, rest) ← stages? fuel (skipLines r)
      some (.redirected s [.copy 2 [.text ['1'] true]] :: ss, rest)
    | '|' :: r => do
      let (ss, rest) ← stages? fuel (skipLines r)
      some (s :: ss, rest)
    | r => some ([s], r)

/-- Reads a pipe. -/
def pipe? (fuel : Nat) (cs : List Char) : Option (Statement × List Char) :=
  match fuel with
  | 0 => none
  | fuel + 1 =>
    match reserved? "!" (skipBlanks cs) with
    | some r => do
      let (s, rest) ← pipe? fuel r
      some (.negated s, rest)
    | none => do
      let (ss, rest) ← stages? fuel cs
      match ss with
      | [s] => some (s, rest)
      | ss => some (.pipe ss, rest)

/-- Reads pipes that depend on the outcome of the one before them. -/
def chain? (fuel : Nat) (first : Statement) (cs : List Char) : Option (Statement × List Char) :=
  match fuel with
  | 0 => none
  | fuel + 1 =>
    match skipBlanks cs with
    | '&' :: '&' :: r => do
      let (s, rest) ← pipe? fuel (skipLines r)
      chain? fuel (.both first s) rest
    | '|' :: '|' :: r => do
      let (s, rest) ← pipe? fuel (skipLines r)
      chain? fuel (.either first s) rest
    | r => some (first, r)

/-- Reads a pipe and those that depend on it, and tells whether something separates it from what
follows, apart from the end of a line. -/
def item? (fuel : Nat) (cs : List Char) : Option (Statement × List Char × Bool) :=
  match fuel with
  | 0 => none
  | fuel + 1 => do
    let (s, r) ← pipe? fuel cs
    let (s, r) ← chain? fuel s r
    match r with
    | ';' :: ';' :: _ => some (s, r, false)
    | ';' :: rest => some (s, rest, true)
    | '&' :: rest => some (.background s, rest, true)
    | _ => some (s, r, false)

/-- Reads statements up to what ends their list. -/
def list? (fuel : Nat) (mayBeEmpty : Bool) (cs : List Char) : Option (Script × List Char) :=
  match fuel with
  | 0 => none
  | fuel + 1 =>
    let cs := skipLines cs
    if atEnd cs then (if mayBeEmpty then some ([], cs) else none)
    else do
      let (s, r, more) ← item? fuel cs
      match more, r with
      | false, c :: _ =>
        if c = '\n' then do
          let (ss, rest) ← list? fuel true r
          some (s :: ss, rest)
        else some ([s], r)
      | _, r => do
        let (ss, rest) ← list? fuel true r
        some (s :: ss, rest)

end

/-- Reads the statements on a line. -/
def statements? (fuel : Nat) (cs : List Char) : Option (Script × List Char) :=
  match fuel with
  | 0 => none
  | fuel + 1 => do
    let (s, r, more) ← item? d (15 * cs.length + 16) cs
    match more, skipBlanks r with
    | _, [] => some ([s], [])
    | _, '\n' :: rest => some ([s], rest)
    | true, r => do
      let (ss, rest) ← statements? fuel r
      some (s :: ss, rest)
    | false, _ => none

/-- Reads the next line that has statements, if there is one, and what they go on over. -/
def line? (cs : List Char) : Option (Script × List Char) :=
  match skipLines cs with
  | [] => some ([], [])
  | cs => statements? d (cs.length + 1) cs

end

end Mend.Shell
