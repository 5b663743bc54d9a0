import Mend.Decimal.Text
import Mend.Shell.Awk.Syntax
import Mend.Shell.Parser

/-!
# Reading programs

A reader takes the bytes that are left and gives what it read and the rest; every call between readers
costs one unit of fuel.
-/

namespace Mend.Shell.Awk

/-! ## Words -/

/-- Drops blanks and joined lines. -/
def skip : List Char → List Char
  | '\\' :: '\n' :: r => skip r
  | '#' :: r => r.dropWhile (· ≠ '\n')
  | c :: r => if c = ' ' || c = '\t' || c = '\r' then skip r else c :: r
  | [] => []

/-- Drops blanks, comments and ends of lines. -/
def skipAll : Nat → List Char → List Char
  | 0, cs => cs
  | fuel + 1, cs =>
    match skip cs with
    | '\n' :: r => skipAll fuel r
    | r => r

/-- Drops what may stand between lines. -/
def skipLines (cs : List Char) : List Char := skipAll cs.length cs

/-- Drops ends of lines and of statements. -/
def skipEnds : Nat → List Char → List Char
  | 0, cs => cs
  | fuel + 1, cs =>
    match skip cs with
    | '\n' :: r => skipEnds fuel r
    | ';' :: r => skipEnds fuel r
    | r => r

/-- A name that a text begins with, and the rest. -/
def name? (cs : List Char) : Option (String × List Char) :=
  match cs with
  | c :: _ =>
    if c.isDigit then none
    else
      let (n, rest) := cs.span isNameChar
      if n.isEmpty then none else some (String.ofList n, rest)
  | [] => none

/-- The rest after a word that is no part of a longer one. -/
def word? (w : String) (cs : List Char) : Option (List Char) :=
  match name? cs with
  | some (n, rest) => if n = w then some rest else none
  | none => none

/-- The rest after a sign. -/
def sign? (s : String) (cs : List Char) : Option (List Char) :=
  if s.toList.isPrefixOf cs then some (cs.drop s.length) else none

/-- The words that are no names of variables. -/
def keywords : List String :=
  ["in", "if", "else", "while", "for", "do", "break", "continue", "next", "nextfile", "exit", "return", "delete",
    "print", "printf", "getline", "function", "func", "BEGIN", "END"]

/-- The functions of the language. -/
def builtins : List String :=
  ["length", "substr", "index", "split", "sub", "gsub", "match", "sprintf", "tolower", "toupper", "sin", "cos",
    "atan2", "exp", "log", "sqrt", "int", "rand", "srand", "system", "close", "fflush", "systime"]

/-- Reads a text up to a double quote, past bytes that belong to an escape already. -/
def string? : Nat → List Char → Option (List Char × List Char)
  | _, [] => none
  | past + 1, _ :: r => string? past r
  | 0, '"' :: r => some ([], r)
  | 0, '\\' :: c :: r =>
    let add (cs : List Char) (more : Option (List Char × List Char)) : Option (List Char × List Char) :=
      more.map fun (ds, rest) => (cs ++ ds, rest)
    if c = '"' || c = '/' then add [c] (string? 0 r)
    else if c = '\n' then string? 0 r
    else if isOctal c then
      let ds := ((c :: r).take 3).takeWhile isOctal
      add [Char.ofNat (valueOfDigits 8 ds % 256)] (string? (ds.length - 1) r)
    else match control? c with
      | some k => add [k] (string? 0 r)
      | none => add ['\\', c] (string? 0 r)
  | 0, c :: r => (string? 0 r).map fun (cs, rest) => (c :: cs, rest)

/-- The bytes of an expression with the escapes replaced that stand for control bytes. -/
def plainEscapes : List Char → List Char
  | '\\' :: c :: r =>
    match (if c = '\\' || c = 'b' then none else control? c) with
    | some k => k :: plainEscapes r
    | none => if c = '/' || c = '"' then c :: plainEscapes r else '\\' :: c :: plainEscapes r
  | c :: r => c :: plainEscapes r
  | [] => []

/-- Reads an expression up to a slash. -/
def regular? : Bool → List Char → Option (List Char × List Char)
  | _, [] => none
  | _, '\n' :: _ => none
  | inSet, '\\' :: c :: r =>
    (regular? inSet r).map fun (cs, rest) => (if c = '/' then '/' :: cs else '\\' :: c :: cs, rest)
  | false, '/' :: r => some ([], r)
  | false, '[' :: c :: r =>
    if c = ']' || c = '^' then (regular? true r).map fun (cs, rest) => ('[' :: c :: cs, rest)
    else (regular? true (c :: r)).map fun (cs, rest) => ('[' :: cs, rest)
  | true, ']' :: r => (regular? false r).map fun (cs, rest) => (']' :: cs, rest)
  | inSet, c :: r => (regular? inSet r).map fun (cs, rest) => (c :: cs, rest)

/-- The expression that a text spells. -/
def regularOf? (cs : List Char) : Option Posix.Regular := Posix.Regular.parse true (plainEscapes cs)

/-- Reads a number. -/
def number? (cs : List Char) : Option (Float × List Char) :=
  let whole := cs.takeWhile Char.isDigit
  let r := cs.drop whole.length
  let part := match r with
    | '.' :: r => '.' :: r.takeWhile Char.isDigit
    | _ => []
  let r := r.drop part.length
  let power := match r with
    | c :: r =>
      if c = 'e' || c = 'E' then
        let sign := r.takeWhile fun c => c = '+' || c = '-'
        let ds := (r.drop sign.length).takeWhile Char.isDigit
        if ds.isEmpty || 1 < sign.length then [] else 'e' :: sign ++ ds
      else []
    | [] => []
  let text := whole ++ (if part = ['.'] then [] else part) ++ power
  if whole.isEmpty && part.length < 2 then none
  else (Decimal.parse (String.ofList text)).map fun x => (x, r.drop power.length)

/-! ## Expressions -/

/-- What an assignment may stand for. -/
def isTarget : Expr → Bool
  | .variable _ => true
  | .element _ _ => true
  | .field _ => true
  | _ => false

/-- The operator of an assignment, and the rest. -/
def assignment? (cs : List Char) : Option (Option NumberOp × List Char) :=
  match cs with
  | '=' :: '=' :: _ => none
  | '=' :: r => some (none, r)
  | '+' :: '=' :: r => some (some .add, r)
  | '-' :: '=' :: r => some (some .sub, r)
  | '*' :: '*' :: '=' :: r => some (some .pow, r)
  | '*' :: '=' :: r => some (some .mul, r)
  | '/' :: '=' :: r => some (some .div, r)
  | '%' :: '=' :: r => some (some .mod, r)
  | '^' :: '=' :: r => some (some .pow, r)
  | _ => none

/-- A comparison, and the rest. After `print` a greater-than sign is none, as it names a file. -/
def relation? (printing : Bool) (cs : List Char) : Option (Relation × List Char) :=
  match cs with
  | '<' :: '=' :: r => some (.le, r)
  | '<' :: r => some (.lt, r)
  | '=' :: '=' :: r => some (.eq, r)
  | '!' :: '=' :: r => some (.ne, r)
  | '>' :: '=' :: r => if printing then none else some (.ge, r)
  | '>' :: r => if printing then none else some (.gt, r)
  | _ => none

/-- A text may begin here that is joined to what stands before it. -/
def startsOperand (cs : List Char) : Bool :=
  match cs with
  | [] => false
  | '+' :: '+' :: _ => true
  | '-' :: '-' :: _ => true
  | c :: _ =>
    c = '$' || c = '(' || c = '"' || c.isDigit || c = '.' || c = '!' && !(sign? "!=" cs).isSome && !(sign? "!~" cs).isSome ||
      (match name? cs with
        | some (n, _) => !keywords.contains n
        | none => false)

mutual

/-- Reads an expression. -/
def expr? (fuel : Nat) (printing : Bool) (cs : List Char) : Option (Expr × List Char) :=
  match fuel with
  | 0 => none
  | fuel + 1 => do
    let (t, r) ← either? fuel printing cs
    match skip r with
    | '?' :: r => do
      let (a, r) ← expr? fuel printing (skipLines r)
      match skipLines r with
      | ':' :: r => do
        let (b, rest) ← expr? fuel printing (skipLines r)
        some (.choice t a b, rest)
      | _ => none
    | r =>
      match assignment? r with
      | some (op, r) =>
        if isTarget t then do
          let (e, rest) ← expr? fuel printing (skipLines r)
          some (.assign t op e, rest)
        else none
      | none => some (t, r)

/-- Reads a disjunction. -/
def either? (fuel : Nat) (printing : Bool) (cs : List Char) : Option (Expr × List Char) :=
  match fuel with
  | 0 => none
  | fuel + 1 => do
    let (a, r) ← both? fuel printing cs
    match sign? "||" (skip r) with
    | some r => do
      let (b, rest) ← either? fuel printing (skipLines r)
      some (.either a b, rest)
    | none => some (a, r)

/-- Reads a conjunction. -/
def both? (fuel : Nat) (printing : Bool) (cs : List Char) : Option (Expr × List Char) :=
  match fuel with
  | 0 => none
  | fuel + 1 => do
    let (a, r) ← member? fuel printing cs
    match sign? "&&" (skip r) with
    | some r => do
      let (b, rest) ← both? fuel printing (skipLines r)
      some (.both a b, rest)
    | none => some (a, r)

/-- Reads what may be looked up in an array. -/
def member? (fuel : Nat) (printing : Bool) (cs : List Char) : Option (Expr × List Char) :=
  match fuel with
  | 0 => none
  | fuel + 1 => do
    let (a, r) ← matched? fuel printing cs
    members? fuel a r

/-- Reads the arrays in which something is looked up. -/
def members? (fuel : Nat) (a : Expr) (cs : List Char) : Option (Expr × List Char) :=
  match fuel with
  | 0 => none
  | fuel + 1 =>
    match word? "in" (skip cs) with
    | some r => do
      let (n, rest) ← name? (skip r)
      members? fuel (.member [a] n) rest
    | none => some (a, cs)

/-- Reads what may be matched with a pattern. -/
def matched? (fuel : Nat) (printing : Bool) (cs : List Char) : Option (Expr × List Char) :=
  match fuel with
  | 0 => none
  | fuel + 1 => do
    let (a, r) ← compared? fuel printing cs
    matches? fuel printing a r

/-- Reads the patterns that something is matched with. -/
def matches? (fuel : Nat) (printing : Bool) (a : Expr) (cs : List Char) : Option (Expr × List Char) :=
  match fuel with
  | 0 => none
  | fuel + 1 =>
    match skip cs with
    | '!' :: '~' :: r => do
      let (b, rest) ← compared? fuel printing (skip r)
      matches? fuel printing (.matched a b true) rest
    | '~' :: r => do
      let (b, rest) ← compared? fuel printing (skip r)
      matches? fuel printing (.matched a b false) rest
    | _ => some (a, cs)

/-- Reads a comparison. -/
def compared? (fuel : Nat) (printing : Bool) (cs : List Char) : Option (Expr × List Char) :=
  match fuel with
  | 0 => none
  | fuel + 1 => do
    let (a, r) ← joined? fuel printing cs
    match relation? printing (skip r) with
    | some (k, r) => do
      let (b, rest) ← joined? fuel printing (skip r)
      some (.compare k a b, rest)
    | none => some (a, r)

/-- Reads texts that are joined, and commands whose output is read. -/
def joined? (fuel : Nat) (printing : Bool) (cs : List Char) : Option (Expr × List Char) :=
  match fuel with
  | 0 => none
  | fuel + 1 => do
    let (a, r) ← sum? fuel cs
    joins? fuel printing a r

/-- Reads what is joined to an expression. -/
def joins? (fuel : Nat) (printing : Bool) (a : Expr) (cs : List Char) : Option (Expr × List Char) :=
  match fuel with
  | 0 => none
  | fuel + 1 =>
    let r := skip cs
    match (sign? "|" r).bind fun r => if r.head? = some '|' then none else word? "getline" (skip r) with
    | some r => do
      let (t, r) ← target? fuel r
      joins? fuel printing (.getline .command (some a) t) r
    | none =>
      if startsOperand r then do
        let (b, rest) ← sum? fuel r
        joins? fuel printing (.concat a b) rest
      else some (a, cs)

/-- Reads what a record may be read into. -/
def target? (fuel : Nat) (cs : List Char) : Option (Option Expr × List Char) :=
  match fuel with
  | 0 => none
  | fuel + 1 =>
    let r := skip cs
    let named := match name? r with
      | some (n, _) => !keywords.contains n
      | none => false
    if r.head? = some '$' || named then do
      let (e, rest) ← primary? fuel r
      if isTarget e then some (some e, rest) else some (none, cs)
    else some (none, cs)

/-- Reads a sum. -/
def sum? (fuel : Nat) (cs : List Char) : Option (Expr × List Char) :=
  match fuel with
  | 0 => none
  | fuel + 1 => do
    let (a, r) ← product? fuel cs
    sums? fuel a r

/-- Reads what is added to an expression. -/
def sums? (fuel : Nat) (a : Expr) (cs : List Char) : Option (Expr × List Char) :=
  match fuel with
  | 0 => none
  | fuel + 1 =>
    match skip cs with
    | '+' :: c :: r =>
      if c = '=' || c = '+' then some (a, cs)
      else do
        let (b, rest) ← product? fuel (skip (c :: r))
        sums? fuel (.arithmetic .add a b) rest
    | '-' :: c :: r =>
      if c = '=' || c = '-' then some (a, cs)
      else do
        let (b, rest) ← product? fuel (skip (c :: r))
        sums? fuel (.arithmetic .sub a b) rest
    | _ => some (a, cs)

/-- Reads a product. -/
def product? (fuel : Nat) (cs : List Char) : Option (Expr × List Char) :=
  match fuel with
  | 0 => none
  | fuel + 1 => do
    let (a, r) ← unary? fuel cs
    products? fuel a r

/-- Reads what an expression is multiplied with. -/
def products? (fuel : Nat) (a : Expr) (cs : List Char) : Option (Expr × List Char) :=
  match fuel with
  | 0 => none
  | fuel + 1 =>
    let more (op : NumberOp) (r : List Char) : Option (Expr × List Char) := do
      let (b, rest) ← unary? fuel (skip r)
      products? fuel (.arithmetic op a b) rest
    match skip cs with
    | '*' :: '*' :: _ => some (a, cs)
    | '*' :: c :: r => if c = '=' then some (a, cs) else more .mul (c :: r)
    | '/' :: c :: r => if c = '=' then some (a, cs) else more .div (c :: r)
    | '%' :: c :: r => if c = '=' then some (a, cs) else more .mod (c :: r)
    | _ => some (a, cs)

/-- Reads what a sign may stand in front of. -/
def unary? (fuel : Nat) (cs : List Char) : Option (Expr × List Char) :=
  match fuel with
  | 0 => none
  | fuel + 1 =>
    match skip cs with
    | '+' :: '+' :: _ => power? fuel cs
    | '-' :: '-' :: _ => power? fuel cs
    | '!' :: r => (unary? fuel r).map fun (a, rest) => (.not a, rest)
    | '-' :: r => (unary? fuel r).map fun (a, rest) => (.minus a, rest)
    | '+' :: r => (unary? fuel r).map fun (a, rest) => (.plus a, rest)
    | _ => power? fuel cs

/-- Reads a power. -/
def power? (fuel : Nat) (cs : List Char) : Option (Expr × List Char) :=
  match fuel with
  | 0 => none
  | fuel + 1 => do
    let (a, r) ← stepped? fuel cs
    let exponent (r : List Char) : Option (Expr × List Char) := do
      let (b, rest) ← unary? fuel (skip r)
      some (.arithmetic .pow a b, rest)
    match skip r with
    | '^' :: c :: r' => if c = '=' then some (a, r) else exponent (c :: r')
    | '*' :: '*' :: c :: r' => if c = '=' then some (a, r) else exponent (c :: r')
    | _ => some (a, r)

/-- Reads a variable that is counted up or down, or another primary. -/
def stepped? (fuel : Nat) (cs : List Char) : Option (Expr × List Char) :=
  match fuel with
  | 0 => none
  | fuel + 1 =>
    match skip cs with
    | '+' :: '+' :: r => do
      let (a, rest) ← primary? fuel (skip r)
      if isTarget a then some (.step a true false, rest) else none
    | '-' :: '-' :: r => do
      let (a, rest) ← primary? fuel (skip r)
      if isTarget a then some (.step a false false, rest) else none
    | r => do
      let (a, rest) ← primary? fuel r
      match isTarget a, rest with
      | true, '+' :: '+' :: rest => some (.step a true true, rest)
      | true, '-' :: '-' :: rest => some (.step a false true, rest)
      | _, _ => some (a, rest)

/-- Reads a primary. -/
def primary? (fuel : Nat) (cs : List Char) : Option (Expr × List Char) :=
  match fuel with
  | 0 => none
  | fuel + 1 =>
    match cs with
    | [] => none
    | '$' :: r =>
      match skip r with
      | '+' :: '+' :: _ => (stepped? fuel r).map fun (a, rest) => (.field a, rest)
      | '-' :: '-' :: _ => (stepped? fuel r).map fun (a, rest) => (.field a, rest)
      | '-' :: r => (primary? fuel (skip r)).map fun (a, rest) => (.field (.minus a), rest)
      | r => (primary? fuel r).map fun (a, rest) => (.field a, rest)
    | '"' :: r => (string? 0 r).map fun (s, rest) => (.string (String.ofList s), rest)
    | '/' :: r => do
      let (s, rest) ← regular? false r
      some (.regular (← regularOf? s), rest)
    | '(' :: r => do
      let (es, r) ← list? fuel false (skipLines r)
      match es, skipLines r with
      | [e], ')' :: rest => some (.group e, rest)
      | es, ')' :: r => do
        let r ← word? "in" (skip r)
        let (n, rest) ← name? (skip r)
        some (.member es n, rest)
      | _, _ => none
    | _ =>
      match number? cs with
      | some (x, rest) => some (.number x, rest)
      | none => do
        let (n, r) ← name? cs
        if n = "getline" then
          let (t, r) ← target? fuel r
          match skip r with
          | '<' :: r =>
            let (f, rest) ← stepped? fuel (skip r)
            some (.getline .file (some f) t, rest)
          | _ => some (.getline .input none t, r)
        else if builtins.contains n then
          match skip r with
          | '(' :: r => arguments? fuel n r
          | _ => if n = "length" then some (.call n [], r) else none
        else if keywords.contains n then none
        else match r with
          | '(' :: r => arguments? fuel n r
          | '[' :: r => do
            let (es, r) ← list? fuel false (skip r)
            match skip r with
            | ']' :: rest => some (.element n es, rest)
            | _ => none
          | r => some (.variable n, r)

/-- Reads the arguments of a function and the bracket after them. -/
def arguments? (fuel : Nat) (n : String) (cs : List Char) : Option (Expr × List Char) :=
  match fuel with
  | 0 => none
  | fuel + 1 =>
    match skipLines cs with
    | ')' :: rest => some (.call n [], rest)
    | r => do
      let (es, r) ← list? fuel false r
      match skipLines r with
      | ')' :: rest => some (.call n es, rest)
      | _ => none

/-- Reads expressions with commas between them. -/
def list? (fuel : Nat) (printing : Bool) (cs : List Char) : Option (List Expr × List Char) :=
  match fuel with
  | 0 => none
  | fuel + 1 => do
    let (e, r) ← expr? fuel printing cs
    match skip r with
    | ',' :: r => do
      let (es, rest) ← list? fuel printing (skipLines r)
      some (e :: es, rest)
    | _ => some ([e], r)

end

/-! ## Statements -/

/-- A statement may end here. -/
def isEnd (cs : List Char) : Bool :=
  match skip cs with
  | [] => true
  | c :: _ => c = ';' || c = '\n' || c = '\x7d'

/-- Reads where a text is printed to. -/
def sink? (fuel : Nat) (cs : List Char) : Option (Option (Sink × Expr) × List Char) :=
  let sent (k : Sink) (r : List Char) : Option (Option (Sink × Expr) × List Char) :=
    (joined? fuel true (skip r)).map fun (e, rest) => (some (k, e), rest)
  match skip cs with
  | '>' :: '>' :: r => sent (.file true) r
  | '>' :: r => sent (.file false) r
  | '|' :: r => sent .command r
  | _ => some (none, cs)

/-- Reads what is printed, which may stand in brackets as a whole, and where to. -/
def printed? (fuel : Nat) (cs : List Char) : Option (List Expr × Option (Sink × Expr) × List Char) :=
  let bare : Option (List Expr × Option (Sink × Expr) × List Char) :=
    if isEnd cs then some ([], none, cs)
    else match skip cs with
      | '>' :: _ => (sink? fuel cs).map fun (s, rest) => ([], s, rest)
      | '|' :: _ => (sink? fuel cs).map fun (s, rest) => ([], s, rest)
      | r => do
        let (es, r) ← list? fuel true r
        let (s, rest) ← sink? fuel r
        some (es, s, rest)
  let bracketed : Option (List Expr × Option (Sink × Expr) × List Char) :=
    match skip cs with
    | '(' :: r => do
      let (es, r) ← list? fuel false (skipLines r)
      match skipLines r with
      | ')' :: r => do
        let (s, rest) ← sink? fuel r
        if isEnd rest then some (es, s, rest) else none
      | _ => none
    | _ => none
  bracketed <|> bare

/-- The rest after the end of a simple statement. -/
def afterEnd? (cs : List Char) : Option (List Char) :=
  match skip cs with
  | ';' :: r => some r
  | '\n' :: r => some r
  | r => if isEnd r then some r else none

mutual

/-- Reads a statement without what ends it. -/
def simple? (fuel : Nat) (cs : List Char) : Option (Stmt × List Char) :=
  match fuel with
  | 0 => none
  | fuel + 1 =>
    let optional (make : Option Expr → Stmt) (r : List Char) : Option (Stmt × List Char) :=
      if isEnd r then some (make none, r)
      else (expr? fuel false (skip r)).map fun (e, rest) => (make (some e), rest)
    match name? cs with
    | some ("print", r) => (printed? fuel r).map fun (es, s, rest) => (.print es s, rest)
    | some ("printf", r) => (printed? fuel r).map fun (es, s, rest) => (.printf es s, rest)
    | some ("next", r) => some (.next, r)
    | some ("nextfile", r) => some (.nextFile, r)
    | some ("break", r) => some (.break_, r)
    | some ("continue", r) => some (.continue_, r)
    | some ("exit", r) => optional .exit r
    | some ("return", r) => optional .return_ r
    | some ("delete", r) => do
      let (n, r) ← name? (skip r)
      match skip r with
      | '[' :: r => do
        let (es, r) ← list? fuel false (skip r)
        match skip r with
        | ']' :: rest => some (.delete n es, rest)
        | _ => none
      | _ => some (.delete n [], r)
    | _ => (expr? fuel false cs).map fun (e, rest) => (.expr e, rest)

/-- Reads a statement with what ends it. -/
def statement? (fuel : Nat) (cs : List Char) : Option (Stmt × List Char) :=
  match fuel with
  | 0 => none
  | fuel + 1 =>
    let cs := skipLines cs
    match cs with
    | ';' :: r => some (.block [], r)
    | '\x7b' :: r => do
      let (body, rest) ← block? fuel r
      some (.block body, rest)
    | _ =>
      match name? cs with
      | some ("if", r) => do
        let (t, r) ← bracketed? fuel r
        let (yes, r) ← statement? fuel r
        match word? "else" (skipEnds r.length r) with
        | some r => do
          let (no, rest) ← statement? fuel r
          some (.choose t yes (some no), rest)
        | none => some (.choose t yes none, r)
      | some ("while", r) => do
        let (t, r) ← bracketed? fuel r
        let (body, rest) ← statement? fuel r
        some (.loop (some t) body none, rest)
      | some ("do", r) => do
        let (body, r) ← statement? fuel r
        let r ← word? "while" (skipEnds r.length r)
        let (t, r) ← bracketed? fuel r
        some (.loopAfter body t, ← afterEnd? r)
      | some ("for", r) =>
        match skip r with
        | '(' :: r => for? fuel r
        | _ => none
      | _ => do
        let (s, r) ← simple? fuel cs
        some (s, ← afterEnd? r)

/-- Reads a condition in brackets. -/
def bracketed? (fuel : Nat) (cs : List Char) : Option (Expr × List Char) :=
  match fuel with
  | 0 => none
  | fuel + 1 =>
    match skip cs with
    | '(' :: r => do
      let (e, r) ← expr? fuel false (skipLines r)
      match skipLines r with
      | ')' :: rest => some (e, rest)
      | _ => none
    | _ => none

/-- Reads a loop after its opening bracket. -/
def for? (fuel : Nat) (cs : List Char) : Option (Stmt × List Char) :=
  match fuel with
  | 0 => none
  | fuel + 1 =>
    let table : Option (String × String × List Char) := do
      let (x, r) ← name? (skip cs)
      let r ← word? "in" (skip r)
      let (a, r) ← name? (skip r)
      match skip r with
      | ')' :: r => some (x, a, r)
      | _ => none
    match table with
    | some (x, a, r) => do
      let (body, rest) ← statement? fuel r
      some (.each x a body, rest)
    | none => do
      let (start, r) ← match skip cs with
        | ';' :: r => some (none, r)
        | r => do
          let (s, r) ← simple? fuel r
          match skip r with
          | ';' :: r => some (some s, r)
          | _ => none
      let (test, r) ← match skipLines r with
        | ';' :: r => some (none, r)
        | r => do
          let (e, r) ← expr? fuel false r
          match skip r with
          | ';' :: r => some (some e, r)
          | _ => none
      let (step, r) ← match skipLines r with
        | ')' :: r => some (none, r)
        | r => do
          let (s, r) ← simple? fuel r
          match skip r with
          | ')' :: r => some (some s, r)
          | _ => none
      let (body, rest) ← statement? fuel r
      some (.block (start.toList ++ [.loop test body step]), rest)

/-- Reads statements up to a closing brace. -/
def block? (fuel : Nat) (cs : List Char) : Option (List Stmt × List Char) :=
  match fuel with
  | 0 => none
  | fuel + 1 =>
    match skipEnds cs.length cs with
    | '\x7d' :: rest => some ([], rest)
    | r => do
      let (s, r) ← statement? fuel r
      let (ss, rest) ← block? fuel r
      some (s :: ss, rest)

end

/-! ## Programs -/

/-- Reads names with commas between them, up to a closing bracket; `fuel` is more than their number. -/
def parameters? : Nat → List Char → Option (List String × List Char)
  | 0, _ => none
  | fuel + 1, cs =>
    match skipLines cs with
    | ')' :: rest => some ([], rest)
    | r => do
      let (n, r) ← name? r
      match skipLines r with
      | ',' :: r => do
        let (ns, rest) ← parameters? fuel r
        some (n :: ns, rest)
      | ')' :: rest => some ([n], rest)
      | _ => none

/-- Reads an action, if there is one. -/
def action? (fuel : Nat) (cs : List Char) : Option (Option (List Stmt) × List Char) :=
  match skip cs with
  | '\x7b' :: r => (block? fuel r).map fun (b, rest) => (some b, rest)
  | _ => if isEnd cs then some (none, cs) else none

/-- Reads rules and functions; `fuel` is more than their number. -/
def program? (depth : Nat) : Nat → List Char → Option Program
  | 0, _ => none
  | fuel + 1, cs =>
    let add (pattern : Pattern) (r : List Char) : Option Program := do
      let (a, rest) ← action? depth r
      let p ← program? depth fuel rest
      some { p with rules := ⟨pattern, a⟩ :: p.rules }
    match skipEnds cs.length cs with
    | [] => some {}
    | '\x7b' :: r => add .all ('\x7b' :: r)
    | cs =>
      match word? "BEGIN" cs, word? "END" cs, (word? "function" cs) <|> (word? "func" cs) with
      | some r, _, _ => add .start r
      | _, some r, _ => add .finish r
      | _, _, some r => do
        let (n, r) ← name? (skip r)
        match skip r with
        | '(' :: r => do
          let (ps, r) ← parameters? (r.length + 1) r
          match skipLines r with
          | '\x7b' :: r => do
            let (body, rest) ← block? depth r
            let p ← program? depth fuel rest
            some { p with functions := ⟨n, ps, body⟩ :: p.functions }
          | _ => none
        | _ => none
      | _, _, _ => do
        let (e, r) ← expr? depth false cs
        match skip r with
        | ',' :: r => do
          let (f, r) ← expr? depth false (skipLines r)
          add (.range e f) r
        | _ => add (.one e) r

/-- The program that a text spells. -/
def parse (s : String) : Option Program := program? (30 * s.length + 100) (s.length + 2) s.toList

end Mend.Shell.Awk
