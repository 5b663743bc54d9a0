import Mend.Posix.Regular
import Mend.Shell.Utility.File

/-!
# Conditions

Utilities that tell by their exit code whether something holds, and one that computes with its
arguments.
-/

namespace Mend.Shell

/-! ## Tests -/

/-- What a test of one word comes to; none if there is no such test. -/
def unaryTest? (p : Process) (op w : String) : Option Bool :=
  let node := p.node? w
  let isFile := match node with
    | some (.file _ _) => true
    | _ => false
  match op with
  | "-n" => some (w ≠ "")
  | "-z" => some (w = "")
  | "-e" => some (node.isSome || w = nowhere)
  | "-a" => some (node.isSome || w = nowhere)
  | "-d" => some (node = some .dir)
  | "-f" => some isFile
  | "-r" => some (node.isSome || w = nowhere)
  | "-w" => some (node.isSome || w = nowhere)
  | "-O" => some node.isSome
  | "-G" => some node.isSome
  | "-s" => some (match node with
    | some (.file bytes _) => bytes.size ≠ 0
    | some .dir => true
    | none => false)
  | "-x" => some (match node with
    | some (.file _ mode) => mode &&& 0o111 ≠ 0
    | some .dir => true
    | none => startsWith "/bin/" w || startsWith "/usr/bin/" w)
  | "-c" => some (w = nowhere)
  | "-t" => some false
  | "-v" => some (p.value? w).isSome
  | "-h" => some false
  | "-L" => some false
  | "-b" => some false
  | "-p" => some false
  | "-S" => some false
  | "-g" => some false
  | "-u" => some false
  | "-k" => some false
  | _ => none

/-- The tests of two words. -/
def binaryTests : List String :=
  ["=", "==", "!=", "<", ">", "-eq", "-ne", "-lt", "-le", "-gt", "-ge", "-nt", "-ot", "-ef"]

/-- What a test of two words comes to, or the word that is no number. -/
def binaryTest (p : Process) (op a b : String) : Except String Bool :=
  let numbers (holds : Int → Int → Bool) : Except String Bool :=
    match decimal? a, decimal? b with
    | some x, some y => .ok (holds x y)
    | none, _ => .error a
    | _, none => .error b
  match op with
  | "!=" => .ok (a ≠ b)
  | "<" => .ok (a < b)
  | ">" => .ok (b < a)
  | "-eq" => numbers fun x y => x = y
  | "-ne" => numbers fun x y => x ≠ y
  | "-lt" => numbers fun x y => x < y
  | "-le" => numbers fun x y => x ≤ y
  | "-gt" => numbers fun x y => y < x
  | "-ge" => numbers fun x y => y ≤ x
  | "-nt" => .ok ((p.node? a).isSome && (p.node? b).isNone)
  | "-ot" => .ok ((p.node? a).isNone && (p.node? b).isSome)
  | "-ef" => .ok ((p.node? a).isSome && samePlace p a b)
  | _ => .ok (a = b)

mutual

/-- Reads a disjunction and gives what it comes to and the words that are left. -/
def disjunction (p : Process) : Nat → List String → Except String (Bool × List String)
  | 0, _ => .error ""
  | fuel + 1, ws => do
    let (a, rest) ← conjunction p fuel ws
    match rest with
    | "-o" :: rest =>
      let (b, rest) ← disjunction p fuel rest
      return (a || b, rest)
    | rest => return (a, rest)

/-- Reads a conjunction. -/
def conjunction (p : Process) : Nat → List String → Except String (Bool × List String)
  | 0, _ => .error ""
  | fuel + 1, ws => do
    let (a, rest) ← negation p fuel ws
    match rest with
    | "-a" :: rest =>
      let (b, rest) ← conjunction p fuel rest
      return (a && b, rest)
    | rest => return (a, rest)

/-- Reads one test, which may be negated or in brackets. -/
def negation (p : Process) : Nat → List String → Except String (Bool × List String)
  | 0, _ => .error ""
  | fuel + 1, ws =>
    match ws with
    | [] => .error ""
    | a :: op :: b :: rest =>
      if binaryTests.contains op then (binaryTest p op a b).map fun r => (r, rest) else single p fuel ws
    | ws => single p fuel ws

/-- Reads a test that does not begin with the first of two words to be compared. -/
def single (p : Process) : Nat → List String → Except String (Bool × List String)
  | 0, _ => .error ""
  | fuel + 1, ws =>
    match ws with
    | [] => .error ""
    | [w] => .ok (w ≠ "", [])
    | "!" :: rest => do
      let (a, rest) ← negation p fuel rest
      return (!a, rest)
    | "(" :: rest => do
      let (a, rest) ← disjunction p fuel rest
      match rest with
      | ")" :: rest => return (a, rest)
      | _ => .error ""
    | op :: w :: rest =>
      match unaryTest? p op w with
      | some r => .ok (r, rest)
      | none => .ok (op ≠ "", w :: rest)

end

/-- Tells whether a condition holds; one that cannot be read has the exit code two. -/
def condition (who : String) (words : List String) : Act Nat := do
  if words.isEmpty then return 1
  else match disjunction (← get) (4 * words.length + 4) words with
    | .ok (r, []) => return if r then 0 else 1
    | .ok (_, w :: _) =>
      complain who (w ++ ": unexpected operator")
      return 2
    | .error w =>
      complain who (if w.isEmpty then "argument expected" else "Illegal number: " ++ w)
      return 2

/-- Tells whether a condition holds. -/
def test : Utility := condition "test"

/-- Tells whether a condition in square brackets holds. -/
def bracketTest : Utility := fun words => do
  if words.getLast? = some "]" then condition "[" words.dropLast
  else
    complain "[" "missing ]"
    return 2

/-! ## Computing -/

/-- A value is missing or zero. -/
def isNull (s : String) : Bool :=
  let ds := match s.toList with
    | '-' :: r => r
    | r => r
  s.isEmpty || (!ds.isEmpty && ds.all (· = '0'))

/-- Why words have no value. -/
inductive ExprFault where
  | malformed (what : String)
  | notInteger
  | divisionByZero
  deriving Repr

/-- The words for it. -/
def ExprFault.message : ExprFault → String
  | .malformed w => "syntax error" ++ w
  | .notInteger => "non-integer argument"
  | .divisionByZero => "division by zero"

/-- What a text matches from its start: the first group, or the number of bytes. -/
def matchedPart (s pattern : String) : Except ExprFault String :=
  match Posix.Regular.parse false pattern.toList with
  | none => .error (.malformed "")
  | some e =>
    let text := s.toList.toArray
    let grouped := hasGroup pattern.toList
    match e.matchAt ⟨text, false⟩ 0 with
    | none => .ok (if grouped then "" else "0")
    | some r => .ok (if grouped then String.ofList (Posix.Regular.groupText text r.groups 1) else toString r.place)
where
  /-- A group is opened in a pattern. -/
  hasGroup : List Char → Bool
  | '\\' :: '(' :: _ => true
  | '\\' :: _ :: r => hasGroup r
  | _ :: r => hasGroup r
  | [] => false

/-- What a binary operator makes of two values. -/
def exprOperation (op a b : String) : Except ExprFault String :=
  let numbers (f : Int → Int → Except ExprFault Int) : Except ExprFault String :=
    match decimal? a, decimal? b with
    | some x, some y => (f x y).map toString
    | _, _ => .error .notInteger
  let compared (holds : Ordering → Bool) : Except ExprFault String :=
    let order := match decimal? a, decimal? b with
      | some x, some y => compare x y
      | _, _ => compare a b
    .ok (if holds order then "1" else "0")
  match op with
  | "|" => .ok (if isNull a then (if isNull b then "0" else b) else a)
  | "&" => .ok (if isNull a || isNull b then "0" else a)
  | "=" => compared (· = .eq)
  | "==" => compared (· = .eq)
  | "!=" => compared (· ≠ .eq)
  | "<" => compared (· = .lt)
  | "<=" => compared (· ≠ .gt)
  | ">" => compared (· = .gt)
  | ">=" => compared (· ≠ .lt)
  | "+" => numbers fun x y => .ok (x + y)
  | "-" => numbers fun x y => .ok (x - y)
  | "*" => numbers fun x y => .ok (x * y)
  | "/" => numbers fun x y => if y = 0 then .error .divisionByZero else .ok (x.tdiv y)
  | "%" => numbers fun x y => if y = 0 then .error .divisionByZero else .ok (x.tmod y)
  | _ => matchedPart a b

/-- The operators, those that bind more tightly at a higher level. -/
def exprLevels : List (List String) :=
  [["|"], ["&"], ["=", "==", "!=", "<", "<=", ">", ">="], ["+", "-"], ["*", "/", "%"], [":"]]

mutual

/-- Reads what operators of a level or a higher one join. -/
def exprJoined : Nat → Nat → List String → Except ExprFault (String × List String)
  | 0, _, _ => .error (.malformed "")
  | fuel + 1, level, ws => do
    let (a, rest) ← if level < 6 then exprJoined fuel (level + 1) ws else exprOperand fuel ws
    exprMore fuel level a rest

/-- Reads operators of a level and their right sides. -/
def exprMore : Nat → Nat → String → List String → Except ExprFault (String × List String)
  | 0, _, _, _ => .error (.malformed "")
  | fuel + 1, level, a, ws =>
    match ws with
    | op :: rest =>
      if (exprLevels.getD level []).contains op then do
        let (b, rest) ← exprJoined fuel (level + 1) rest
        exprMore fuel level (← exprOperation op a b) rest
      else .ok (a, ws)
    | [] => .ok (a, [])

/-- Reads one operand. -/
def exprOperand : Nat → List String → Except ExprFault (String × List String)
  | 0, _ => .error (.malformed "")
  | fuel + 1, ws =>
    match ws with
    | [] => .error (.malformed ": missing argument")
    | "(" :: rest => do
      let (a, rest) ← exprJoined fuel 0 rest
      match rest with
      | ")" :: rest => return (a, rest)
      | _ => .error (.malformed ": expecting ')'")
    | "+" :: w :: rest => .ok (w, rest)
    | "length" :: rest => do
      let (a, rest) ← exprJoined fuel 6 rest
      return (toString a.length, rest)
    | "match" :: rest => do
      let (a, rest) ← exprJoined fuel 6 rest
      let (b, rest) ← exprJoined fuel 6 rest
      return (← matchedPart a b, rest)
    | "index" :: rest => do
      let (a, rest) ← exprJoined fuel 6 rest
      let (b, rest) ← exprJoined fuel 6 rest
      return (toString ((a.toList.findIdx? b.toList.contains).elim 0 (· + 1)), rest)
    | "substr" :: rest => do
      let (a, rest) ← exprJoined fuel 6 rest
      let (i, rest) ← exprJoined fuel 6 rest
      let (n, rest) ← exprJoined fuel 6 rest
      match decimal? i, decimal? n with
      | some i, some n =>
        return (if i < 1 || n < 1 then "" else String.ofList ((a.toList.drop (i.toNat - 1)).take n.toNat), rest)
      | _, _ => return ("", rest)
    | w :: rest => .ok (w, rest)

end

/-- Prints what its arguments come to. -/
def expr : Utility := fun words => do
  if words.isEmpty then misuse "expr" 2 "missing operand"
  else match exprJoined (20 * words.length + 20) 0 words with
    | .ok (v, []) =>
      sayLine v
      return if isNull v then 1 else 0
    | .ok (_, w :: _) =>
      complain "expr" ("syntax error: unexpected argument '" ++ w ++ "'")
      return 2
    | .error e =>
      complain "expr" e.message
      return 2

end Mend.Shell
