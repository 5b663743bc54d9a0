/-!
# Arithmetic

The expressions between `$((` and `))`: whole numbers of sixty-four bits, variables, and operators with
their usual precedence; the richer dialect has powers, steps and lists as well. Evaluating an expression
may set variables, so that it works on a store.
-/

namespace Mend.Shell

/-- An operator between two numbers. -/
inductive BinaryOp where
  | add | sub | mul | div | mod | pow
  | shiftLeft | shiftRight
  | lt | le | gt | ge | eq | ne
  | bitAnd | bitXor | bitOr
  deriving DecidableEq, Repr

/-- An operator in front of a number. -/
inductive UnaryOp where
  | plus | minus | bitNot | not
  deriving DecidableEq, Repr

/-- An expression. -/
inductive Arithmetic where
  | number (value : Int)
  | variable (name : String)
  | unary (op : UnaryOp) (a : Arithmetic)
  | binary (op : BinaryOp) (a b : Arithmetic)
  | both (a b : Arithmetic)
  | either (a b : Arithmetic)
  | choice (test yes no : Arithmetic)
  /-- Sets a variable, to a value or to what an operator makes of the old one. -/
  | assign (name : String) (op : Option BinaryOp) (value : Arithmetic)
  /-- Adds to a variable and gives the new value, or the old one. -/
  | step (name : String) (by_ : Int) (old : Bool)
  | comma (a b : Arithmetic)
  deriving Repr, Inhabited

namespace Arithmetic

/-! ## Values -/

/-- Why an expression has no value. -/
inductive Fault where
  | unreadable
  | divisionByZero
  /-- A variable holds a text that is no number. -/
  | notNumber (text : String)
  | unset (name : String)
  deriving DecidableEq, Repr

/-- The number of sixty-four bits that is congruent to `n`. -/
def wrap (n : Int) : Int := n.bmod (Nat.pow 2 64)

/-- A condition as a number. -/
def ofBool (b : Bool) : Int := if b then 1 else 0

/-- The bits of a number. -/
def bits (n : Int) : BitVec 64 := BitVec.ofInt 64 n

end Arithmetic

open Arithmetic (wrap ofBool bits)

/-- What an operator makes of two numbers. -/
def BinaryOp.apply (op : BinaryOp) (a b : Int) : Except Arithmetic.Fault Int :=
  match op with
  | .add => .ok (wrap (a + b))
  | .sub => .ok (wrap (a - b))
  | .mul => .ok (wrap (a * b))
  | .div => if b = 0 then .error .divisionByZero else .ok (wrap (a.tdiv b))
  | .mod => if b = 0 then .error .divisionByZero else .ok (a.tmod b)
  | .pow => .ok (wrap (a.pow b.toNat))
  | .shiftLeft => .ok ((bits a).shiftLeft (b.toNat % 64)).toInt
  | .shiftRight => .ok ((bits a).sshiftRight (b.toNat % 64)).toInt
  | .lt => .ok (ofBool (a < b))
  | .le => .ok (ofBool (a ≤ b))
  | .gt => .ok (ofBool (b < a))
  | .ge => .ok (ofBool (b ≤ a))
  | .eq => .ok (ofBool (a = b))
  | .ne => .ok (ofBool (a ≠ b))
  | .bitAnd => .ok (bits a &&& bits b).toInt
  | .bitXor => .ok (bits a ^^^ bits b).toInt
  | .bitOr => .ok (bits a ||| bits b).toInt

/-- What an operator makes of a number. -/
def UnaryOp.apply : UnaryOp → Int → Int
  | .plus, a => a
  | .minus, a => wrap (-a)
  | .bitNot, a => -a - 1
  | .not, a => ofBool (a = 0)

namespace Arithmetic

/-! ## Reading numbers -/

/-- The value of a digit in bases up to thirty-six. -/
def digit? (c : Char) : Option Nat :=
  if c.isDigit then some (c.toNat - 48)
  else if 'a' ≤ c && c ≤ 'z' then some (c.toNat - 87)
  else if 'A' ≤ c && c ≤ 'Z' then some (c.toNat - 55)
  else none

/-- The number that digits of a base spell. -/
def digits? (base : Nat) (cs : List Char) : Option Nat :=
  if cs.isEmpty then none
  else cs.foldlM (fun n c => (digit? c).bind fun d => if d < base then some (base * n + d) else none) 0

/-- The number that a text spells: with a leading zero in base eight, with `0x` in base sixteen. -/
def natural? (cs : List Char) : Option Nat :=
  match cs with
  | ['0'] => some 0
  | '0' :: 'x' :: r => digits? 16 r
  | '0' :: 'X' :: r => digits? 16 r
  | '0' :: r => digits? 8 r
  | _ =>
    let (base, rest) := cs.span (· ≠ '#')
    match rest with
    | _ :: r => (digits? 10 base).bind fun b => digits? b r
    | [] => digits? 10 cs

/-- The number with a sign that a text with blanks around it spells. -/
def integer? (text : String) : Option Int :=
  let blank (c : Char) : Bool := c = ' ' || c = '\t' || c = '\n'
  let cs := ((text.toList.dropWhile blank).reverse.dropWhile blank).reverse
  match cs with
  | '-' :: r => (natural? r).map fun n => -(n : Int)
  | '+' :: r => (natural? r).map fun n => (n : Int)
  | _ => (natural? cs).map fun n => (n : Int)

/-! ## Evaluating -/

/-- The variables that an evaluation sees. -/
structure Store where
  /-- The value of a variable before the evaluation. -/
  get : String → Option String
  /-- The variables that have been set, the last one first. -/
  set : List (String × String) := []
  /-- A variable without a value is a fault. -/
  strict : Bool := false
  /-- The number that the value of a variable stands for. -/
  read : String → Option Int := integer?

namespace Store

/-- The value of a variable. -/
def value? (s : Store) (name : String) : Option String := s.set.lookup name <|> s.get name

/-- The number that a variable holds. One without a value holds zero. -/
def number (s : Store) (name : String) : Except Fault Int :=
  match s.value? name with
  | none => if s.strict then .error (.unset name) else .ok 0
  | some text =>
    if text.isEmpty then .ok 0
    else match s.read text with
      | some n => .ok (wrap n)
      | none => .error (.notNumber text)

/-- The store after a variable has been set. -/
def put (s : Store) (name : String) (n : Int) : Store := { s with set := (name, toString n) :: s.set }

end Store

/-- The value of an expression, and the store that it leaves. -/
def eval : Arithmetic → Store → Except Fault (Int × Store)
  | .number n, s => .ok (wrap n, s)
  | .variable x, s => do return (← s.number x, s)
  | .unary op a, s => do
    let (x, s) ← eval a s
    return (op.apply x, s)
  | .binary op a b, s => do
    let (x, s) ← eval a s
    let (y, s) ← eval b s
    return (← op.apply x y, s)
  | .both a b, s => do
    let (x, s) ← eval a s
    if x = 0 then return (0, s)
    let (y, s) ← eval b s
    return (ofBool (y ≠ 0), s)
  | .either a b, s => do
    let (x, s) ← eval a s
    if x ≠ 0 then return (1, s)
    let (y, s) ← eval b s
    return (ofBool (y ≠ 0), s)
  | .choice t a b, s => do
    let (x, s) ← eval t s
    if x ≠ 0 then eval a s else eval b s
  | .assign name none e, s => do
    let (x, s) ← eval e s
    return (x, s.put name x)
  | .assign name (some op) e, s => do
    let (y, s) ← eval e s
    let x ← op.apply (← s.number name) y
    return (x, s.put name x)
  | .step name by_ old, s => do
    let x ← s.number name
    let y := wrap (x + by_)
    return (if old then x else y, s.put name y)
  | .comma a b, s => do
    let (_, s) ← eval a s
    eval b s

/-! ## Reading -/

/-- The operators between two numbers, those that bind more tightly at a higher level. -/
def operators : List (String × Nat × BinaryOp) :=
  [("<<", 8, .shiftLeft), (">>", 8, .shiftRight), ("<=", 7, .le), (">=", 7, .ge), ("==", 6, .eq),
    ("!=", 6, .ne), ("**", 11, .pow), ("<", 7, .lt), (">", 7, .gt), ("&", 5, .bitAnd), ("^", 4, .bitXor),
    ("|", 3, .bitOr), ("+", 9, .add), ("-", 9, .sub), ("*", 10, .mul), ("/", 10, .div), ("%", 10, .mod)]

/-- Drops blanks. -/
def skip (cs : List Char) : List Char := cs.dropWhile fun c => c = ' ' || c = '\t' || c = '\n'

/-- The rest after a sign. -/
def sign? (sign : String) (cs : List Char) : Option (List Char) :=
  if sign.toList.isPrefixOf cs then some (cs.drop sign.length) else none

/-- The operator that a text begins with, its level, and the rest. One that sets a variable and one of
the logical operators are none of them. -/
def operator? (rich : Bool) (cs : List Char) : Option (BinaryOp × Nat × List Char) :=
  if (sign? "&&" cs).isSome || (sign? "||" cs).isSome then none
  else operators.findSome? fun (sign, level, op) =>
    if op = .pow && !rich then none else (sign? sign cs).bind fun r =>
      if r.head? = some '=' && level ≠ 7 && level ≠ 6 then none else some (op, level, r)

/-- The operator of an assignment that a text begins with, and the rest. -/
def assignment? (cs : List Char) : Option (Option BinaryOp × List Char) :=
  match cs with
  | '=' :: '=' :: _ => none
  | '=' :: r => some (none, r)
  | _ =>
    operators.findSome? fun (sign, level, op) =>
      if level = 6 || level = 7 then none else (sign? (sign ++ "=") cs).map fun r => (some op, r)

/-- A character of a name. -/
def isNameChar (c : Char) : Bool := c.isAlphanum || c = '_'

/-- The variable of an expression that is one. -/
def nameOf? : Arithmetic → Option String
  | .variable x => some x
  | _ => none

section

variable (rich : Bool)

mutual

/-- Reads expressions with commas between them. -/
def list? (fuel : Nat) (cs : List Char) : Option (Arithmetic × List Char) :=
  match fuel with
  | 0 => none
  | fuel + 1 => do
    let (a, r) ← assigned? fuel cs
    match skip r with
    | ',' :: r =>
      if rich then do
        let (b, rest) ← list? fuel r
        some (.comma a b, rest)
      else some (a, ',' :: r)
    | r => some (a, r)

/-- Reads an assignment or what may stand on the right of one. -/
def assigned? (fuel : Nat) (cs : List Char) : Option (Arithmetic × List Char) :=
  match fuel with
  | 0 => none
  | fuel + 1 => do
    let (a, r) ← chosen? fuel cs
    match nameOf? a, assignment? (skip r) with
    | some x, some (op, r) => do
      let (e, rest) ← assigned? fuel r
      some (.assign x op e, rest)
    | _, _ => some (a, r)

/-- Reads a choice or what may stand before one. -/
def chosen? (fuel : Nat) (cs : List Char) : Option (Arithmetic × List Char) :=
  match fuel with
  | 0 => none
  | fuel + 1 => do
    let (t, r) ← logical? fuel false cs
    match skip r with
    | '?' :: r => do
      let (a, r) ← list? fuel r
      match skip r with
      | ':' :: r => do
        let (b, rest) ← chosen? fuel r
        some (.choice t a b, rest)
      | _ => none
    | r => some (t, r)

/-- Reads conditions joined by a logical operator, the tighter one first. -/
def logical? (fuel : Nat) (tight : Bool) (cs : List Char) : Option (Arithmetic × List Char) :=
  match fuel with
  | 0 => none
  | fuel + 1 => do
    let (a, r) ← if tight then binary? fuel 3 cs else logical? fuel true cs
    match sign? (if tight then "&&" else "||") (skip r) with
    | some r => do
      let (b, rest) ← logical? fuel tight r
      some (if tight then .both a b else .either a b, rest)
    | none => some (a, r)

/-- Reads what operators of a level or a higher one join. -/
def binary? (fuel : Nat) (level : Nat) (cs : List Char) : Option (Arithmetic × List Char) :=
  match fuel with
  | 0 => none
  | fuel + 1 => do
    let (a, r) ← unary? fuel cs
    joined? fuel level a r

/-- Reads operators of a level or a higher one, and their right sides, after their left side. -/
def joined? (fuel : Nat) (level : Nat) (a : Arithmetic) (cs : List Char) : Option (Arithmetic × List Char) :=
  match fuel with
  | 0 => none
  | fuel + 1 =>
    match operator? rich (skip cs) with
    | some (op, l, r) =>
      if l < level then some (a, cs)
      else do
        let (b, r) ← binary? fuel (if op = .pow then l else l + 1) r
        joined? fuel level (.binary op a b) r
    | none => some (a, cs)

/-- Reads a number, a variable, or an expression in brackets, with the operators in front of it. -/
def unary? (fuel : Nat) (cs : List Char) : Option (Arithmetic × List Char) :=
  match fuel with
  | 0 => none
  | fuel + 1 =>
    let prefixed (op : UnaryOp) (r : List Char) : Option (Arithmetic × List Char) :=
      (unary? fuel r).map fun (a, rest) => (.unary op a, rest)
    let stepped (by_ : Int) (r : List Char) : Option (Arithmetic × List Char) :=
      match rich, unary? fuel r with
      | true, some (.variable x, rest) => some (.step x by_ false, rest)
      | true, _ => none
      | false, some (a, rest) => some (a, rest)
      | false, none => none
    match skip cs with
    | '+' :: '+' :: r => stepped 1 r
    | '-' :: '-' :: r => stepped (-1) r
    | '+' :: r => prefixed .plus r
    | '-' :: r => prefixed .minus r
    | '!' :: r => prefixed .not r
    | '~' :: r => prefixed .bitNot r
    | '(' :: r => do
      let (a, r) ← list? fuel r
      match skip r with
      | ')' :: rest => some (a, rest)
      | _ => none
    | c :: r =>
      if c.isDigit then
        let (ds, rest) := (c :: r).span fun c => isNameChar c || c = '#'
        (natural? ds).map fun n => (.number n, rest)
      else
        let (x, rest) := (c :: r).span isNameChar
        let name := String.ofList x
        if x.isEmpty then none
        else match rest with
          | '+' :: '+' :: r => if rich then some (.step name 1 true, r) else some (.variable name, rest)
          | '-' :: '-' :: r => if rich then some (.step name (-1) true, r) else some (.variable name, rest)
          | rest => some (.variable name, rest)
    | [] => none

end

end

/-- The expression that a text spells. -/
def parse (rich : Bool) (cs : List Char) : Option Arithmetic :=
  if (skip cs).isEmpty then some (.number 0)
  else match list? rich (10 * cs.length + 20) cs with
    | some (a, r) => if (skip r).isEmpty then some a else none
    | none => none

/-- The value of the expression that a text spells, and the variables that it sets, the last one
first. -/
def value (rich : Bool) (cs : List Char) (s : Store) : Except Fault (Int × List (String × String)) :=
  match parse rich cs with
  | none => .error .unreadable
  | some a => (eval a s).map fun (n, s) => (n, s.set)

end Arithmetic
end Mend.Shell
