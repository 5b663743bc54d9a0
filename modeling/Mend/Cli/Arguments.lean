import Mend.Count
import Mend.Decimal.Text

/-!
# Command lines

A command takes arguments by name, as `--name`, `--name value` or `--name=value`, and by position; what
follows `--` is never a name. `Grammar.read` reads the words of a command line from left to right, and
an argument is settled as soon as the next one begins, so that the first fault is the one reported.
-/

namespace Mend.Cli

/-- Why a command line is not carried out. -/
inductive Refusal where
  | displayHelp
  | displayVersion
  | nothingAsked
  | missingSubcommand
  | invalidSubcommand
  | unknownArgument
  /-- An argument that needs a value has none. -/
  | emptyValue
  | unreadableValue
  | argumentConflict
  /-- A value is attached to an argument that takes none. -/
  | tooManyValues
  deriving DecidableEq, Repr

/-- What an argument takes. -/
inductive Kind where
  | nothing
  | text
  /-- A text that is not empty. -/
  | path
  /-- A number of sixty-four bits. -/
  | size
  | count
  | number
  deriving DecidableEq, Repr, Inhabited

/-- What an argument was given. -/
inductive Value where
  | given
  | text (s : String)
  | whole (n : Nat)
  | number (x : Float)
  deriving Inhabited

/-- Reads a whole number of digits, which a plus sign may precede. -/
def whole? (s : String) : Option Nat :=
  let digits := match s.toList with
    | '+' :: cs => cs
    | cs => cs
  if !digits.isEmpty && digits.all Char.isDigit then
    some (digits.foldl (fun n c => 10 * n + (c.toNat - 48)) 0)
  else none

/-- Reads a whole number below a bound. A zero may have a minus sign if `signed`. -/
def bounded? (signed : Bool) (bound : Nat) (s : String) : Option Nat :=
  let unsigned := match signed, s.toList with
    | true, '-' :: c :: cs => if c.isDigit then (whole? (String.ofList (c :: cs))).filter (· = 0) else none
    | _, _ => whole? s
  unsigned.filter (· < bound)

/-- Reads a value. -/
def Kind.read (k : Kind) (s : String) : Except Refusal Value :=
  let orRefuse (v : Option Value) : Except Refusal Value :=
    match v with
    | some v => .ok v
    | none => .error .unreadableValue
  match k with
  | .nothing => .ok .given
  | .text => .ok (.text s)
  | .path => if s = "" then .error .emptyValue else .ok (.text s)
  | .size => orRefuse ((bounded? false UInt64.size s).map .whole)
  | .count => orRefuse ((bounded? true UInt32.size s).map .whole)
  | .number => orRefuse ((Decimal.parse s).map .number)

/-- The arguments that a command takes. -/
structure Grammar where
  named : List (String × Kind)
  positional : List (String × Kind)
  /-- The argument that takes all words after `--`. -/
  rest : Option String := none
  /-- Arguments that exclude each other. -/
  exclusive : List (String × String) := []

/-- The arguments that were given, with their values. -/
abbrev Matches := List (String × List Value)

/-- How far a command line has been read. -/
structure Reading where
  found : Matches := []
  /-- The argument that is not settled yet, and its words. -/
  pending : Option (String × Kind × List String) := none
  /-- Names are over. -/
  trailing : Bool := false
  /-- How many positions are taken. -/
  position : Nat := 0

namespace Reading

/-- Settles the pending argument: it has a value, was not given before, and its value can be read. -/
def settle (r : Reading) : Except Refusal Reading :=
  match r.pending with
  | none => .ok r
  | some (name, kind, words) =>
    if words.isEmpty && kind ≠ .nothing then .error .emptyValue
    else if (r.found.lookup name).isSome then .error .argumentConflict
    else match words.mapM kind.read with
      | .error e => .error e
      | .ok values => .ok { r with found := r.found ++ [(name, values)], pending := none }

/-- Begins an argument. -/
def start (r : Reading) (name : String) (kind : Kind) (words : List String) : Except Refusal Reading :=
  match r.settle with
  | .error e => .error e
  | .ok r => .ok { r with pending := some (name, kind, words) }

/-- The pending argument still waits for its value. -/
def waits (r : Reading) : Bool :=
  match r.pending with
  | some (_, kind, words) => kind ≠ .nothing && words.isEmpty
  | none => false

end Reading

namespace Grammar

/-- Reads a word by its position. -/
def place (g : Grammar) (r : Reading) (word : String) : Except Refusal Reading :=
  match r.trailing, g.rest with
  | true, some name =>
    match r.pending with
    | some (n, kind, words) =>
      if n = name then .ok { r with pending := some (n, kind, words ++ [word]) }
      else r.start name .text [word]
    | none => r.start name .text [word]
  | _, _ =>
    match g.positional[r.position]? with
    | some (name, kind) => (r.start name kind [word]).map fun r => { r with position := r.position + 1 }
    | none => .error .unknownArgument

/-- Reads a name, with the value attached to it if there is one. -/
def name (g : Grammar) (r : Reading) (name : String) (value : Option String) : Except Refusal Reading :=
  match g.named.lookup name with
  | none => .error .unknownArgument
  | some kind =>
    match kind, value with
    | .nothing, some _ => .error .tooManyValues
    | .nothing, none => do (← r.start name .nothing []).settle
    | kind, some v => do (← r.start name kind [v]).settle
    | kind, none => r.start name kind []

/-- The name of an argument and the value attached to it. -/
def splitName (cs : List Char) : String × Option String :=
  let (name, rest) := cs.span (· ≠ '=')
  (String.ofList name, match rest with
    | _ :: value => some (String.ofList value)
    | [] => none)

/-- Asks for help, unless what was given before has a fault. -/
def help (r : Reading) : Except Refusal Reading :=
  match r.settle with
  | .error e => .error e
  | .ok _ => .error .displayHelp

/-- Reads a word. -/
def step (g : Grammar) (r : Reading) (word : String) : Except Refusal Reading :=
  if r.trailing then g.place r word
  else match word.toList with
    | ['-', '-'] => .ok { r with trailing := true }
    | '-' :: '-' :: cs =>
      match splitName cs with
      | ("help", none) => help r
      | ("help", some _) => .error .tooManyValues
      | (name, value) => g.name r name value
    | '-' :: 'h' :: _ => help r
    | '-' :: _ :: _ => .error .unknownArgument
    | _ =>
      match r.waits, r.pending with
      | true, some (n, kind, _) => .ok { r with pending := some (n, kind, [word]) }
      | _, _ => g.place r word

/-- Reads the words of a command. -/
def read (g : Grammar) (words : List String) : Except Refusal Matches := do
  let r ← (← words.foldlM g.step {}).settle
  if g.exclusive.any fun (a, b) => (r.found.lookup a).isSome && (r.found.lookup b).isSome then
    throw .argumentConflict
  return r.found

end Grammar

namespace Matches

/-- An argument was given. -/
def has (m : Matches) (name : String) : Bool := (m.lookup name).isSome

/-- The value of an argument. -/
def value? (m : Matches) (name : String) : Option Value := (m.lookup name).bind List.head?

/-- The text of an argument. -/
def text? (m : Matches) (name : String) : Option String :=
  match m.value? name with
  | some (.text s) => some s
  | _ => none

/-- The whole number of an argument. -/
def whole? (m : Matches) (name : String) : Option Nat :=
  match m.value? name with
  | some (.whole n) => some n
  | _ => none

/-- The number of an argument. -/
def number? (m : Matches) (name : String) : Option Float :=
  match m.value? name with
  | some (.number x) => some x
  | _ => none

/-- All texts of an argument. -/
def texts (m : Matches) (name : String) : List String :=
  ((m.lookup name).getD []).filterMap fun
    | .text s => some s
    | _ => none

end Matches
end Mend.Cli
