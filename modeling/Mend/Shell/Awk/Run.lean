import Mend.Shell.Awk.Value
import Mend.Shell.Utility.Basic

/-!
# Running programs

A run has variables, arrays and the record that is looked at. Every step costs fuel; a run that needs
more than there is ends. Local variables and arrays live in frames, and an array that is handed to a
function is the same array there: arrays have names of their own, to which variables lead.
-/

namespace Mend.Shell.Awk

/-- What a variable is: a value, and the name of its array if it is used as one. -/
structure Slot where
  value : Value
  array : String

/-- The state of a run. -/
structure State where
  globals : List (String × Value) := []
  arrays : List (String × List (String × Value)) := []
  /-- The local variables of the functions that are running, the last function first. -/
  frames : List (List (String × Slot)) := []
  record : String := ""
  fields : Array Value := #[]
  /-- The operands that have not been read. -/
  operands : List String := []
  /-- What is left of the file that is read; none before the first. -/
  input : Option (List Char) := none
  /-- No operand named a file. -/
  onlyInput : Bool := true
  /-- Files and commands that are read, with what is left of them. -/
  readers : List (String × List Char) := []
  writers : List (String × Channel) := []
  /-- Commands that are written to, with what they are to read. -/
  pipes : List (String × String) := []
  /-- Which ranges of records have begun, by the number of their rule. -/
  ranges : List Nat := []
  nextArray : Nat := 0
  seed : Nat := 1

/-- Why a run leaves what it is doing. -/
inductive Jump where
  | next
  | nextFile
  | exit (code : Option Nat)
  | break_
  | continue_
  | return_ (v : Value)
  | failed (what : String)

/-- What a run does. -/
abbrev Run (α : Type) := ExceptT Jump (StateT State Act) α

/-- Does what a process does. -/
def does {α : Type} (act : Act α) : Run α := liftM (m := StateT State Act) (liftM act)

/-- Fails. -/
def fail {α : Type} (what : String) : Run α := throw (.failed what)

/-! ## Variables -/

/-- The value that an array has for a key. -/
def lookupKey (key : String) : List (String × Value) → Option Value
  | [] => none
  | (k, v) :: rest => if k = key then some v else lookupKey key rest

/-- An array with a value for a key; a new key comes last. -/
def putKey (key : String) (v : Value) : List (String × Value) → List (String × Value)
  | [] => [(key, v)]
  | (k, w) :: rest => if k = key then (k, v) :: rest else (k, w) :: putKey key v rest

/-- The value of a global variable. -/
def global (name : String) : Run Value := return ((← get).globals.lookup name).getD .unset

/-- The text of a global variable. -/
def globalText (name : String) : Run String := return (← global name).toText "%.6g"

/-- Sets a global variable. -/
def setGlobal (name : String) (v : Value) : Run Unit :=
  modify fun s => { s with globals := putKey name v s.globals }

/-- The value as text. -/
def text (v : Value) : Run String := return v.toText (← globalText "CONVFMT")

/-- The record with its fields, by the separator of now. -/
def setRecord (r : String) : Run Unit := do
  let fs ← globalText "FS"
  let rs ← globalText "RS"
  let separator : Separator :=
    match fs.toList, rs.isEmpty with
    | [' '], _ => .blanks
    | cs, true =>
      let body := match cs with
        | [c] => ['[', c, ']']
        | cs => cs
      match regularOf? (body ++ "|\n".toList) with
      | some r => .regular r
      | none => .blanks
    | _, false => .ofText fs
  modify fun s => { s with record := r, fields := ((separator.cut r).map Value.ofInput).toArray }

/-- Puts the record together from its fields. -/
def joinFields : Run Unit := do
  let ofs ← globalText "OFS"
  let fs ← (← get).fields.toList.mapM text
  modify fun s => { s with record := String.intercalate ofs fs }

/-- The value of a field. -/
def getField (i : Int) : Run Value := do
  let s ← get
  if i < 0 then fail "attempt to access field -1"
  else if i = 0 then return .ofInput s.record
  else return (s.fields[i.toNat - 1]?).getD .unset

/-- Fields up to a number of them. -/
def grownTo (n : Nat) (fs : Array Value) : Array Value :=
  (fs.toList ++ List.replicate (n - fs.size) (Value.text "")).toArray

/-- Sets a field. -/
def setField (i : Int) (v : Value) : Run Unit := do
  if i < 0 then fail "attempt to access field -1"
  else if i = 0 then setRecord (← text v)
  else
    let n := i.toNat
    modify fun s => { s with fields := (grownTo n s.fields).setIfInBounds (n - 1) v }
    joinFields

/-- The value of a variable. -/
def getVariable (name : String) : Run Value := do
  let s ← get
  match (s.frames.headD []).lookup name with
  | some slot => return slot.value
  | none => if name = "NF" then return .ofNat s.fields.size else global name

/-- Sets a variable. -/
def setVariable (name : String) (v : Value) : Run Unit := do
  let s ← get
  match s.frames with
  | frame :: rest =>
    match frame.lookup name with
    | some slot =>
      set { s with frames := (frame.map fun (f : String × Slot) => if f.1 = name then (name, { slot with value := v }) else f) :: rest }
    | none => outside s
  | [] => outside s
where
  /-- Sets a variable that is no local one. -/
  outside (s : State) : Run Unit := do
    if name = "NF" then
      let n := (truncated v.toNumber).toNat
      set { s with fields := ((grownTo n s.fields).toList.take n).toArray }
      joinFields
    else setGlobal name v

/-- The name of the array that a variable is. -/
def arrayName (name : String) : Run String := do
  match ((← get).frames.headD []).lookup name with
  | some slot => return slot.array
  | none => return name

/-- An array, by its name. -/
def getArray (id : String) : Run (List (String × Value)) := return ((← get).arrays.lookup id).getD []

/-- Changes an array. -/
def alterArray (id : String) (f : List (String × Value) → List (String × Value)) : Run Unit := do
  let old ← getArray id
  modify fun s => { s with arrays := (id, f old) :: s.arrays.filter fun a => a.1 ≠ id }

/-! ## Reading and printing -/

/-- The next record of the program's input. Operands that set variables are carried out on the way;
`fuel` is more than their number. -/
def nextRecord : Nat → Run (Option String)
  | 0 => return none
  | fuel + 1 => do
    let s ← get
    match s.input with
    | some cs =>
      match takeRecord (← globalText "RS") cs with
      | some (r, rest) =>
        modify fun s => { s with input := some rest }
        setGlobal "NR" (.number ((← global "NR").toNumber + 1))
        setGlobal "FNR" (.number ((← global "FNR").toNumber + 1))
        return some (String.ofList r)
      | none =>
        modify fun s => { s with input := none }
        nextRecord fuel
    | none =>
      match s.operands with
      | [] =>
        if s.onlyInput then
          let all ← does (takeAll 0)
          set { s with onlyInput := false, input := some all.toList }
          setGlobal "FNR" (.number 0)
          nextRecord fuel
        else return none
      | o :: rest =>
        set { s with operands := rest }
        match settingName? .plain o.toList with
        | some (name, _, v) =>
          setVariable name (.ofInput (String.ofList ((string? 0 (v ++ ['"'])).elim v (·.1))))
          nextRecord fuel
        | none =>
          match ← does (readSource o) with
          | .ok t =>
            modify fun s => { s with input := some t.toList, onlyInput := false }
            setGlobal "FILENAME" (.text o)
            setGlobal "FNR" (.number 0)
            nextRecord fuel
          | .error e => fail ("cannot open " ++ o ++ " (" ++ e.words ++ ")")

/-- Reads the next record of the input. -/
def readRecord : Run (Option String) := do nextRecord ((← get).operands.length + 3)

/-- A record from a file or from what a command prints; none at the end, an error if it cannot be read. -/
def readFrom (key : String) (open_ : Run (Option String)) : Run (Except Unit (Option String)) := do
  let s ← get
  let start : Option (List Char) ← match s.readers.lookup key with
    | some cs => pure (some cs)
    | none => do pure ((← open_).map String.toList)
  match start with
  | none => return .error ()
  | some cs =>
    let (r, rest) := match takeRecord (← globalText "RS") cs with
      | some (r, rest) => (some (String.ofList r), rest)
      | none => (none, [])
    modify fun s => { s with readers := (key, rest) :: s.readers.filter fun x => x.1 ≠ key }
    return .ok r

/-- Writes a text where it goes to. -/
def writeTo (sink : Option (Sink × String)) (s : String) : Run Unit := do
  match sink with
  | none => does (say s)
  | some (.command, name) =>
    modify fun st => { st with pipes := (name, ((st.pipes.lookup name).getD "") ++ s) :: st.pipes.filter fun p => p.1 ≠ name }
  | some (.file append, name) =>
    match (← get).writers.lookup name with
    | some c => does (c.write s)
    | none =>
      let opened ← does (if name = "-" then openOut "/dev/stdout" true else openOut name append)
      match opened with
      | .ok c =>
        modify fun st => { st with writers := (name, c) :: st.writers }
        does (c.write s)
      | .error e => fail ("cannot open \"" ++ name ++ "\" for output (" ++ e.words ++ ")")

/-- Runs a command of the shell with something to read. -/
def runCommand (launch : Launcher) (command input : String) : Act Nat := do
  let c ← newBuffer input false
  withStreams (setChannel 0 (some c)) (return (← launch ["sh", "-c", command]).getD 127)

/-- Closes a file or a command. -/
def close (launch : Launcher) (name : String) : Run Value := do
  let s ← get
  let known := (s.readers.lookup name).isSome || (s.writers.lookup name).isSome
  modify fun s => { s with
    readers := s.readers.filter fun x => x.1 ≠ name
    writers := s.writers.filter fun x => x.1 ≠ name }
  match s.pipes.lookup name with
  | some t =>
    modify fun s => { s with pipes := s.pipes.filter fun x => x.1 ≠ name }
    return .ofNat (← does (runCommand launch name t))
  | none => return .number (if known then 0 else -1)

/-! ## Functions of the language -/

/-- What a format makes of values. -/
def formatted (format : String) (vs : List Value) : Run String := do
  let convfmt ← globalText "CONVFMT"
  let step (acc : String × List Value) (d : Directive) : String × List Value :=
    match d with
    | .text cs => (acc.1 ++ String.ofList cs, acc.2)
    | .value l starWidth starPrecision letter =>
      let (l, vs) := if starWidth then
          let n := truncated (acc.2.headD .unset).toNumber
          ({ l with width := n.natAbs, left := l.left || decide (n < 0) }, acc.2.tail)
        else (l, acc.2)
      let (l, vs) := if starPrecision then
          ({ l with precision := some (truncated (vs.headD .unset).toNumber).toNat }, vs.tail)
        else (l, vs)
      let v := vs.headD .unset
      let x := v.toNumber
      let shown :=
        if letter = 'd' || letter = 'i' then l.signed (truncated x)
        else if "ouxX".toList.contains letter then l.unsigned letter (truncated x)
        else if "feEgGF".toList.contains letter then l.float letter x
        else if letter = 'c' then
          l.string (match v with
            | .number x => (Char.ofNat ((truncated x).toNat % 256)).toString
            | .numeric _ x => (Char.ofNat ((truncated x).toNat % 256)).toString
            | v => String.ofList ((v.toText convfmt).toList.take 1))
        else if letter = 's' then l.string (v.toText convfmt)
        else "%" ++ letter.toString
      (acc.1 ++ shown, vs.tail)
  return ((Directive.readAll (format.length + 1) format.toList).foldl step ("", vs)).1

/-- A part of a text: `count` bytes from a place on, both rounded, as much of it as there is. -/
def substring (s : String) (start : Float) (count : Option Float) : String :=
  let rounded (x : Float) : Int := truncated (if x < 0 then x - 0.5 else x + 0.5)
  let a := rounded start
  let cs := s.toList
  let stop : Int := match count with
    | some n => a + rounded n
    | none => cs.length + 1
  let from_ := max a 1
  if stop ≤ from_ then "" else String.ofList ((cs.drop (from_.toNat - 1)).take (stop - from_).toNat)

/-- Where a text stands in another, counted from one; zero if it does not. -/
def indexOf (s t : String) : Nat :=
  let cs := s.toList
  ((List.range (cs.length + 1)).find? fun i => t.toList.isPrefixOf (cs.drop i)).elim 0 (· + 1)

/-- The next of the numbers that look random. -/
def nextRandom (seed : Nat) : Nat := (seed * 1103515245 + 12345) % 2147483648

mutual

/-- The value of an expression. -/
def eval (launch : Launcher) (p : Program) (fuel : Nat) (e : Expr) : Run Value :=
  match fuel with
  | 0 => fail "no more steps"
  | fuel + 1 =>
    match e with
    | .number x => return .number x
    | .string s => return .text s
    | .regular r => return .ofBool (r.matchesIn false (← get).record.toList)
    | .variable n => getVariable n
    | .group a => eval launch p fuel a
    | .field i => do getField (truncated (← eval launch p fuel i).toNumber)
    | .element a ks => do
      let key ← keyOf launch p fuel ks
      let id ← arrayName a
      match lookupKey key (← getArray id) with
      | some v => return v
      | none =>
        alterArray id (putKey key .unset)
        return .unset
    | .assign t op a => do
      let v ← match op with
        | none => do
          match ← eval launch p fuel a with
          | .unset => pure (Value.text "")
          | v => pure v
        | some op => do
          let y := (← eval launch p fuel a).toNumber
          let x := (← eval launch p fuel t).toNumber
          match op.apply x y with
          | some z => pure (.number z)
          | none => fail "division by zero"
      store launch p fuel t v
      return v
    | .step t up old => do
      let x := (← eval launch p fuel t).toNumber
      let y := if up then x + 1 else x - 1
      store launch p fuel t (.number y)
      return .number (if old then x else y)
    | .choice t a b => do if (← eval launch p fuel t).isTrue then eval launch p fuel a else eval launch p fuel b
    | .both a b => do
      if (← eval launch p fuel a).isTrue then return .ofBool (← eval launch p fuel b).isTrue else return .ofBool false
    | .either a b => do
      if (← eval launch p fuel a).isTrue then return .ofBool true else return .ofBool (← eval launch p fuel b).isTrue
    | .not a => do return .ofBool !(← eval launch p fuel a).isTrue
    | .minus a => do return .number (-(← eval launch p fuel a).toNumber)
    | .plus a => do return .number (← eval launch p fuel a).toNumber
    | .member ks a => do
      let key ← keyOf launch p fuel ks
      return .ofBool (lookupKey key (← getArray (← arrayName a))).isSome
    | .matched a b negated => do
      let s ← text (← eval launch p fuel a)
      let r ← regularOf launch p fuel b
      return .ofBool (r.matchesIn false s.toList != negated)
    | .compare k a b => do
      let x ← eval launch p fuel a
      let y ← eval launch p fuel b
      return .ofBool (k.holds (x.compare (← globalText "CONVFMT") y))
    | .arithmetic op a b => do
      let x := (← eval launch p fuel a).toNumber
      let y := (← eval launch p fuel b).toNumber
      match op.apply x y with
      | some z => return .number z
      | none => fail "division by zero"
    | .concat a b => do
      let x ← text (← eval launch p fuel a)
      let y ← text (← eval launch p fuel b)
      return .text (x ++ y)
    | .call n args =>
      if builtins.contains n then builtin launch p fuel n args
      else match p.functions.find? fun f => f.name = n with
        | some f => invoke launch p fuel f args
        | none => fail ("function " ++ n ++ " not defined")
    | .getline source name target => do
      let got : Except Unit (Option String) ← match source, name with
        | .file, some f => do
          let f ← text (← eval launch p fuel f)
          readFrom f (do
            match ← does (readSource f) with
            | .ok t => return some t
            | .error _ => return none)
        | .command, some c => do
          let c ← text (← eval launch p fuel c)
          readFrom c (do
            return some (← does (printed (do let _ ← launch ["sh", "-c", c]))))
        | _, _ => do pure (.ok (← readRecord))
      match got with
      | .error () => return .number (-1)
      | .ok none => return .number 0
      | .ok (some r) =>
        match target with
        | some t => store launch p fuel t (.ofInput r)
        | none => setRecord r
        if source = .command then setGlobal "NR" (.number ((← global "NR").toNumber + 1))
        return .number 1

/-- The key that expressions name. -/
def keyOf (launch : Launcher) (p : Program) (fuel : Nat) (ks : List Expr) : Run String :=
  match fuel with
  | 0 => fail "no more steps"
  | fuel + 1 => do
    let parts ← ks.mapM fun k => do text (← eval launch p fuel k)
    return String.intercalate (← globalText "SUBSEP") parts

/-- The regular expression that an expression is. -/
def regularOf (launch : Launcher) (p : Program) (fuel : Nat) (e : Expr) : Run Posix.Regular :=
  match fuel with
  | 0 => fail "no more steps"
  | fuel + 1 =>
    match e with
    | .regular r => return r
    | e => do
      let s ← text (← eval launch p fuel e)
      match regularOf? s.toList with
      | some r => return r
      | none => fail ("regular expression compile failed: " ++ s)

/-- Sets what an expression names. -/
def store (launch : Launcher) (p : Program) (fuel : Nat) (t : Expr) (v : Value) : Run Unit :=
  match fuel with
  | 0 => fail "no more steps"
  | fuel + 1 =>
    match t with
    | .variable n => setVariable n v
    | .field i => do setField (truncated (← eval launch p fuel i).toNumber) v
    | .element a ks => do
      let key ← keyOf launch p fuel ks
      alterArray (← arrayName a) (putKey key v)
    | .group t => store launch p fuel t v
    | _ => fail "not assignable"

/-- Carries out a function of the program. -/
def invoke (launch : Launcher) (p : Program) (fuel : Nat) (f : Function) (args : List Expr) : Run Value :=
  match fuel with
  | 0 => fail "no more steps"
  | fuel + 1 => do
    let slots ← args.mapM fun a => do
      match a with
      | .variable n => return (⟨← getVariable n, ← arrayName n⟩ : Slot)
      | a =>
        let v ← eval launch p fuel a
        let s ← get
        set { s with nextArray := s.nextArray + 1 }
        return ⟨v, "#" ++ toString s.nextArray⟩
    let s ← get
    let missing := f.parameters.length - slots.length
    let fresh : List Slot := (List.range missing).map fun i => ⟨.unset, "#" ++ toString (s.nextArray + i)⟩
    set { s with nextArray := s.nextArray + missing, frames := (f.parameters.zip (slots ++ fresh)) :: s.frames }
    let leave : Run Unit := modify fun s => { s with
      frames := s.frames.tail
      arrays := s.arrays.filter fun a => !(fresh.any fun x => x.array = a.1) }
    try
      statements launch p fuel f.body
      leave
      return .unset
    catch j =>
      leave
      match j with
      | .return_ v => return v
      | j => throw j

/-- Carries out a function of the language. -/
def builtin (launch : Launcher) (p : Program) (fuel : Nat) (n : String) (args : List Expr) : Run Value :=
  match fuel with
  | 0 => fail "no more steps"
  | fuel + 1 => do
    let value (i : Nat) : Run Value :=
      match args[i]? with
      | some e => eval launch p fuel e
      | none => return .unset
    let string (i : Nat) : Run String := do text (← value i)
    let number (f : Float → Float) : Run Value := do return .number (f (← value 0).toNumber)
    match n with
    | "length" =>
      match args with
      | [] => return .ofNat (← get).record.length
      | [.variable a] =>
        let entries ← getArray (← arrayName a)
        if entries.isEmpty then return .ofNat (← string 0).length else return .ofNat entries.length
      | _ => return .ofNat (← string 0).length
    | "substr" => do
      let s ← string 0
      let a ← value 1
      let n ← match args[2]? with
        | some e => do pure (some (← eval launch p fuel e).toNumber)
        | none => pure none
      return .text (substring s a.toNumber n)
    | "index" => do return .ofNat (indexOf (← string 0) (← string 1))
    | "split" => do
      let s ← string 0
      let separator : Separator ← match (args[2]? : Option Expr) with
        | some (.regular r) => pure (.regular r)
        | some e => do pure (.ofText (← text (← eval launch p fuel e)))
        | none => do pure (.ofText (← globalText "FS"))
      match (args[1]? : Option Expr) with
      | some (.variable a) =>
        let pieces := separator.cut s
        let entries := pieces.zipIdx.map fun (t, i) => (toString (i + 1), Value.ofInput t)
        alterArray (← arrayName a) fun _ => entries
        return .ofNat pieces.length
      | _ => fail "split: second argument is no array"
    | "sub" => substitute launch p fuel false args
    | "gsub" => substitute launch p fuel true args
    | "match" => do
      let s ← string 0
      let r ← regularOf launch p fuel (args[1]?.getD (.string ""))
      let (start, length) := match (r.find ⟨s.toList.toArray, false⟩ 0).bind fun m => m.groups.lookup 0 with
        | some (a, b) => (((a + 1 : Nat) : Int), ((b - a : Nat) : Int))
        | none => (0, -1)
      setGlobal "RSTART" (.number (ofInt start))
      setGlobal "RLENGTH" (.number (ofInt length))
      return .number (ofInt start)
    | "sprintf" => do
      let vs ← args.mapM (eval launch p fuel)
      return .text (← formatted (← text (vs.headD .unset)) vs.tail)
    | "tolower" => do return .text (String.ofList ((← string 0).toList.map Char.toLower))
    | "toupper" => do return .text (String.ofList ((← string 0).toList.map Char.toUpper))
    | "sin" => number Float.sin
    | "cos" => number Float.cos
    | "exp" => number Float.exp
    | "log" => number Float.log
    | "sqrt" => number Float.sqrt
    | "int" => number fun x => ofInt (truncated x)
    | "atan2" => do
      let y ← value 0
      let x ← value 1
      return .number (Float.atan2 y.toNumber x.toNumber)
    | "rand" => do
      let s ← get
      let r := nextRandom s.seed
      set { s with seed := r }
      return .number (r.toFloat / 2147483648.0)
    | "srand" => do
      let x ← value 0
      let s ← get
      set { s with seed := (truncated x.toNumber).toNat }
      return .ofNat s.seed
    | "systime" => do return .number (ofInt (← does (return (← get).now.seconds)))
    | "system" => do
      let c ← string 0
      return .ofNat (← does (return (← launch ["sh", "-c", c]).getD 127))
    | "close" => do close launch (← string 0)
    | _ => return .number 0

/-- Replaces matches in the record or in another target, and gives their number. -/
def substitute (launch : Launcher) (p : Program) (fuel : Nat) (all : Bool) (args : List Expr) : Run Value :=
  match fuel with
  | 0 => fail "no more steps"
  | fuel + 1 => do
    let r ← regularOf launch p fuel (args[0]?.getD (.string ""))
    let replacement ← text (← eval launch p fuel (args[1]?.getD (.string "")))
    let target := args[2]?.getD (.field (.number 0))
    let cs := (← text (← eval launch p fuel target)).toList.toArray
    let found := r.findAll ⟨cs, false⟩
    let found := if all then found else found.take 1
    if !found.isEmpty then
      let s := String.ofList (replaceAll cs replacement.toList 0 found)
      store launch p fuel target (.text s)
    return .ofNat found.length

/-- Where a text is printed to. -/
def sinkOf (launch : Launcher) (p : Program) (fuel : Nat) (s : Option (Sink × Expr)) : Run (Option (Sink × String)) :=
  match fuel with
  | 0 => fail "no more steps"
  | fuel + 1 =>
    match s with
    | none => return none
    | some (k, e) => do return some (k, ← text (← eval launch p fuel e))

/-- Carries out statements in their order. -/
def statements (launch : Launcher) (p : Program) (fuel : Nat) (ss : List Stmt) : Run Unit :=
  match fuel with
  | 0 => fail "no more steps"
  | fuel + 1 =>
    match ss with
    | [] => return ()
    | s :: rest => do
      statement launch p fuel s
      statements launch p fuel rest

/-- Carries out the body of a loop, and tells whether the loop goes on. -/
def turn (launch : Launcher) (p : Program) (fuel : Nat) (body : Stmt) : Run Bool :=
  match fuel with
  | 0 => fail "no more steps"
  | fuel + 1 => do
    try
      statement launch p fuel body
      return true
    catch j =>
      match j with
      | .break_ => return false
      | .continue_ => return true
      | j => throw j

/-- Carries out a body for each key that an array still has. -/
def overKeys (launch : Launcher) (p : Program) (fuel : Nat) (name id : String) (body : Stmt) (keys : List String) :
    Run Unit :=
  match fuel with
  | 0 => fail "no more steps"
  | fuel + 1 =>
    match keys with
    | [] => return ()
    | k :: rest => do
      if (lookupKey k (← getArray id)).isNone then overKeys launch p fuel name id body rest
      else
        setVariable name (.ofInput k)
        if ← turn launch p fuel body then overKeys launch p fuel name id body rest

/-- Carries out a statement. -/
def statement (launch : Launcher) (p : Program) (fuel : Nat) (s : Stmt) : Run Unit :=
  match fuel with
  | 0 => fail "no more steps"
  | fuel + 1 =>
    match s with
    | .expr e => do
      let _ ← eval launch p fuel e
    | .print es sink => do
      let vs ← es.mapM (eval launch p fuel)
      let ofmt ← globalText "OFMT"
      let line ← if es.isEmpty then pure (← get).record
        else do pure (String.intercalate (← globalText "OFS") (vs.map fun v => v.toText ofmt))
      let sink ← sinkOf launch p fuel sink
      writeTo sink (line ++ (← globalText "ORS"))
    | .printf es sink => do
      let vs ← es.mapM (eval launch p fuel)
      let t ← formatted (← text (vs.headD .unset)) vs.tail
      let sink ← sinkOf launch p fuel sink
      writeTo sink t
    | .block body => statements launch p fuel body
    | .choose t yes no => do
      if (← eval launch p fuel t).isTrue then statement launch p fuel yes
      else match no with
        | some no => statement launch p fuel no
        | none => return ()
    | .loop t body step => do
      let goes ← match t with
        | some t => do pure (← eval launch p fuel t).isTrue
        | none => pure true
      if goes then
        if ← turn launch p fuel body then
          match step with
          | some st => statement launch p fuel st
          | none => pure ()
          statement launch p fuel (.loop t body step)
    | .loopAfter body t => do
      if ← turn launch p fuel body then
        if (← eval launch p fuel t).isTrue then statement launch p fuel (.loopAfter body t)
    | .each n a body => do
      let id ← arrayName a
      overKeys launch p fuel n id body ((← getArray id).map (·.1))
    | .delete a ks => do
      let id ← arrayName a
      if ks.isEmpty then alterArray id fun _ => []
      else
        let key ← keyOf launch p fuel ks
        alterArray id fun entries => entries.filter fun e => e.1 ≠ key
    | .break_ => throw .break_
    | .continue_ => throw .continue_
    | .next => throw .next
    | .nextFile => throw .nextFile
    | .exit code => do
      match code with
      | some e => throw (.exit (some ((truncated (← eval launch p fuel e).toNumber) % 256).toNat))
      | none => throw (.exit none)
    | .return_ v => do
      match v with
      | some e => throw (.return_ (← eval launch p fuel e))
      | none => throw (.return_ .unset)

end

/-! ## Programs -/

/-- The steps that a program may nest. -/
def enough : Nat := 1000000

/-- Whether a rule with a number is for the record. -/
def applies (launch : Launcher) (p : Program) (i : Nat) : Pattern → Run Bool
  | .start => return false
  | .finish => return false
  | .all => return true
  | .one e => do return (← eval launch p enough e).isTrue
  | .range a b => do
    let s ← get
    if s.ranges.contains i || (← eval launch p enough a).isTrue then
      let ends := (← eval launch p enough b).isTrue
      modify fun s => { s with ranges := if ends then s.ranges.filter (· ≠ i) else i :: s.ranges.filter (· ≠ i) }
      return true
    else return false

/-- Carries out the action of a rule. -/
def act (launch : Launcher) (p : Program) (r : Rule) : Run Unit :=
  match r.action with
  | some body => statements launch p enough body
  | none => statement launch p enough (.print [] none)

/-- Carries out the rules for the record. -/
def onRecord (launch : Launcher) (p : Program) : Run Unit :=
  p.rules.zipIdx.forM fun (r, i) => do
    if ← applies launch p i r.pattern then act launch p r

/-- Carries out the rules for every record; `fuel` is more than their number. -/
def onRecords (launch : Launcher) (p : Program) : Nat → Run Unit
  | 0 => return ()
  | fuel + 1 => do
    match ← readRecord with
    | none => return ()
    | some r =>
      setRecord r
      try onRecord launch p
      catch j =>
        match j with
        | .next => pure ()
        | .nextFile => modify fun s => { s with input := none }
        | j => throw j
      onRecords launch p fuel

/-- Whether a rule is for the start, or for the end. -/
def Pattern.isStart : Pattern → Bool
  | .start => true
  | _ => false

/-- The rule is for the end. -/
def Pattern.isFinish : Pattern → Bool
  | .finish => true
  | _ => false

/-- Runs commands that were written to, and gives the exit code. -/
def shutDown (launch : Launcher) (code : Nat) : Run Nat := do
  for (name, t) in (← get).pipes.reverse do
    let _ ← does (runCommand launch name t)
  return code

/-- Runs a program and gives its exit code. -/
def whole (launch : Launcher) (p : Program) : Run Nat := do
  let starts := p.rules.filter fun r => r.pattern.isStart
  let ends := p.rules.filter fun r => r.pattern.isFinish
  let asCode (act : Run Unit) : Run (Option (Option Nat)) := do
    try
      act
      return none
    catch j =>
      match j with
      | .exit c => return some c
      | .failed w => throw (.failed w)
      | _ => return none
  let first ← asCode (starts.forM (act launch p))
  let second ← match first with
    | some c => pure (some c)
    | none =>
      if starts.length = p.rules.length then pure none
      else asCode (onRecords launch p enough)
  match first, second with
  | none, second => do
    let third ← asCode (ends.forM (act launch p))
    let code := match third with
      | some (some c) => c
      | _ => (second.getD none).getD 0
    shutDown launch code
  | some c, _ => do
    let third ← asCode (ends.forM (act launch p))
    shutDown launch (match third with
      | some (some c) => c
      | _ => c.getD 0)

/-- The variables before a program begins. -/
def initial (p : Process) (operands : List String) (settings : List (String × Value)) : State :=
  let environment := p.exported.filterMap fun (n, v) => v.value.map fun s => (n, Value.ofInput s)
  let arguments := ("awk" :: operands).zipIdx.map fun (w, i) => (toString i, Value.ofInput w)
  { globals := settings ++
      [("FS", .text " "), ("OFS", .text " "), ("ORS", .text "\n"), ("RS", .text "\n"), ("SUBSEP", .text "\x1c"),
        ("CONVFMT", .text "%.6g"), ("OFMT", .text "%.6g"), ("NR", .number 0), ("FNR", .number 0),
        ("ARGC", .ofNat (operands.length + 1)), ("RSTART", .number 0), ("RLENGTH", .number (-1)),
        ("FILENAME", .text "")]
    arrays := [("ENVIRON", environment), ("ARGV", arguments)]
    operands := operands }

/-- A text with its escapes replaced. -/
def escaped (s : String) : String := ((string? 0 (s.toList ++ ['"'])).map fun r => String.ofList r.1).getD s

/-- Runs a program on files or the input. -/
def utility (launch : Launcher) : Utility :=
  withOptions "awk" { valued := "Fvf", early := true } 2 fun g => do
  let settings := (g.values 'v').filterMap fun s =>
    (settingName? .plain s.toList).map fun (n, _, v) => (n, Value.ofInput (escaped (String.ofList v)))
  let separator := (g.value? 'F').map fun s => ("FS", Value.text (if s = "t" then "\t" else escaped s))
  let sources ← (g.values 'f').mapM fun f => do
    match ← readSource f with
    | .ok t => return some t
    | .error _ => return none
  match sources.isEmpty, sources.mapM id, g.operands with
  | _, none, _ =>
    complain "awk" ("couldn't open file " ++ (g.value? 'f').getD "")
    return 2
  | true, _, [] =>
    write 2 "Usage: awk [-F value] [-v var=value] [--] 'program text' [file ...]\n"
    return 2
  | fromOperand, some texts, operands =>
    let source := if fromOperand then operands.headD "" else String.intercalate "\n" texts
    let operands := if fromOperand then operands.tail else operands
    match parse source with
    | none =>
      complain "awk" "line 1: syntax error at or near end of line"
      return 2
    | some program =>
      let start := initial (← get) operands (separator.toList ++ settings.reverse)
      match ← ((whole launch program).run start) with
      | (.ok code, _) => return code
      | (.error (.failed w), _) =>
        complain "awk" w
        return 2
      | (.error _, _) => return 2

end Mend.Shell.Awk
