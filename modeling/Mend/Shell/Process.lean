import Mend.Fs.Action
import Mend.Shell.Syntax
import Mend.Text.Utf8
import Mend.Time

/-!
# Processes

A process has a directory to work in, streams that lead to buffers and files, and the variables and
functions of its script. Texts of a process are texts of bytes. `Halt` leaves a script, a function or a
loop before its end.
-/

namespace Mend.Shell

open Fs (Disk Location Place)
open Text

/-! ## The state -/

/-- Why a process leaves what it is doing. -/
inductive Halt where
  | exited (code : Nat)
  | killed (signal : Nat)
  /-- Leaves as many loops. -/
  | broke (levels : Nat)
  /-- Starts the next turn of a loop, leaving those inside it. -/
  | continued (levels : Nat)
  /-- Leaves a function. -/
  | returned (code : Nat)
  deriving DecidableEq, Repr, Inhabited

/-- Where a stream leads. -/
inductive Channel where
  /-- Nothing can be read, and what is written is lost. -/
  | nowhere
  /-- A text in memory, read from its start and written at its end; `stored` if it is a file's. -/
  | buffer (index : Nat) (stored : Bool)
  /-- The end of a file. -/
  | file (location : Location)
  deriving DecidableEq, Repr, Inhabited

/-- A variable. It may be marked for other programs before it has a value. -/
structure Variable where
  value : Option String := none
  exported : Bool := false
  fixed : Bool := false
  deriving Inhabited

/-- How a shell deals with failures and names. -/
structure Options where
  /-- A failing command ends the process. -/
  strict : Bool := false
  /-- A variable without a value ends the process. -/
  declared : Bool := false
  /-- Patterns are not replaced by names of files. -/
  plainNames : Bool := false
  /-- All variables that are set are for other programs too. -/
  exportAll : Bool := false
  /-- A pipe fails if any of its stages does. -/
  wholePipe : Bool := false
  /-- Redirections empty no file. -/
  keepFiles : Bool := false
  /-- Nothing is run. -/
  readOnly : Bool := false

/-- A process and the disk it works on. -/
structure Process where
  disk : Disk
  here : Location
  now : Time
  dialect : Dialect := .plain
  /-- The streams, by number. -/
  streams : List (Nat × Channel) := []
  /-- The texts in memory. -/
  buffers : Array String := #[]
  vars : List (String × Variable) := []
  functions : List (String × Statement) := []
  /-- What the variables of a function hid, for each function that is running. -/
  hidden : List (List (String × Option Variable)) := []
  /-- The name of the script. -/
  name : String := "sh"
  arguments : List String := []
  /-- The exit code of the last command. -/
  status : Nat := 0
  /-- The exit code of the last script whose output became part of a word. -/
  inner : Nat := 0
  /-- The exit code of a mistake that ends the shell. -/
  fatal : Nat := 2
  /-- The exit code to end with, while the shell does what is to be done at its end. -/
  leaving : Option Nat := none
  options : Options := {}
  /-- The outcome of what is running is looked at, so that its failures do not end the process. -/
  tested : Bool := false
  /-- How many loops are running. -/
  loops : Nat := 0
  /-- What to run on signals and at the end. -/
  traps : List (String × String) := []
  number : Nat := 100
  /-- The process numbers of commands in the background, the last first, and their exit codes. -/
  jobs : List (Nat × Nat) := []
  /-- Options that have been read one by one. -/
  seen : Nat := 0

/-- What a process does. -/
abbrev Act (α : Type) := Action Process Halt α

/-- Leaves what is going on. -/
def halt {α : Type} (h : Halt) : Act α := throw h

/-- Notes the exit code of a command. -/
def finish (code : Nat) : Act Unit := modify fun p => { p with status := code }

/-! ## Variables -/

namespace Process

/-- The value of a variable that has a name. -/
def value? (p : Process) (name : String) : Option String := (p.vars.lookup name).bind (·.value)

/-- Changes a variable. -/
def alter (p : Process) (name : String) (f : Variable → Variable) : Process :=
  let old := (p.vars.lookup name).getD {}
  { p with vars := (name, f old) :: p.vars.filter fun v => v.1 ≠ name }

/-- The process after a variable has been set. -/
def assign (p : Process) (name value : String) : Process :=
  p.alter name fun v => { v with value := some value, exported := v.exported || p.options.exportAll }

/-- The bytes that split values into fields. -/
def separators (p : Process) : String := (p.value? "IFS").getD " \t\n"

/-- The variables that other programs see. -/
def exported (p : Process) : List (String × Variable) := p.vars.filter fun v => v.2.exported

end Process

/-! ## Streams -/

/-- The channel of a stream. -/
def channel? (stream : Nat) : Act (Option Channel) := return (← get).streams.lookup stream

/-- Makes a stream lead elsewhere, or nowhere at all. -/
def setChannel (stream : Nat) (c : Option Channel) : Act Unit :=
  modify fun p =>
    let others := p.streams.filter fun s => s.1 ≠ stream
    { p with streams := match c with
      | some c => (stream, c) :: others
      | none => others }

/-- A new text in memory. -/
def newBuffer (text : String) (stored : Bool) : Act Channel := do
  let p ← get
  set { p with buffers := p.buffers.push text }
  return .buffer p.buffers.size stored

/-- Writes to a channel. -/
def Channel.write (c : Channel) (text : String) : Act Unit :=
  match c with
  | .nowhere => return ()
  | .buffer i _ => modify fun p => { p with buffers := p.buffers.modify i (· ++ text) }
  | .file l => modify fun p =>
    match p.disk.read l with
    | .ok bytes =>
      match p.disk.write l (bytes ++ Octets.toBytes text) with
      | .ok d => { p with disk := d }
      | .error _ => p
    | .error _ => p

/-- Writes to a stream. What is written to a closed one is lost. -/
def write (stream : Nat) (text : String) : Act Unit := do
  match ← channel? stream with
  | some c => c.write text
  | none => return ()

/-- Prints a text. -/
def say (s : String) : Act Unit := write 1 s

/-- Prints a line. -/
def sayLine (s : String) : Act Unit := say (s ++ "\n")

/-- Tells of a failure. -/
def complain (who what : String) : Act Unit := write 2 (who ++ ": " ++ what ++ "\n")

/-- Takes everything that can still be read from a stream. -/
def takeAll (stream : Nat) : Act String := do
  match ← channel? stream with
  | some (.buffer i _) =>
    let p ← get
    set { p with buffers := p.buffers.setIfInBounds i "" }
    return (p.buffers[i]?).getD ""
  | _ => return ""

/-- Takes a line with its end from a stream, or nothing if there is nothing left. -/
def takeLine (stream : Nat) : Act String := do
  match ← channel? stream with
  | some (.buffer i _) =>
    let p ← get
    let (line, rest) := ((p.buffers[i]?).getD "").toList.span (· ≠ '\n')
    let (line, rest) := match rest with
      | c :: rest => (line ++ [c], rest)
      | [] => (line, [])
    set { p with buffers := p.buffers.setIfInBounds i (String.ofList rest) }
    return String.ofList line
  | _ => return ""

/-- Gives back what was taken from a stream. -/
def untake (stream : Nat) (text : String) : Act Unit := do
  match ← channel? stream with
  | some (.buffer i _) => modify fun p => { p with buffers := p.buffers.modify i (text ++ ·) }
  | _ => return ()

/-- Carries out an action and then what undoes it, however the action ends. -/
def ensuring {α : Type} (undo : Act Unit) (act : Act α) : Act α := do
  let r : Except Halt α ← act.outcome
  undo
  match r with
  | .ok a => return a
  | .error h => halt h

/-- Carries out an action with other streams. -/
def withStreams {α : Type} (change : Act Unit) (act : Act α) : Act α := do
  let before := (← get).streams
  ensuring (modify fun p => { p with streams := before }) (do change; act)

/-- Carries out an action and gives what it prints instead of printing it. -/
def printed (act : Act Unit) : Act String := do
  let c ← newBuffer "" false
  withStreams (setChannel 1 (some c)) act
  withStreams (setChannel 0 (some c)) (takeAll 0)

/-! ## Files -/

namespace Process

/-- The location that a path names. -/
def locate (p : Process) (path : String) : Location :=
  let path := Octets.toText path
  if HostPath.isAbsolute path then Place.steps path else p.here ++ Place.steps path

/-- What stands where a path leads. -/
def node? (p : Process) (path : String) : Option Fs.Node :=
  if path.isEmpty then none
  else match p.disk.find (p.locate path) with
    | .ok n => some n
    | .error _ => none

/-- A directory stands where a path leads. -/
def isDir (p : Process) (path : String) : Bool := p.node? path = some .dir

end Process

/-- The file that swallows everything. -/
def nowhere : String := "/dev/null"

/-- The stream that a path names. -/
def streamOf? (path : String) : Option Nat :=
  match path with
  | "/dev/stdin" => some 0
  | "/dev/stdout" => some 1
  | "/dev/stderr" => some 2
  | _ =>
    let start := "/dev/fd/".toList
    if start.isPrefixOf path.toList then (String.ofList (path.toList.drop start.length)).toNat? else none

/-- Opens a file to be read. -/
def openIn (path : String) : Act (Except Fs.Error Channel) := do
  let p ← get
  if path = nowhere then return .ok .nowhere
  else match streamOf? path with
    | some n => return match p.streams.lookup n with
      | some c => .ok c
      | none => .error .notFound
    | none =>
      if path.isEmpty then return .error .notFound
      else match p.disk.read (p.locate path) with
        | .ok bytes => return .ok (← newBuffer (Octets.ofBytes bytes) true)
        | .error e => return .error e

/-- Opens a file to be written, which is emptied unless `append` is set. -/
def openOut (path : String) (append : Bool) : Act (Except Fs.Error Channel) := do
  let p ← get
  if path = nowhere then return .ok .nowhere
  else match streamOf? path with
    | some n => return match p.streams.lookup n with
      | some c => .ok c
      | none => .error .notFound
    | none =>
      if path.isEmpty then return .error .notFound
      let l := p.locate path
      match (if append then p.disk.touch l else p.disk.write l ByteArray.empty) with
      | .error e => return .error e
      | .ok d =>
        set { p with disk := d }
        match d.locate l with
        | .ok l => return .ok (.file l)
        | .error e => return .error e

/-- The text of a file; a path may also name a stream. -/
def readFile (path : String) : Act (Except Fs.Error String) := do
  let p ← get
  if path = nowhere then return .ok ""
  else match streamOf? path with
    | some n => return .ok (← takeAll n)
    | none =>
      if path.isEmpty then return .error .notFound
      else return (p.disk.read (p.locate path)).map Octets.ofBytes

/-- Writes a file. -/
def writeFile (path text : String) : Act (Except Fs.Error Unit) := do
  match ← openOut path false with
  | .ok c =>
    c.write text
    return .ok ()
  | .error e => return .error e

/-- Changes the disk, or gives the reason why it could not be done. -/
def onDisk (change : Disk → Except Fs.Error Disk) : Act (Except Fs.Error Unit) := do
  let p ← get
  match change p.disk with
  | .ok d =>
    set { p with disk := d }
    return .ok ()
  | .error e => return .error e

end Mend.Shell
