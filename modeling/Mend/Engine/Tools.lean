import Mend.Engine.Error
import Mend.Fs.Disk

/-!
# Tools from outside

An analyzer and a build are given the disk, may change it, take time, and come to a result or cannot
be run. They are a file with a report, or commands; how a command runs is left open.
-/

namespace Mend

/-- What running a tool came to. -/
structure Answer (α : Type) where
  result : Except ToolError α
  /-- The disk that the tool left. -/
  disk : Fs.Disk
  /-- How many milliseconds it took. -/
  millis : Nat := 0

/-- How a command ended. -/
inductive Ending where
  | exited (code : Nat)
  /-- A signal ended it. -/
  | signalled
  deriving DecidableEq, Repr, Inhabited

namespace Ending

/-- The command ended well. -/
def succeeded (e : Ending) : Bool := e = .exited 0

/-- The exit code, if there is one. -/
def code? : Ending → Option Int
  | .exited n => some n
  | .signalled => none

end Ending

/-- What running a command came to. -/
structure Finished where
  ending : Ending
  /-- What it printed. -/
  output : ByteArray
  disk : Fs.Disk

/-- How commands run in a directory. -/
abbrev Runner := Command → Fs.Place → Fs.Disk → Except Fs.Error Finished

/-- The tools of a cycle. -/
structure Tools where
  /-- Looks at the disk; told how often it has run. -/
  analyze : Nat → Fs.Disk → Answer Report
  build : Fs.Disk → Answer Build

namespace Tools

/-- The report in a file. -/
def reportFile (p : Fs.Place) (d : Fs.Disk) : Answer Report :=
  let result := match d.read p.location with
    | .error .notFound => .error (.noReport p)
    | .error e => .error (.unreadable p e)
    | .ok content =>
      match (Stored.ofBytes? content : Option Report) with
      | some r => .ok r
      | none => .error (.malformed p.shown)
  ⟨result, d, 0⟩

/-- The report that a command prints. How it exits does not matter if the report can be read. -/
def reportCommand (run : Runner) (workspace : Fs.Place) (c : Command) (d : Fs.Disk) : Answer Report :=
  match run c workspace d with
  | .error e => ⟨.error (.notStarted c.shown e), d, 0⟩
  | .ok f =>
    let result := match (Stored.ofBytes? f.output : Option Report) with
      | some r => .ok r
      | none =>
        if f.ending.succeeded then .error (.malformed c.shown)
        else .error (.failed c.shown f.ending.code?)
    ⟨result, f.disk, 0⟩

/-- The build that a command does. -/
def buildCommand (run : Runner) (workspace : Fs.Place) (c : Command) (d : Fs.Disk) : Answer Build :=
  match run c workspace d with
  | .error e => ⟨.error (.notStarted c.shown e), d, 0⟩
  | .ok f => ⟨.ok ⟨f.ending.succeeded, f.ending.code?⟩, f.disk, 0⟩

/-- The tools that a configuration names. There has to be a command for the build. -/
def ofConfig (run : Runner) (workspace : Fs.Place) (c : Config) : Except Config.Error Tools :=
  let analyze : Fs.Disk → Answer Report :=
    match c.analysis.command.bind Command.ofWords? with
    | some command => reportCommand run workspace command
    | none => reportFile (workspace.join c.analysis.reportPath)
  match c.buildCommand.bind Command.ofWords? with
  | some command => .ok ⟨fun _ => analyze, buildCommand run workspace command⟩
  | none => .error (.invalid "build.command" "a build command is required to verify changes")

end Tools
end Mend
