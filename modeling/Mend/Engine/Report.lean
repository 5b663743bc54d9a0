import Mend.Fs.Place
import Mend.Fs.Error
import Mend.Issue

/-!
# Reports and tools

An analyzer gives a report: the issues of a workspace, and when it looked. A build only passes or
fails. Both are tools from outside, which may also fail to run.
-/

namespace Mend

/-- What an analyzer found. -/
structure Report where
  generatedAt : Time
  tool : String := ""
  issues : List Issue
  deriving DecidableEq, Repr, Inhabited

namespace Report

/-- The stored form of a report. -/
def toJson (r : Report) : Json :=
  .obj [("generatedAt", Json.ofTime r.generatedAt), ("tool", .str r.tool),
    ("issues", .arr (r.issues.map Issue.toJson))]

/-- Reads a report. -/
def ofJson? (j : Json) : Option Report := do
  match ← Json.slots ["generatedAt", "tool", "issues"] false j with
  | [generatedAt, tool, issues] =>
    some ⟨← generatedAt.required Json.time?, ← tool.withDefault Json.text? "",
      ← issues.required (Json.list? Issue.ofJson?)⟩
  | _ => none

instance : Stored Report := ⟨toJson, ofJson?⟩

/-- The number of issues. -/
def count (r : Report) : Count := Count.ofNatClamped r.issues.length

/-- The weights of the issues together. -/
def weight (r : Report) : Count := (r.issues.map fun i => i.severity.weight).foldl Count.add 0

/-- The number of issues of a severity. -/
def countAt (r : Report) (s : Severity) : Nat := (r.issues.filter fun i => i.severity = s).length

/-- How many whole seconds old the report is. -/
def age (r : Report) (now : Time) : Int := now.secondsSince r.generatedAt

end Report

/-- What a build came to. A build that a signal ended has no exit code. -/
structure Build where
  passed : Bool
  exitCode : Option Int
  deriving DecidableEq, Repr, Inhabited

/-- Why a tool gave no result. -/
inductive ToolError where
  | noReport (place : Fs.Place)
  | unreadable (place : Fs.Place) (cause : Fs.Error)
  /-- What came from there is no report. -/
  | malformed (origin : String)
  | notStarted (command : String) (cause : Fs.Error)
  /-- The command failed and did not print a report. -/
  | failed (command : String) (exitCode : Option Int)
  deriving DecidableEq, Repr

/-- What stands for the reason why a report cannot be read. -/
def Report.unreadable : String := "no such report"

/-- An exit code, or that there is none. -/
def exitCodeText : Option Int → String
  | some n => "Some(" ++ toString n ++ ")"
  | none => "None"

/-- The words for a failure. -/
def ToolError.message : ToolError → String
  | .noReport p => "report " ++ p.shown ++ " not found"
  | .unreadable p cause => "cannot read " ++ p.shown ++ ": " ++ cause.message
  | .malformed origin => "malformed report from " ++ origin ++ ": " ++ Report.unreadable
  | .notStarted command cause => "cannot run '" ++ command ++ "': " ++ cause.message
  | .failed command code =>
    "'" ++ command ++ "' exited with " ++ exitCodeText code ++ " and no parseable report"

instance : ToString ToolError := ⟨ToolError.message⟩

/-- A program and its arguments. -/
structure Command where
  program : String
  arguments : List String
  deriving DecidableEq, Repr, Inhabited

namespace Command

/-- The command of a list of words, if there is a word. -/
def ofWords? : List String → Option Command
  | [] => none
  | program :: arguments => some ⟨program, arguments⟩

/-- The command of a line with blanks between its words. -/
def parse? (line : String) : Option Command := ofWords? (Text.words line)

/-- The words with spaces between them. -/
def shown (c : Command) : String := String.intercalate " " (c.program :: c.arguments)

end Command
end Mend
