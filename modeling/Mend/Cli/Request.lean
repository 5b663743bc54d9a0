import Mend.Cli.Arguments
import Mend.Config.Basic
import Mend.Text.Blank

/-!
# Requests

What the program is asked for: a task in a workspace.
-/

namespace Mend.Cli

/-- What the arguments of a run set in place of the configuration. -/
structure Overrides where
  maxFiles : Option Nat := none
  maxLines : Option Count := none
  minScore : Option Float := none
  report : Option String := none
  /-- None if empty. -/
  buildCommand : List String := []

/-- The configuration with overrides. -/
def Overrides.apply (o : Overrides) (c : Config) : Config :=
  { c with
    maxFiles := o.maxFiles.getD c.maxFiles
    maxLines := o.maxLines.getD c.maxLines
    minScore := o.minScore.getD c.minScore
    analysis := { c.analysis with reportPath := o.report.getD c.analysis.reportPath }
    buildCommand := if o.buildCommand.isEmpty then c.buildCommand else some o.buildCommand }

/-- What is to be done. -/
inductive Task where
  | run (overrides : Overrides) (json : Bool)
  | verifyChain
  /-- None for the newest snapshot. -/
  | restore (snapshot : Option String)
  /-- A recipe and whether it is to be disabled, or only the list. -/
  | trust (change : Option (String × Bool))
  | snapshots

/-- The name of a task's subcommand. -/
def Task.name : Task → String
  | .run _ _ => "run"
  | .verifyChain => "verify-chain"
  | .restore _ => "restore"
  | .trust _ => "trust"
  | .snapshots => "snapshots"

/-- A task in a workspace. -/
structure Request where
  workspace : String
  logJson : Bool
  task : Task

/-- The arguments of a subcommand beside those that all of them take. -/
def grammar (named : List (String × Kind)) (rest : Option String) (exclusive : List (String × String)) :
    Grammar :=
  ⟨("log-json", .nothing) :: named, [("workspace", .path)], rest, exclusive⟩

/-- The subcommands: their arguments, and the task that they stand for. -/
def subcommands : List (String × Grammar × (Matches → Task)) :=
  [("run",
      grammar [("max-files", .size), ("max-loc-per-file", .count), ("min-trust", .number), ("report", .path),
        ("build-cmd", .text), ("json", .nothing)] (some "build-argv") [("build-cmd", "build-argv")],
      fun m => .run
        ⟨m.whole? "max-files", (m.whole? "max-loc-per-file").map UInt32.ofNat, m.number? "min-trust",
          m.text? "report",
          if m.has "build-argv" then m.texts "build-argv"
          else Text.words ((m.text? "build-cmd").getD "")⟩ (m.has "json")),
    ("verify-chain", grammar [] none [], fun _ => .verifyChain),
    ("restore", grammar [("snapshot", .text)] none [], fun m => .restore (m.text? "snapshot")),
    ("trust", grammar [("disable", .text), ("enable", .text)] none [("disable", "enable")],
      fun m => .trust (((m.text? "disable").map (·, true)).or ((m.text? "enable").map (·, false)))),
    ("snapshots", grammar [] none [], fun _ => .snapshots)]

/-- What asking for help on something comes to. -/
def helpOn : List String → Refusal
  | [] => .displayHelp
  | name :: rest =>
    if rest.isEmpty && (name = "help" || (subcommands.lookup name).isSome) then .displayHelp
    else .invalidSubcommand

/-- Reads the words before the subcommand. `logJson` and `trailing` tell what stood before them. -/
def parseFrom (logJson trailing : Bool) : List String → Except Refusal Request
  | [] => .error (if logJson then .missingSubcommand else .nothingAsked)
  | word :: rest =>
    match trailing, subcommands.lookup word with
    | true, some _ => .error .unknownArgument
    | true, none => .error (if word = "help" then .unknownArgument else .invalidSubcommand)
    | false, some (g, task) =>
      match g.read rest with
      | .error e => .error e
      | .ok m => .ok ⟨(m.text? "workspace").getD ".", logJson || m.has "log-json", task m⟩
    | false, none =>
      if word = "help" then .error (helpOn rest)
      else match word.toList with
        | ['-', '-'] => parseFrom logJson true rest
        | '-' :: '-' :: cs =>
          match Grammar.splitName cs with
          | ("help", none) => .error .displayHelp
          | ("version", none) => .error .displayVersion
          | ("log-json", none) => if logJson then .error .argumentConflict else parseFrom true false rest
          | (name, _) =>
            if ["help", "version", "log-json"].contains name then .error .tooManyValues
            else .error .unknownArgument
        | '-' :: 'h' :: _ => .error .displayHelp
        | '-' :: 'V' :: _ => .error .displayVersion
        | '-' :: _ :: _ => .error .unknownArgument
        | _ => .error .invalidSubcommand

/-- Reads a command line without the program's name. -/
def parse (words : List String) : Except Refusal Request := parseFrom false false words

end Mend.Cli
