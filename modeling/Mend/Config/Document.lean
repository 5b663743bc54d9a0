import Mend.Config.Basic
import Mend.Fs.Disk
import Mend.Toml.Parser

/-!
# Configuration documents

A configuration is read from a document in which every field may be missing. Fields that the outermost
table does not know are refused; other tables skip them.
-/

namespace Mend.Config

/-! ## Writing -/

/-- The stored form of a command. -/
def commandToJson (c : Option (List String)) : Json := Json.ofOption (fun a => .arr (a.map .str)) c

/-- The stored form of limits. -/
def Timeouts.toJson (t : Timeouts) : Json :=
  .obj [("observe", .int t.observe), ("decide", .int t.decide), ("act", .int t.act),
    ("verify", .int t.verify)]

/-- The stored form of a configuration. -/
def toJson (c : Config) : Json :=
  .obj [("max_files", .int c.maxFiles), ("max_loc_per_file", Json.ofCount c.maxLines),
    ("min_trust_threshold", .real c.minScore), ("learning_rate", .real c.learningRate),
    ("max_input_age_secs", .int c.maxInputAge), ("marginal_improvement", .real c.marginalImprovement),
    ("state_dir", .str c.stateDir), ("lock_wait_ms", .int c.lockWait),
    ("snapshot_retention", c.retention.toJson), ("phase_timeouts", c.timeouts.toJson),
    ("parallel", .obj [("workers", Json.ofOption (fun n : Nat => .int n) c.parallel.workers),
      ("min_files", .int c.parallel.minFiles)]),
    ("analysis", .obj [("report_path", .str c.analysis.reportPath),
      ("command", commandToJson c.analysis.command)]),
    ("build", .obj [("command", commandToJson c.buildCommand)]),
    ("recipes", .obj [("regex", .arr (c.substitutions.map Substitution.Declared.toJson))])]

/-! ## Reading -/

/-- A number of sixty-four bits. -/
def size? : Json → Option Nat := Json.nat? 64

/-- Reads a command. -/
def command? : Json → Option (Option (List String)) := Json.option? (Json.list? Json.text?)

/-- Reads limits. -/
def Timeouts.ofJson? (j : Json) : Option Timeouts := do
  let d : Timeouts := {}
  match ← Json.slots ["observe", "decide", "act", "verify"] false j with
  | [observe, decide, act, verify] =>
    some ⟨← observe.withDefault size? d.observe, ← decide.withDefault size? d.decide,
      ← act.withDefault size? d.act, ← verify.withDefault size? d.verify⟩
  | _ => none

/-- Reads when files are worked on at the same time. -/
def Parallel.ofJson? (j : Json) : Option Parallel := do
  let d : Parallel := {}
  match ← Json.slots ["workers", "min_files"] false j with
  | [workers, minFiles] =>
    some ⟨← workers.withDefault (Json.option? size?) d.workers, ← minFiles.withDefault size? d.minFiles⟩
  | _ => none

/-- Reads where the report comes from. -/
def Analysis.ofJson? (j : Json) : Option Analysis := do
  let d : Analysis := {}
  match ← Json.slots ["report_path", "command"] false j with
  | [path, command] =>
    some ⟨← path.withDefault Json.text? d.reportPath, ← command.withDefault command? d.command⟩
  | _ => none

/-- Reads a record of one field. -/
def single? (name : String) (read : Json → Option α) (missing : α) (j : Json) : Option α := do
  match ← Json.slots [name] false j with
  | [v] => v.withDefault read missing
  | _ => none

/-- Reads a configuration in a kind of document, given which values say nothing in it. -/
def read? (isNothing : Json → Bool) (j : Json) : Option Config := do
  let d : Config := {}
  match ← Json.slots ["max_files", "max_loc_per_file", "min_trust_threshold", "learning_rate",
      "max_input_age_secs", "marginal_improvement", "state_dir", "lock_wait_ms", "snapshot_retention",
      "phase_timeouts", "parallel", "analysis", "build", "recipes"] true j with
  | [maxFiles, maxLines, minScore, rate, age, marginal, stateDir, wait, retention, timeouts, parallel,
      analysis, build, recipes] =>
    some {
      maxFiles := ← maxFiles.withDefault size? d.maxFiles
      maxLines := ← maxLines.withDefault Json.count? d.maxLines
      minScore := ← minScore.withDefault Json.float? d.minScore
      learningRate := ← rate.withDefault Json.float? d.learningRate
      maxInputAge := ← age.withDefault size? d.maxInputAge
      marginalImprovement := ← marginal.withDefault Json.float? d.marginalImprovement
      stateDir := ← stateDir.withDefault Json.text? d.stateDir
      lockWait := ← wait.withDefault size? d.lockWait
      retention := ← retention.withDefault Snapshot.Retention.ofJson? d.retention
      timeouts := ← timeouts.withDefault Timeouts.ofJson? d.timeouts
      parallel := ← parallel.withDefault Parallel.ofJson? d.parallel
      analysis := ← analysis.withDefault Analysis.ofJson? d.analysis
      buildCommand := ← build.withDefault (single? "command" command? none) d.buildCommand
      substitutions := ← recipes.withDefault
        (single? "regex" (Json.list? (Substitution.Declared.read? isNothing)) []) d.substitutions }
  | _ => none

/-- Reads a configuration in a JSON text. -/
def ofJson? : Json → Option Config := read? Json.isNull

instance : Stored Config := ⟨toJson, ofJson?⟩

/-- The name of the configuration file. -/
def fileName : String := "remedy.toml"

/-- Reads a configuration from a text that stands in the file of that name, and checks it. -/
def ofText (shown text : String) : Except Error Config :=
  match (Toml.parse text).bind (read? Toml.isNothing) with
  | none => .error (.parse shown)
  | some c =>
    match c.validate with
    | .error e => .error e
    | .ok () => .ok c

/-- The configuration of a workspace; the usual one if it has no file of its own. -/
def load (workspace : Fs.Place) (d : Fs.Disk) : Except Error Config :=
  let p := workspace.join fileName
  match d.readText p.location with
  | .ok text => ofText p.shown text
  | .error .notFound => .ok {}
  | .error e => .error (.read p e)

end Mend.Config
