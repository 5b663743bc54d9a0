import Mend.Count
import Mend.Ledger.Files
import Mend.Ledger.Outcome
import Mend.Text.Lines

/-!
# Run history

One entry for each recipe that a cycle applied, whatever its verdict. Entries are only ever appended:
each is a line of its own.
-/

namespace Mend.History

open Fs (Disk Place)

/-- The measured effect of a cycle. -/
structure Delta where
  issuesBefore : Count
  issuesAfter : Count
  filesChanged : Count
  /-- Not known when the cycle ended before the build ran. -/
  buildPassed : Option Bool
  deriving DecidableEq, Inhabited

/-- How many issues are gone; negative if there are more. -/
def Delta.issuesFixed (d : Delta) : Int := (d.issuesBefore.toNat : Int) - d.issuesAfter.toNat

/-- The application of a recipe in a cycle. -/
structure Entry where
  cycle : CycleId
  recipe : String
  outcome : Outcome
  delta : Delta
  recordedAt : Time
  deriving DecidableEq, Inhabited

/-- The stored form of an effect. -/
def Delta.toJson (d : Delta) : Json :=
  .obj [("issues_before", Json.ofCount d.issuesBefore), ("issues_after", Json.ofCount d.issuesAfter),
    ("files_changed", Json.ofCount d.filesChanged), ("build_passed", Json.ofOption .bool d.buildPassed)]

/-- Reads an effect. -/
def Delta.ofJson? (j : Json) : Option Delta := do
  match ← Json.slots ["issues_before", "issues_after", "files_changed", "build_passed"] false j with
  | [before, after, files, build] =>
    some ⟨← before.required Json.count?, ← after.required Json.count?, ← files.required Json.count?,
      ← build.optional Json.bool?⟩
  | _ => none

instance : Stored Delta := ⟨Delta.toJson, Delta.ofJson?⟩

/-- The stored form of an entry. -/
def Entry.toJson (e : Entry) : Json :=
  .obj [("cycle_id", Json.ofCycleId e.cycle), ("recipe_id", .str e.recipe),
    ("outcome", .str e.outcome.name), ("metrics_delta", e.delta.toJson),
    ("recorded_at", Json.ofTime e.recordedAt)]

/-- Reads an entry. -/
def Entry.ofJson? (j : Json) : Option Entry := do
  match ← Json.slots ["cycle_id", "recipe_id", "outcome", "metrics_delta", "recorded_at"] false j with
  | [cycle, recipe, outcome, delta, at_] =>
    some ⟨← cycle.required Json.cycleId?, ← recipe.required Json.text?,
      ← outcome.required Outcome.ofJson?, ← delta.required Delta.ofJson?, ← at_.required Json.time?⟩
  | _ => none

instance : Stored Entry := ⟨Entry.toJson, Entry.ofJson?⟩

/-- Where the history is kept: here, or in a file. -/
inductive Store where
  | memory (entries : List Entry)
  | file (place : Place)
  deriving Inhabited

/-- A disk and a history. -/
structure Session where
  disk : Disk
  store : Store

/-- Appends entries in their order. -/
def append (entries : List Entry) : Action Session Ledger.Error Unit := do
  match (← get).store with
  | .memory old => modify fun s => { s with store := .memory (old ++ entries) }
  | .file p =>
    entries.forM fun e =>
      (Ledger.appendLine p (Stored.line e)).zoom Session.disk fun d s => { s with disk := d }

/-- Reads the entries of a log; lines of blanks only are skipped. -/
def parse? (log : ByteArray) : Option (List Entry) :=
  let lines := (Text.bodies (Text.decodeLossy log)).filter fun l => !(Text.trimmed l).isEmpty
  lines.mapM Stored.ofText?

/-- All entries, the oldest first. -/
def Session.entries (s : Session) : Except Ledger.Error (List Entry) :=
  match s.store with
  | .memory entries => .ok entries
  | .file p =>
    match Ledger.readOrEmpty p s.disk with
    | .error e => .error e
    | .ok log =>
      match parse? log with
      | some entries => .ok entries
      | none => .error (.damaged p)

end Mend.History
