import Mend.Engine.Cycle
import Mend.Json.Printer

/-!
# What the program prints

The lines that tell people what a task came to. The result of a cycle can also be printed as a
document.
-/

namespace Mend.Cli

/-- A text with spaces after it up to a width. -/
def padRight (width : Nat) (s : String) : String := s ++ String.ofList (List.replicate (width - s.length) ' ')

/-- A text with spaces before it up to a width. -/
def padLeft (width : Nat) (s : String) : String := String.ofList (List.replicate (width - s.length) ' ') ++ s

/-- The document of a cycle's result. -/
def resultJson (r : CycleResult) : Json :=
  .obj [("cycleId", Json.ofCycleId r.id), ("phase", .str r.phase.name), ("verdict", .str r.verdict.name),
    ("filesChanged", .arr (r.files.map Json.ofPath)), ("issuesBefore", Json.ofCount r.before),
    ("issuesAfter", Json.ofCount r.after), ("recipesApplied", .arr (r.recipes.map .str)),
    ("error", Json.ofOption (fun e => .str (Engine.Error.kind e).name) r.error),
    ("errorMessage", Json.ofOption (fun e => .str (Engine.Error.message e)) r.error),
    ("attestationHash", Json.ofDigest r.attestation), ("snapshot", Json.ofOption Json.ofCycleId r.snapshot)]

/-- The lines of a cycle's result. -/
def resultLines (r : CycleResult) : List String :=
  ["cycle " ++ r.id.toText ++ " " ++ r.phase.word ++ ": " ++ toString r.verdict,
    "  issues   " ++ toString r.before.toNat ++ " -> " ++ toString r.after.toNat,
    "  files    " ++ toString r.files.length ++ " " ++ String.intercalate " " (r.files.map RelPath.text),
    "  recipes  " ++ String.intercalate " " r.recipes] ++
  (r.snapshot.map fun id => "  snapshot " ++ id.toText).toList ++
  ["  attest   " ++ r.attestation.short] ++
  (r.error.map fun e => "  error    " ++ e.kind.name ++ ": " ++ e.message).toList

/-- The lines of a whole chain of attestations. -/
def chainLines (rs : List Attestation.Record) : List String :=
  ("attestation chain intact: " ++ toString rs.length ++ " records") ::
    (rs.getLast?.map fun r => "  head " ++ r.own.toHex ++ " (cycle " ++ r.draft.cycle.toText ++ ", " ++
      toString r.draft.verdict ++ ")").toList

/-- The words for what restoring did to a file. -/
def restoreWord : Snapshot.FileRestore → String
  | .restored => "restored"
  | .removed => "removed"
  | .alreadyRestored => "unchanged"
  | .drifted (some found) => "DRIFTED (now " ++ found.short ++ ")"
  | .drifted none => "DRIFTED (missing)"

/-- The lines of a restored snapshot. -/
def restoreLines (r : Snapshot.Report) : List String :=
  ("restored snapshot " ++ r.snapshot.toText ++ ": " ++ toString r.changed ++ " files changed") ::
    r.files.map fun f => "  " ++ f.1.text ++ " " ++ restoreWord f.2

/-- The line of a recipe's trust. -/
def trustLine (id : String) (r : Trust.Record) : String :=
  let counted (n : Count) := padLeft 3 (toString n.toNat)
  padRight 28 id ++ " " ++ Decimal.fixed 3 r.score ++ "  ok " ++ counted r.successes ++ "  partial " ++
    counted r.partials ++ "  failed " ++ counted r.failures ++ (if r.disabled then "  (disabled)" else "")

/-- A moment with a numeric offset. -/
def momentText (t : Time) : String := String.ofList t.toText.toList.dropLast ++ "+00:00"

/-- The line of a stored snapshot. -/
def snapshotLine (id : CycleId) (s : Except Ledger.Error Snapshot) : String :=
  id.toText ++ "  " ++ match s with
    | .ok s => momentText s.createdAt ++ "  " ++ toString s.files.length ++ " files"
    | .error e => "unreadable: " ++ e.message

end Mend.Cli
