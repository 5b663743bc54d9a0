import Mend.Config.Basic
import Mend.Engine.Phase
import Mend.Engine.Report
import Mend.Ledger.Error
import Mend.Recipe.Patch

/-!
# Failures of a cycle

A failure carries its details. Its `Kind` is the short name that a result is stored with.
-/

namespace Mend.Engine

/-- The short name of a failure. -/
inductive Kind where
  | inputStaleOrMissing
  | noApplicableRecipe
  | patchGenerationFailed
  | budgetExceeded
  | buildFailedAfterApply
  | regressionDetected
  | snapshotIntegrityMismatch
  | attestationChainBroken
  | workspaceDrift
  | workspaceLocked
  | analyzerFailed
  | timeout
  | illegalTransition
  | config
  | io
  deriving DecidableEq, Repr, Inhabited

/-- The stored name. -/
def Kind.name : Kind → String
  | .inputStaleOrMissing => "InputStaleOrMissing"
  | .noApplicableRecipe => "NoApplicableRecipe"
  | .patchGenerationFailed => "PatchGenerationFailed"
  | .budgetExceeded => "BudgetExceeded"
  | .buildFailedAfterApply => "BuildFailedAfterApply"
  | .regressionDetected => "RegressionDetected"
  | .snapshotIntegrityMismatch => "SnapshotIntegrityMismatch"
  | .attestationChainBroken => "AttestationChainBroken"
  | .workspaceDrift => "WorkspaceDrift"
  | .workspaceLocked => "WorkspaceLocked"
  | .analyzerFailed => "AnalyzerFailed"
  | .timeout => "Timeout"
  | .illegalTransition => "IllegalTransition"
  | .config => "Config"
  | .io => "Io"

/-- The tools from outside. -/
inductive Tool where
  | analyzer
  | build
  deriving DecidableEq, Repr, Inhabited

/-- The word for a tool. -/
def Tool.word : Tool → String
  | .analyzer => "analyzer"
  | .build => "build"

/-- Why a cycle did not do what it was to do. -/
inductive Error where
  | inputMissing (reason : String)
  /-- The report is so many seconds old, and may only be so many. -/
  | inputStale (age : Int) (limit : Nat)
  | noApplicableRecipe
  | patchGeneration (recipe issue : String) (cause : Patch.Error)
  | budgetExceeded (file : RelPath) (lines limit : Count)
  | buildFailed (exitCode : Option Int)
  | regression (before after : Count)
  /-- A file no longer holds what its patch was made from. -/
  | fileChanged (file : RelPath)
  | toolFailed (tool : Tool) (reason : String)
  | timeout (phase : Phase) (seconds : Nat)
  | illegalTransition (source target : Phase)
  | rollbackFailed (cause : Ledger.Error)
  | io (place : Fs.Place) (cause : Fs.Error)
  | ledger (cause : Ledger.Error)
  | config (cause : Config.Error)
  deriving DecidableEq, Repr

/-- The short name of a failure of the ledger. -/
def Kind.ofLedger : Ledger.Error → Kind
  | .integrityMismatch _ _ _ => .snapshotIntegrityMismatch
  | .undoMismatch _ _ _ => .snapshotIntegrityMismatch
  | .chainBroken _ _ => .attestationChainBroken
  | .drift _ _ => .workspaceDrift
  | .locked _ => .workspaceLocked
  | _ => .io

namespace Error

/-- The words for a failure. -/
def message : Error → String
  | .inputMissing reason => "analysis input missing: " ++ reason ++ "; run the analyzer first"
  | .inputStale age limit =>
    "analysis input is " ++ toString age ++ "s old (limit " ++ toString limit ++
      "s); run the analyzer again"
  | .noApplicableRecipe => "no recipe cleared the trust threshold"
  | .patchGeneration recipe issue cause =>
    "recipe '" ++ recipe ++ "' failed on issue '" ++ issue ++ "': " ++ cause.message
  | .budgetExceeded file lines limit =>
    file.text ++ ": " ++ toString lines.toNat ++ " changed lines exceeds the per-file budget of " ++
      toString limit.toNat
  | .buildFailed code => "build failed after apply (exit code " ++ exitCodeText code ++ ")"
  | .regression before after =>
    "regression detected: " ++ toString before.toNat ++ " issues before, " ++ toString after.toNat ++
      " after"
  | .fileChanged file => file.text ++ " changed while the cycle was running"
  | .toolFailed tool reason => tool.word ++ " failed: " ++ reason
  | .timeout phase seconds =>
    phase.word ++ " phase timed out after " ++ toString seconds ++ "s"
  | .illegalTransition source target =>
    "illegal phase transition " ++ source.word ++ " -> " ++ target.word
  | .rollbackFailed cause => "rollback of cycle failed: " ++ cause.message
  | .io p cause => "i/o error on " ++ p.shown ++ ": " ++ cause.message
  | .ledger cause => "ledger error: " ++ cause.message
  | .config cause => "configuration error: " ++ cause.message

instance : ToString Error := ⟨message⟩

/-- The short name of a failure. -/
def kind : Error → Kind
  | .inputMissing _ => .inputStaleOrMissing
  | .inputStale _ _ => .inputStaleOrMissing
  | .noApplicableRecipe => .noApplicableRecipe
  | .patchGeneration _ _ _ => .patchGenerationFailed
  | .budgetExceeded _ _ _ => .budgetExceeded
  | .buildFailed _ => .buildFailedAfterApply
  | .regression _ _ => .regressionDetected
  | .fileChanged _ => .workspaceDrift
  | .toolFailed _ _ => .analyzerFailed
  | .timeout _ _ => .timeout
  | .illegalTransition _ _ => .illegalTransition
  | .rollbackFailed cause => .ofLedger cause
  | .io _ _ => .io
  | .ledger cause => .ofLedger cause
  | .config _ => .config

/-- Someone has to step in before there can be another cycle. -/
def isFatal (e : Error) : Bool :=
  match e with
  | .rollbackFailed _ => true
  | _ =>
    match e.kind with
    | .inputStaleOrMissing => true
    | .snapshotIntegrityMismatch => true
    | .attestationChainBroken => true
    | .workspaceLocked => true
    | .illegalTransition => true
    | .config => true
    | _ => false

/-- The failure can only come up once a cycle acts. -/
def requiresRollback : Error → Bool
  | .patchGeneration _ _ _ => true
  | .budgetExceeded _ _ _ => true
  | .buildFailed _ => true
  | .regression _ _ => true
  | .fileChanged _ => true
  | .timeout phase _ => phase = .act || phase = .verify
  | _ => false

/-- The failure speaks against the recipes that were applied. -/
def penalizesRecipes : Error → Bool
  | .buildFailed _ => true
  | .regression _ _ => true
  | _ => false

end Error
end Mend.Engine
