import Mend.Engine.Batch
import Mend.Engine.Learning
import Mend.Engine.Tools
import Mend.Engine.Verification

/-!
# Cycles

A cycle holds the lock of its workspace. It observes the issues, decides what to do about them, takes
a snapshot, writes the new contents, verifies and learns. If acting or verifying fails, the snapshot
is restored, and the cycle is learned from and attested as a failure; a restore that falls short is
reported after that.
-/

namespace Mend

/-- What a cycle is run with. -/
structure Engine where
  root : Fs.Place
  config : Config
  registry : Registry
  scorer : Scorer
  tools : Tools

/-- A cycle on its way. -/
structure Cycle where
  id : CycleId
  walk : Walk := .start
  recipes : List String := []
  snapshot : Option CycleId := none
  applied : List Applied := []
  deriving DecidableEq, Inhabited

/-- How a cycle ended. -/
structure CycleResult where
  id : CycleId
  phase : Phase
  verdict : Verdict
  files : List RelPath
  before : Count
  after : Count
  recipes : List String
  error : Option Engine.Error
  /-- The digest of the cycle's attestation. -/
  attestation : Digest
  snapshot : Option CycleId
  deriving DecidableEq

/-- One for a failure or a rollback, and otherwise zero. -/
def CycleResult.exitCode (r : CycleResult) : Nat :=
  if r.verdict = .failure || r.phase = .rolledBack then 1 else 0

/-- A workspace and the cycle that runs in it. -/
structure Run where
  cycle : Cycle
  workspace : Workspace

namespace Run

/-- A step of a cycle. -/
abbrev Step (α : Type) := Action Run Engine.Error α

/-- An action on the workspace. -/
def onWorkspace (act : Workspace.Step α) : Step α :=
  act.zoom workspace fun w r => { r with workspace := w }

/-- Changes the cycle. -/
def change (f : Cycle → Cycle) : Step Unit := modify fun r => { r with cycle := f r.cycle }

/-- Enters a phase. -/
def enter (p : Phase) : Step Unit :=
  Action.update fun r =>
    match r.cycle.walk.advance? p with
    | some w => .ok { r with cycle := { r.cycle with walk := w } }
    | none => .error (.illegalTransition r.cycle.walk.current p)

end Run

namespace Engine

/-- The state directory. -/
def layout (e : Engine) : Ledger.Layout := .of e.root e.config.stateDir

/-- An engine for a workspace, with the recipes of its configuration. -/
def make (root : Fs.Place) (c : Config) (tools : Tools) : Except Config.Error Engine := do
  c.validate
  return ⟨root, c, ← c.registry, default, tools⟩

/-- An engine with the tools that its configuration names. -/
def «open» (run : Runner) (root : Fs.Place) (c : Config) : Except Config.Error Engine := do
  make root c (← Tools.ofConfig run root c)

/-! ## Observing and deciding -/

/-- The limit of a phase in milliseconds, if it has one. -/
def limit? (e : Engine) (p : Phase) : Option Nat := (e.config.timeouts.limit? p).map (1000 * ·)

/-- Fails if a phase took longer than it may. -/
def inTime (phase : Phase) (limit : Option Nat) (millis : Nat) : Workspace.Step Unit :=
  Action.query fun _ =>
    match limit with
    | none => .ok ()
    | some l => if l < millis then .error (.timeout phase (l / 1000)) else .ok ()

/-- Runs the analyzer; the time that it took is returned too. -/
def analyze (e : Engine) : Workspace.Step (Except ToolError Report × Nat) :=
  Action.ofFun fun w =>
    let a := e.tools.analyze w.analyses w.disk
    (.ok (a.result, a.millis),
      { w with disk := a.disk, clock := w.clock + a.millis, analyses := w.analyses + 1 })

/-- Runs the build; the time that it took is returned too. -/
def build (e : Engine) : Workspace.Step (Except ToolError Build × Nat) :=
  Action.ofFun fun w =>
    let a := e.tools.build w.disk
    (.ok (a.result, a.millis), { w with disk := a.disk, clock := w.clock + a.millis })

/-- The report, which must not be too old. -/
def observe (e : Engine) (now : Time) : Workspace.Step Report := do
  let (result, millis) ← e.analyze
  Workspace.pause .observed
  inTime .observe (e.limit? .observe) millis
  match result with
  | .error cause => throw (.inputMissing cause.message)
  | .ok report =>
    let age := report.age now
    if (min e.config.maxInputAge (Nat.pow 2 63 - 1) : Nat) < age then
      throw (.inputStale age e.config.maxInputAge)
    return report

/-- The size that a directory has. -/
def directorySize : UInt64 := 4096

/-- The size of a file; zero if there is none. -/
def sizeOf (root : Fs.Place) (d : Fs.Disk) (p : RelPath) : UInt64 :=
  match d.find (root.file p).location with
  | .ok (.file content _) => UInt64.ofNat content.size
  | .ok .dir => directorySize
  | .error _ => 0

/-- Decides what to do about the issues of a report. -/
def decide (e : Engine) (report : Report) : Workspace.Step (Decision Score) := do
  let w ← get
  let decision := Decision.byTrust e.registry e.config w.trust.table e.scorer (sizeOf e.root w.disk)
    report.issues
  Workspace.pause .decided
  inTime .decide (e.limit? .decide) ((← get).clock - w.clock)
  return decision

/-! ## Acting and verifying -/

/-- Prepares the batch and takes the snapshot. -/
def prepare (e : Engine) (fixes : List (Fix Score)) (deadline : Option Deadline) (now : Time) :
    Run.Step Batch := do
  let batch ← Run.onWorkspace
    (Batch.prepare e.registry e.config.maxLines e.root deadline fixes)
  Run.change fun c => { c with recipes := Batch.recipes batch }
  let id := (← get).cycle.id
  Run.onWorkspace (Workspace.onSnapshots
    (Snapshot.take id (List.map Prepared.capture batch) e.config.retention now))
  Run.change fun c => { c with snapshot := some id }
  Run.onWorkspace (Workspace.pause .saved)
  Action.query fun r => checkDeadline deadline r.workspace.clock
  return batch

/-- Analyzes and builds again within a number of milliseconds. -/
def verify (e : Engine) (limit : Option Nat) (report : Report) : Workspace.Step Verification := do
  let (after, analyzing) ← e.analyze
  inTime .verify limit analyzing
  match after with
  | .error cause => throw (.toolFailed .analyzer cause.message)
  | .ok after =>
    let (build, building) ← e.build
    inTime .verify limit (analyzing + building)
    match build with
    | .error cause => throw (.toolFailed .build cause.message)
    | .ok build => return .of report.count after.count build e.config.marginalImprovement

/-- Writes the selected repairs and verifies them. -/
def act (e : Engine) (report : Report) (fixes : List (Fix Score)) (now : Time) :
    Run.Step Verification := do
  let clock := (← get).workspace.clock
  let deadline := (e.config.timeouts.limit? .act).map fun s => Deadline.after .act s clock
  let batch ← e.prepare fixes deadline now
  let (applied, failed) ← Run.onWorkspace (Batch.write e.root e.config.parallel deadline batch)
  Run.change fun c => { c with applied := applied }
  if let some error := failed then throw error
  Run.enter .verify
  Run.onWorkspace (e.verify (e.limit? .verify) report)

/-! ## Ending -/

/-- The files that a cycle wrote. -/
def filesWritten (c : Cycle) : List RelPath := c.applied.map Applied.file

/-- Attests a cycle and tells the digest of its record. -/
def attest (before after : Count) (verdict : Verdict) (now : Time) : Run.Step Digest := do
  let c := (← get).cycle
  let r ← Run.onWorkspace (Workspace.onAttestations (Attestation.record
    ⟨c.id, now, before, after, c.recipes, filesWritten c, verdict⟩))
  return r.own

/-- Records what the recipes of a cycle came to. -/
def learn (e : Engine) (lessons : List Lesson) (report : Report) (v : Option Verification) (now : Time) :
    Run.Step Unit := do
  let c := (← get).cycle
  let after := match v with
    | some v => v.after
    | none => report.count
  let delta : History.Delta :=
    ⟨report.count, after, Count.ofNatClamped c.applied.length, v.map fun v => v.build.passed⟩
  let _ ← Run.onWorkspace (Lesson.learn c.id lessons delta e.config.learningRate now)
  return ()

/-- The result of a cycle as it stands. -/
def result (verdict : Verdict) (before after : Count) (error : Option Engine.Error) (digest : Digest) :
    Run.Step CycleResult := do
  let c := (← get).cycle
  return ⟨c.id, c.walk.current, verdict, filesWritten c, before, after, c.recipes, error, digest, c.snapshot⟩

/-- Ends a cycle that has nothing to do. -/
def finishIdle (report : Report) (now : Time) : Run.Step CycleResult := do
  Run.enter .done
  let digest ← attest report.count report.count .noop now
  result .noop report.count report.count (some .noApplicableRecipe) digest

/-- Ends a cycle that did not fail. -/
def finishLearned (e : Engine) (report : Report) (v : Verification) (now : Time) :
    Run.Step CycleResult := do
  Run.enter .learn
  let outcome := v.verdict.outcome?.getD .partly
  e.learn ((← get).cycle.recipes.map fun r => ⟨r, outcome, true⟩) report (some v) now
  let digest ← attest v.before v.after v.verdict now
  Run.enter .done
  result v.verdict v.before v.after none digest

/-- What keeps the workspace from what it was before the cycle, if anything. A file that drifted and
that the cycle never wrote holds what someone else made of it, and that is none of its business. -/
def restoreCycle (e : Engine) : Run.Step (Option Ledger.Error) := do
  Run.onWorkspace (Workspace.pause .restoring)
  let c := (← get).cycle
  match c.snapshot with
  | none => return none
  | some id =>
    let r : Except Ledger.Error Snapshot.Report ←
      Run.onWorkspace (Workspace.onSnapshots (Snapshot.restoreId id e.root).outcome)
    match r with
    | .error cause => return some cause
    | .ok report =>
      let lost := report.drifted.filter fun p => (filesWritten c).contains p
      return if lost.isEmpty then none else some (.drift id lost)

/-- What a failed cycle says of a recipe. -/
def lessonOf (error : Engine.Error) (recipe : String) : Lesson :=
  let guilty := match error with
    | .patchGeneration r _ _ => r == recipe
    | _ => false
  ⟨recipe, .failure, guilty || error.penalizesRecipes⟩

/-- Ends a cycle that failed. It is learned from and attested even if it cannot be undone. -/
def rollBack (e : Engine) (report : Report) (v : Option Verification) (error : Engine.Error) (now : Time) :
    Run.Step CycleResult := do
  let unrestored ← e.restoreCycle
  e.learn ((← get).cycle.recipes.map (lessonOf error)) report v now
  let after := match v with
    | some v => v.after
    | none => report.count
  let digest ← attest report.count after .failure now
  if let some cause := unrestored then throw (.rollbackFailed cause)
  Run.enter .rolledBack
  result .failure report.count after (some error) digest

/-! ## The whole -/

/-- Runs a cycle in a locked workspace. -/
def drive (e : Engine) (now : Time) : Run.Step CycleResult := do
  let report ← Run.onWorkspace (e.observe now)
  Run.onWorkspace Workspace.openTrust
  (Ordered.keys e.registry).forM fun id => Run.onWorkspace (Workspace.onTrust (Trust.ensure id))
  Run.enter .decide
  let decision ← Run.onWorkspace (e.decide report)
  if decision.selected.isEmpty then finishIdle report now
  else
    Run.change fun c => { c with recipes := decision.recipes }
    Run.enter .act
    let r : Except Engine.Error Verification ← (e.act report decision.selected now).outcome
    match r with
    | .error error => e.rollBack report none error now
    | .ok v =>
      match v.failure? with
      | some error => e.rollBack report (some v) error now
      | none => e.finishLearned report v now

/-- Runs a cycle of a workspace. -/
def runCycle (e : Engine) (id : CycleId) (now : Time) : Workspace.Step CycleResult :=
  Workspace.locking e.layout.lock
    ((e.drive now).zoom (fun w => ⟨{ id := id }, w⟩) fun r _ => r.workspace)

/-- Restores a snapshot by hand, or the newest one. -/
def restore (e : Engine) (id : Option CycleId) : Workspace.Step Snapshot.Report :=
  Workspace.locking e.layout.lock <| Workspace.onSnapshots <|
    match id with
    | some id => Snapshot.restoreId id e.root
    | none => Snapshot.restoreLatest e.root

end Engine
end Mend
