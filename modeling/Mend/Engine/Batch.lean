import Mend.Engine.Decision
import Mend.Engine.Workspace

/-!
# Batches

A cycle acts in two steps. First the new contents of all files are prepared and nothing is written;
the repairs of a file are chained from the last line up, so that an earlier one does not move the lines
of a later one. Then each file is replaced, if it still holds what its new content was made from.
-/

namespace Mend

/-- The point on the clock by which a phase must end. -/
structure Deadline where
  phase : Phase
  seconds : Nat
  /-- Milliseconds. -/
  due : Nat
  deriving DecidableEq, Repr, Inhabited

namespace Deadline

/-- The deadline so many seconds after a point on the clock. -/
def after (phase : Phase) (seconds clock : Nat) : Deadline := ⟨phase, seconds, clock + 1000 * seconds⟩

/-- The deadline has passed. -/
def isExpired (d : Deadline) (clock : Nat) : Bool := d.due ≤ clock

/-- The failure of a phase that did not end in time. -/
def failure (d : Deadline) : Engine.Error := .timeout d.phase d.seconds

/-- Fails once the deadline has passed. -/
def check (d : Deadline) (clock : Nat) : Except Engine.Error Unit :=
  if d.isExpired clock then .error d.failure else .ok ()

end Deadline

/-- Fails once a deadline, if there is one, has passed. -/
def checkDeadline (d : Option Deadline) (clock : Nat) : Except Engine.Error Unit :=
  match d with
  | none => .ok ()
  | some d => d.check clock

/-- The new content of a file, which is not written yet. -/
structure Prepared where
  file : RelPath
  before : String
  after : String
  recipes : List String
  issues : List String
  /-- How many lines change. -/
  changed : Count
  deriving DecidableEq, Inhabited

namespace Prepared

/-- The digest of the old content. -/
def beforeDigest (p : Prepared) : Digest := Digest.content p.before.toUTF8

/-- The digest of the new content. -/
def afterDigest (p : Prepared) : Digest := Digest.content p.after.toUTF8

/-- What a snapshot captures of a file. -/
def capture (p : Prepared) : Snapshot.Capture := ⟨p.file, some p.before, p.after⟩

end Prepared

/-- The new contents of files, in the order of their paths. -/
abbrev Batch := List Prepared

/-- The recipes of a batch. -/
def Batch.recipes (b : Batch) : List String := Decision.distinct (List.flatMap Prepared.recipes b)

/-- A file that was written. -/
structure Applied where
  file : RelPath
  recipes : List String
  issues : List String
  before : Digest
  after : Digest
  changed : Count
  deriving DecidableEq, Inhabited

namespace Batch

variable {σ : Type}

/-! ## Preparing -/

/-- The order in which the repairs of a file are chained: the last line first. -/
def chainsBefore (a b : Fix σ) : Bool :=
  ((compare b.span.first a.span.first).then <|
    (compare a.recipe b.recipe).then (compare a.issue.id b.issue.id)) != .gt

/-- Applies one repair to the content that the file would have so far. -/
def applyFix (g : Registry) (file : RelPath) (files : Recipe.Files) (content : String) (f : Fix σ) :
    Except Engine.Error String :=
  let failed (e : Patch.Error) := Engine.Error.patchGeneration f.recipe f.issue.id e
  match Registry.find? g f.recipe with
  | none => .error (failed (.invalidRecipe f.recipe .notRegistered))
  | some r =>
    match r.patch f.issue fun p => if p = file then .ok content else files p with
    | .error e => .error (failed e)
    | .ok patch =>
      if patch.file ≠ file || patch.before ≠ Digest.content content.toUTF8 then
        .error (failed (.invalidRecipe f.recipe (.otherContent patch.file)))
      else .ok patch.after

/-- Applies repairs one after the other. -/
def chain (g : Registry) (file : RelPath) (files : Recipe.Files) (timely : Except Engine.Error Unit) :
    List (Fix σ) → String → Except Engine.Error String
  | [], content => .ok content
  | f :: rest, content => do
    timely
    chain g file files timely rest (← applyFix g file files content f)

/-- Prepares the new content of a file. There is none if the repairs cancel out. -/
def prepareFile (g : Registry) (maxLines : Count) (files : Recipe.Files)
    (timely : Except Engine.Error Unit) (file : RelPath) (fixes : List (Fix σ)) :
    Except Engine.Error (Option Prepared) :=
  let ordered := fixes.mergeSort chainsBefore
  match ordered with
  | [] => .ok none
  | first :: _ =>
    match files file with
    | .error e => .error (.patchGeneration first.recipe first.issue.id (.read file e))
    | .ok before =>
      match chain g file files timely ordered before with
      | .error e => .error e
      | .ok after =>
        if after = before then .ok none
        else
          let changed := Count.ofNatClamped (Diff.between before after).changedLines
          if maxLines < changed then .error (.budgetExceeded file changed maxLines)
          else .ok (some ⟨file, before, after, Decision.distinct (ordered.map Fix.recipe),
            (ordered.map fun f => f.issue.id).mergeSort fun a b => decide (a ≤ b), changed⟩)

/-- The repairs by the files that they are for, in the order of the paths. -/
def byFile (fixes : List (Fix σ)) : Ordered RelPath (List (Fix σ)) :=
  fixes.foldl
    (fun t f => Ordered.insert t f.issue.file ((Ordered.get? t f.issue.file).getD [] ++ [f])) []

/-- The content of the files of a workspace. -/
def filesOf (root : Fs.Place) (d : Fs.Disk) : Recipe.Files := fun p => d.readText (root.file p).location

/-- Prepares one file after the other. A failure does not hinder the files after it. -/
def prepareEach (g : Registry) (maxLines : Count) (root : Fs.Place) (deadline : Option Deadline) :
    List (RelPath × List (Fix σ)) → Workspace.Step (List (Except Engine.Error (Option Prepared)))
  | [] => return []
  | (file, fixes) :: rest => do
    let w ← get
    let r := prepareFile g maxLines (filesOf root w.disk) (checkDeadline deadline w.clock) file fixes
    Workspace.pause .prepared
    return r :: (← prepareEach g maxLines root deadline rest)

/-- The new contents, or the first failure. -/
def collect : List (Except Engine.Error (Option Prepared)) → Except Engine.Error Batch
  | [] => .ok []
  | .error e :: _ => .error e
  | .ok none :: rest => collect rest
  | .ok (some p) :: rest => (collect rest).map (p :: ·)

/-- Prepares a batch. Nothing is written, and a failure of any file is a failure of the batch. -/
def prepare (g : Registry) (maxLines : Count) (root : Fs.Place) (deadline : Option Deadline)
    (fixes : List (Fix σ)) : Workspace.Step Batch := do
  let results ← prepareEach g maxLines root deadline (byFile fixes)
  Action.query fun _ => collect results

/-! ## Writing -/

/-- Replaces a file that still holds what its new content was made from. -/
def writeFile (root : Fs.Place) (p : Prepared) : Fs.DiskAction Engine.Error Applied := do
  let place := root.file p.file
  let current ← Action.query fun d =>
    match d.read place.location with
    | .ok content => .ok content
    | .error e => .error (.io place e)
  if Digest.content current ≠ p.beforeDigest then throw (.fileChanged p.file)
  (Ledger.atomicWrite place p.after.toUTF8).mapError Engine.Error.ledger
  return ⟨p.file, p.recipes, p.issues, p.beforeDigest, p.afterDigest, p.changed⟩

/-- Writes a file before a deadline. -/
def writeInTime (root : Fs.Place) (deadline : Option Deadline) (p : Prepared) :
    Workspace.Step (Except Engine.Error Applied) := do
  let r ← (do
    Action.query fun w : Workspace => checkDeadline deadline w.clock
    Workspace.onFiles (writeFile root p) : Workspace.Step Applied).outcome
  Workspace.pause .written
  return r

/-- Writes files in their order. `onward` tells whether to go on after a failure. The result has the
files that were written and the first failure. -/
def writeEach (root : Fs.Place) (deadline : Option Deadline) (onward : Bool) :
    Batch → Workspace.Step (List Applied × Option Engine.Error)
  | [] => return ([], none)
  | p :: rest => do
    match ← writeInTime root deadline p with
    | .ok a => do
      let (as, e) ← writeEach root deadline onward rest
      return (a :: as, e)
    | .error e =>
      if onward then do
        let (as, _) ← writeEach root deadline onward rest
        return (as, some e)
      else return ([], some e)

/-- Writes a batch. Files that are worked on at the same time are all tried; otherwise the first
failure is the end. -/
def write (root : Fs.Place) (parallel : Config.Parallel) (deadline : Option Deadline) (b : Batch) :
    Workspace.Step (List Applied × Option Engine.Error) :=
  writeEach root deadline (parallel.workersFor? b.length).isSome b

end Batch
end Mend
