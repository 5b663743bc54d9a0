import Mend.Engine.Error
import Mend.Ledger.Attestation
import Mend.Ledger.History
import Mend.Ledger.Layout
import Mend.Ledger.Snapshot
import Mend.Ledger.Trust

/-!
# Workspaces

A workspace is a disk with the stores of the ledger. Between two steps of a cycle other programs may
change files and time passes; `Workspace.pause` stands where they get their turn.
-/

namespace Mend

/-- Where a cycle pauses between its steps. -/
inductive Point where
  | observed
  | decided
  /-- After the patches of a file were made. -/
  | prepared
  /-- After the snapshot was taken. -/
  | saved
  /-- After a file was written. -/
  | written
  /-- Before the written files are restored. -/
  | restoring
  deriving DecidableEq, Repr, Inhabited

/-- What happens while a cycle pauses. Pauses are counted. -/
structure Surroundings where
  /-- What other programs do to the disk. -/
  edit : Nat → Point → Fs.Disk → Fs.Disk
  /-- How many milliseconds pass. -/
  millis : Nat → Point → Nat

/-- Nobody else is there, and nothing takes time. -/
def Surroundings.quiet : Surroundings := ⟨fun _ _ d => d, fun _ _ => 0⟩

instance : Inhabited Surroundings := ⟨.quiet⟩

/-- A disk, the locks and stores on it, and what is around. -/
structure Workspace where
  disk : Fs.Disk
  held : List Fs.Location := []
  trust : Trust.Store
  snapshots : Snapshot.Store
  history : History.Store
  attestations : Attestation.Store
  around : Surroundings := .quiet
  /-- How often a cycle has paused. -/
  pauses : Nat := 0
  /-- Milliseconds. -/
  clock : Nat := 0
  /-- How often the analyzer has run. -/
  analyses : Nat := 0

namespace Workspace

/-- A workspace whose stores are files. -/
def onDisk (layout : Ledger.Layout) (disk : Fs.Disk) : Workspace where
  disk := disk
  trust := ⟨some layout.trust, []⟩
  snapshots := .directory layout.snapshots
  history := .file layout.history
  attestations := .file layout.attestations

/-- A workspace whose stores are not on its disk; some recipes have a score from the start. -/
def inMemory (seed : List (String × Float)) (disk : Fs.Disk) : Workspace where
  disk := disk
  trust := .memory seed
  snapshots := .memory [] false
  history := .memory []
  attestations := .memory ByteArray.empty

/-- An action on a workspace. -/
abbrev Step (α : Type) := Action Workspace Engine.Error α

/-- Lets the others have their turn. -/
def pause (p : Point) : Step Unit :=
  modify fun w =>
    { w with
      disk := w.around.edit w.pauses p w.disk
      clock := w.clock + w.around.millis w.pauses p
      pauses := w.pauses + 1 }

/-- An action on the disk. -/
def onFiles (act : Fs.DiskAction Engine.Error α) : Step α :=
  act.zoom disk fun d w => { w with disk := d }

/-- An action on the trust in recipes. -/
def onTrust (act : Action Trust.Session Ledger.Error α) : Step α :=
  (act.mapError Engine.Error.ledger).zoom (fun w => ⟨w.disk, w.trust⟩) fun s w =>
    { w with disk := s.disk, trust := s.store }

/-- An action on the snapshots. -/
def onSnapshots (act : Action Snapshot.Session Ledger.Error α) : Step α :=
  (act.mapError Engine.Error.ledger).zoom (fun w => ⟨w.disk, w.snapshots⟩) fun s w =>
    { w with disk := s.disk, snapshots := s.store }

/-- An action on the history. -/
def onHistory (act : Action History.Session Ledger.Error α) : Step α :=
  (act.mapError Engine.Error.ledger).zoom (fun w => ⟨w.disk, w.history⟩) fun s w =>
    { w with disk := s.disk, history := s.store }

/-- An action on the attestation log. -/
def onAttestations (act : Action Attestation.Session Ledger.Error α) : Step α :=
  (act.mapError Engine.Error.ledger).zoom (fun w => ⟨w.disk, w.attestations⟩) fun s w =>
    { w with disk := s.disk, attestations := s.store }

/-- An action on the locks. -/
def onLocks (act : Action Ledger.Locks Ledger.Error α) : Step α :=
  (act.mapError Engine.Error.ledger).zoom (fun w => ⟨w.disk, w.held⟩) fun s w =>
    { w with disk := s.disk, held := s.held }

/-- Holds a lock while an action runs, and gives it back however that ends. -/
def locking (p : Fs.Place) (act : Step α) : Step α := do
  let l ← onLocks (Ledger.acquire p)
  let r : Except Engine.Error α ← act.outcome
  modify fun w => { w with held := w.held.erase l }
  Action.query fun _ => r

/-- Reads the table of trust again if it is kept in a file. -/
def openTrust : Step Unit := do
  match (← get).trust.file with
  | none => pure ()
  | some p =>
    Action.update fun w =>
      match Trust.Store.open p w.disk with
      | .ok store => .ok { w with trust := store }
      | .error e => .error (.ledger e)

end Workspace
end Mend
