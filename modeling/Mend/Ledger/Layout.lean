import Mend.Ledger.Files

/-!
# The state directory and its lock

All stored state of a workspace lies in one directory. A cycle holds an exclusive lock on a file there. Nobody
waits for a lock here: a holder that is still there when the waiting time has passed is a failure.
-/

namespace Mend.Ledger

open Fs (Disk DiskAction Place Location)

/-- The state directory of a workspace. -/
structure Layout where
  root : Fs.Place
  deriving DecidableEq

namespace Layout

/-- The directory that a path text names in a workspace. -/
def of (workspace : Fs.Place) (stateDir : String) : Layout := ⟨workspace.join stateDir⟩

/-- The file that is locked while a cycle runs. -/
def lock (l : Layout) : Fs.Place := l.root.child "cycle.lock"
/-- The table of trust. -/
def trust (l : Layout) : Fs.Place := l.root.child "trust.json"
/-- The attestation log. -/
def attestations (l : Layout) : Fs.Place := l.root.child "attestations.jsonl"
/-- The run history. -/
def history (l : Layout) : Fs.Place := l.root.child "history.jsonl"
/-- The directory of the snapshots. -/
def snapshots (l : Layout) : Fs.Place := l.root.child "snapshots"

end Layout

/-- A disk and the files on it that are locked. -/
structure Locks where
  disk : Disk
  held : List Location

/-- Makes the file of a lock, and the directories around it. -/
def openLock (p : Place) : DiskAction Error Unit := do
  makeParent p
  Action.update fun d => at_ p (d.touch p.location)

/-- Takes a lock and tells which file it locks. -/
def acquire (p : Place) : Action Locks Error Location := do
  (openLock p).zoom Locks.disk fun d s => { s with disk := d }
  let s ← get
  let l ← Action.query fun (s : Locks) => at_ p (s.disk.locate p.location)
  if s.held.contains l then throw (.locked p)
  set { s with held := l :: s.held }
  return l

/-- Gives a lock back. -/
def Locks.release (s : Locks) (l : Location) : Locks := { s with held := s.held.erase l }

end Mend.Ledger
