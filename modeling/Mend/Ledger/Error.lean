import Mend.CycleId
import Mend.Diff
import Mend.Digest.Basic
import Mend.Fs.Error
import Mend.Fs.Place

/-!
# Failures of the ledger
-/

namespace Mend.Ledger

/-- What is wrong with a line of the attestation log. -/
inductive Fault where
  | notUtf8
  | truncated
  | unparseable
  | notCanonical
  | sequence (found : UInt64) (expected : Nat)
  | unlinked (found expected : Digest)
  | selfHash (found expected : Digest)
  deriving DecidableEq, Repr

/-- What stands for the reason why a document cannot be read. -/
def unreadable : String := "no such document"

/-- The words for a fault. -/
def Fault.message : Fault → String
  | .notUtf8 => "invalid utf-8"
  | .truncated => "truncated final record"
  | .unparseable => "unparseable record: " ++ unreadable
  | .notCanonical => "record bytes differ from canonical encoding"
  | .sequence found expected =>
    "sequence " ++ toString found.toNat ++ " where " ++ toString expected ++ " expected"
  | .unlinked found expected =>
    "prev_hash " ++ found.toHex ++ " does not link to " ++ expected.toHex
  | .selfHash found expected =>
    "self_hash " ++ found.toHex ++ " recomputes to " ++ expected.toHex

/-- Why the ledger could not do what it was asked for. -/
inductive Error where
  | io (place : Fs.Place) (cause : Fs.Error)
  /-- Stored state that is no document of the expected shape. -/
  | damaged (place : Fs.Place)
  | integrityMismatch (id : CycleId) (expected actual : Digest)
  /-- The undo of a file does not lead back to what was captured. -/
  | undoMismatch (id : CycleId) (file : RelPath) (reason : String)
  | snapshotNotFound (id : CycleId)
  | noSnapshots
  /-- Files that someone else changed since the snapshot was taken. -/
  | drift (id : CycleId) (paths : List RelPath)
  | chainBroken (line : Nat) (reason : String)
  | locked (place : Fs.Place)
  | diff (cause : Diff.Error)
  | path (cause : RelPath.Error)
  deriving DecidableEq, Repr

namespace Error

/-- The words for a failure. -/
def message : Error → String
  | .io p e => "i/o error on " ++ p.shown ++ ": " ++ e.message
  | .damaged p => "malformed state in " ++ p.shown ++ ": " ++ unreadable
  | .integrityMismatch id expected actual =>
    "snapshot " ++ id.toText ++ " integrity mismatch: expected " ++ expected.toHex ++
      ", computed " ++ actual.toHex
  | .undoMismatch id file reason =>
    "snapshot " ++ id.toText ++ " cannot rebuild " ++ file.text ++ ": " ++ reason
  | .snapshotNotFound id => "snapshot " ++ id.toText ++ " not found"
  | .noSnapshots => "no snapshots recorded"
  | .drift id paths =>
    "snapshot " ++ id.toText ++ ": " ++ String.intercalate ", " (paths.map RelPath.text) ++
      " changed outside the engine"
  | .chainBroken line reason =>
    "attestation chain broken at line " ++ toString line ++ ": " ++ reason
  | .locked p => "workspace locked by another cycle (" ++ p.shown ++ ")"
  | .diff e => "diff error: " ++ e.message
  | .path e => "path error: " ++ e.message

instance : ToString Error := ⟨message⟩

/-- Stored data is corrupt or was tampered with. -/
def isIntegrityFailure : Error → Bool
  | .integrityMismatch _ _ _ => true
  | .undoMismatch _ _ _ => true
  | .chainBroken _ _ => true
  | _ => false

end Error
end Mend.Ledger
