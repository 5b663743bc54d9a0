import Mend.Count
import Mend.Digest.Framed
import Mend.Ledger.Files
import Mend.Ledger.Outcome
import Mend.Text.Lines

/-!
# Attestations

The attestation log has one line for each cycle. A record carries a digest of its other fields and
the digest of the record before it, so that the records form a chain. `checkChain` accepts exactly
the bytes that writing the records of a chain would give; otherwise it tells the first bad line.
-/

namespace Mend.Attestation

open Fs (Disk Place)

/-- The facts of a cycle that are to be attested. -/
structure Draft where
  cycle : CycleId
  recordedAt : Time
  issuesBefore : Count
  issuesAfter : Count
  recipes : List String
  files : List RelPath
  verdict : Verdict
  deriving DecidableEq, Inhabited

/-- A link of the chain. -/
structure Record where
  sequence : UInt64
  draft : Draft
  previous : Digest
  own : Digest
  deriving DecidableEq, Inhabited

namespace Record

/-- The fields that a record's own digest covers. -/
def fields (sequence : UInt64) (d : Draft) (previous : Digest) : List Digest.Field :=
  [.bytes ⟨previous.bytes.toArray⟩, .number sequence, .text d.cycle.toText,
      .text (d.recordedAt.render 9), .number (UInt64.ofNat d.issuesBefore.toNat),
      .number (UInt64.ofNat d.issuesAfter.toNat), .number (UInt64.ofNat d.recipes.length)] ++
    d.recipes.map .text ++ [.number (UInt64.ofNat d.files.length)] ++
    d.files.map (fun f => .text f.text) ++ [.text d.verdict.name]

/-- The digest of all fields but the own digest. -/
def computeHash (r : Record) : Digest := Digest.ofFields (fields r.sequence r.draft r.previous)

/-- Makes a draft the link with a number after the link with a digest. -/
def ofDraft (d : Draft) (sequence : UInt64) (previous : Digest) : Record :=
  ⟨sequence, d, previous, Digest.ofFields (fields sequence d previous)⟩

/-- The stored form of a record. -/
def toJson (r : Record) : Json :=
  .obj [("sequence", .int r.sequence.toNat), ("cycle_id", Json.ofCycleId r.draft.cycle),
    ("recorded_at", Json.ofTime r.draft.recordedAt), ("prev_hash", Json.ofDigest r.previous),
    ("self_hash", Json.ofDigest r.own), ("issues_before", Json.ofCount r.draft.issuesBefore),
    ("issues_after", Json.ofCount r.draft.issuesAfter),
    ("recipes_applied", .arr (r.draft.recipes.map .str)),
    ("files_changed", .arr (r.draft.files.map Json.ofPath)), ("verdict", .str r.draft.verdict.name)]

/-- Reads a record, which has no other fields than its own. -/
def ofJson? (j : Json) : Option Record := do
  match ← Json.slots ["sequence", "cycle_id", "recorded_at", "prev_hash", "self_hash", "issues_before",
      "issues_after", "recipes_applied", "files_changed", "verdict"] true j with
  | [sequence, cycle, at_, previous, own, before, after, recipes, files, verdict] =>
    let sequence ← sequence.required (Json.nat? 64)
    let cycle ← cycle.required Json.cycleId?
    let at_ ← at_.required Json.time?
    let previous ← previous.required Json.digest?
    let own ← own.required Json.digest?
    let before ← before.required Json.count?
    let after ← after.required Json.count?
    let recipes ← recipes.required (Json.list? Json.text?)
    let files ← files.required (Json.list? Json.path?)
    let verdict ← verdict.required Verdict.ofJson?
    some ⟨UInt64.ofNat sequence, ⟨cycle, at_, before, after, recipes, files, verdict⟩, previous, own⟩
  | _ => none

instance : Stored Record := ⟨toJson, ofJson?⟩

/-- The line of a record. -/
def encode (r : Record) : String := Stored.line r

/-- Reads the line of a record. -/
def parse? (line : String) : Option Record := Stored.ofText? line

end Record

/-! ## Checking -/

/-- Checks a line as the link with number `index` after the link with digest `previous`. -/
def checkLine (index : Nat) (previous : Digest) (line : String) : Except Ledger.Fault Record :=
  match Record.parse? line with
  | none => .error .unparseable
  | some r =>
    if r.encode ≠ line then .error .notCanonical
    else if r.sequence.toNat ≠ index then .error (.sequence r.sequence index)
    else if r.previous ≠ previous then .error (.unlinked r.previous previous)
    else if r.own ≠ r.computeHash then .error (.selfHash r.own r.computeHash)
    else .ok r

/-- Checks lines as the links from number `index` on. -/
def checkLines (index : Nat) (previous : Digest) : List String → Except Ledger.Error (List Record)
  | [] => .ok []
  | line :: rest =>
    match checkLine index previous line with
    | .error fault => .error (.chainBroken (index + 1) fault.message)
    | .ok r =>
      match checkLines (index + 1) r.own rest with
      | .error e => .error e
      | .ok rs => .ok (r :: rs)

/-- How many line feeds there are among the first `n` bytes. -/
def lineFeeds (log : ByteArray) (n : Nat) : Nat := (log.extract 0 n).toList.count 10

/-- The records of a log, or its first bad line. Every line ends with a line feed. -/
def checkChain (log : ByteArray) : Except Ledger.Error (List Record) :=
  match Text.decode? log with
  | none => .error (.chainBroken (lineFeeds log (Text.validPrefix log) + 1) Ledger.Fault.notUtf8.message)
  | some text =>
    let lines := Text.lines text
    match lines.getLast? with
    | none => .ok []
    | some last =>
      if last.toList.getLast? = some '\n' then
        checkLines 0 Digest.zero (lines.map fun l => String.ofList l.toList.dropLast)
      else .error (.chainBroken lines.length Ledger.Fault.truncated.message)

/-! ## Appending -/

/-- The number and the digest that the next record links to, in a log whose chain is broken: those
after the last line that can be read. -/
def lastReadable (log : ByteArray) : UInt64 × Digest :=
  match ((Text.bodies (Text.decodeLossy log)).filterMap Record.parse?).getLast? with
  | some r => (r.sequence + 1, r.own)
  | none => (0, Digest.zero)

/-- The number and the digest that the next record links to. -/
def nextLink (log : ByteArray) : UInt64 × Digest :=
  match checkChain log with
  | .ok rs =>
    match rs.getLast? with
    | some r => (r.sequence + 1, r.own)
    | none => (0, Digest.zero)
  | .error _ => lastReadable log

/-- The record that a draft becomes at the end of a log. -/
def nextRecord (log : ByteArray) (d : Draft) : Record :=
  let (sequence, previous) := nextLink log
  Record.ofDraft d sequence previous

/-- Where the log is kept: here, or in a file. -/
inductive Store where
  | memory (log : ByteArray)
  | file (place : Place)
  deriving Inhabited

/-- A disk and an attestation log. -/
structure Session where
  disk : Disk
  store : Store

/-- The bytes of the log. -/
def Session.raw (s : Session) : Except Ledger.Error ByteArray :=
  match s.store with
  | .memory log => .ok log
  | .file p => Ledger.readOrEmpty p s.disk

/-- Appends a line. -/
def appendLine (line : String) : Action Session Ledger.Error Unit := do
  match (← get).store with
  | .memory log => modify fun s => { s with store := .memory (Ledger.withLine log line) }
  | .file p => (Ledger.appendLine p line).zoom Session.disk fun d s => { s with disk := d }

/-- Seals a draft and appends it. Damage of the log does not hinder it: the record then links to the
last one that can be read. -/
def record (d : Draft) : Action Session Ledger.Error Record := do
  let log ← Action.query Session.raw
  let r := nextRecord log d
  appendLine r.encode
  return r

/-- The records of the log. -/
def Session.records (s : Session) : Except Ledger.Error (List Record) :=
  match s.raw with
  | .error e => .error e
  | .ok log => checkChain log

/-- The log can be read and its chain is whole. -/
def Session.verified (s : Session) : Bool :=
  match s.records with
  | .ok _ => true
  | .error _ => false

end Mend.Attestation
