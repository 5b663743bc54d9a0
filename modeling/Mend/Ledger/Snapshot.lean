import Mend.Count
import Mend.Diff.Document
import Mend.Ledger.Files
import Mend.Ordered

/-!
# Snapshots

A snapshot tells, for every file that a cycle is about to write, the digests of its content before
and after, and the diff that leads back. Restoring first plans every file and then changes those that
hold the after-content; a file that someone else changed is left as found and reported as drifted.
-/

namespace Mend

open Fs (Disk DiskAction Place)

namespace Snapshot

/-- The content of a file before and after a change. -/
structure Capture where
  path : RelPath
  /-- None if there was no such file. -/
  before : Option String
  after : String
  deriving DecidableEq, Inhabited

/-- How to undo the change of a file. -/
structure Entry where
  path : RelPath
  before : Option Digest
  after : Digest
  undo : Diff
  deriving DecidableEq, Inhabited

/-- The digest of a text as a file's content. -/
def digestOf (s : String) : Digest := Digest.content s.toUTF8

/-- The undo entry of a capture. -/
def Entry.ofCapture (c : Capture) : Entry :=
  ⟨c.path, c.before.map digestOf, digestOf c.after, Diff.between c.after (c.before.getD "")⟩

/-- The stored form of an entry. -/
def Entry.toJson (e : Entry) : Json :=
  .obj [("path", Json.ofPath e.path), ("before_hash", Json.ofOption Json.ofDigest e.before),
    ("after_hash", Json.ofDigest e.after), ("undo", e.undo.toJson)]

/-- Reads an entry. -/
def Entry.ofJson? (j : Json) : Option Entry := do
  match ← Json.slots ["path", "before_hash", "after_hash", "undo"] false j with
  | [path, before, after, undo] =>
    some ⟨← path.required Json.path?, ← before.optional Json.digest?, ← after.required Json.digest?,
      ← undo.required Diff.ofJson?⟩
  | _ => none

instance : Stored Entry := ⟨Entry.toJson, Entry.ofJson?⟩

end Snapshot

/-- What a cycle was about to do to the workspace. -/
structure Snapshot where
  cycle : CycleId
  files : List Snapshot.Entry
  digest : Digest
  createdAt : Time
  deriving DecidableEq, Inhabited

namespace Snapshot

/-- The digest of a list of entries. -/
def digestEntries (files : List Entry) : Digest :=
  Digest.sha256 (Text.encode (Stored.line files))

/-- The snapshot of captures, in the order of their paths. -/
def capture (cycle : CycleId) (captures : List Capture) (now : Time) : Snapshot :=
  let files := (captures.map Entry.ofCapture).mergeSort fun a b => a.path.le b.path
  ⟨cycle, files, digestEntries files, now⟩

/-- Checks the entries against the recorded digest. -/
def verifyIntegrity (s : Snapshot) : Except Ledger.Error Unit :=
  let actual := digestEntries s.files
  if actual = s.digest then .ok () else .error (.integrityMismatch s.cycle s.digest actual)

/-- The stored form of a snapshot. -/
def toJson (s : Snapshot) : Json :=
  .obj [("cycle_id", Json.ofCycleId s.cycle), ("files", .arr (s.files.map Entry.toJson)),
    ("sha256", Json.ofDigest s.digest), ("created_at", Json.ofTime s.createdAt)]

/-- Reads a snapshot. -/
def ofJson? (j : Json) : Option Snapshot := do
  match ← Json.slots ["cycle_id", "files", "sha256", "created_at"] false j with
  | [cycle, files, digest, createdAt] =>
    some ⟨← cycle.required Json.cycleId?, ← files.required (Json.list? Entry.ofJson?),
      ← digest.required Json.digest?, ← createdAt.required Json.time?⟩
  | _ => none

instance : Stored Snapshot := ⟨toJson, ofJson?⟩

/-! ## Restoring -/

/-- What restoring did to a file. -/
inductive FileRestore where
  | restored
  /-- The cycle had made the file. -/
  | removed
  | alreadyRestored
  /-- Someone else changed the file, or took it away. -/
  | drifted (found : Option Digest)
  deriving DecidableEq

/-- What restoring did to the files of a snapshot. -/
structure Report where
  snapshot : CycleId
  files : List (RelPath × FileRestore)
  deriving DecidableEq

namespace Report

/-- How many files were written or removed. -/
def changed (r : Report) : Nat :=
  (r.files.filter fun f => f.2 = .restored || f.2 = .removed).length

/-- The files that were left as found. -/
def drifted (r : Report) : List RelPath :=
  r.files.filterMap fun f =>
    match f.2 with
    | .drifted _ => some f.1
    | _ => none

/-- Every file holds its before-content. -/
def isComplete (r : Report) : Bool := r.drifted.isEmpty

/-- The report, unless a file drifted. -/
def ensureComplete (r : Report) : Except Ledger.Error Report :=
  if r.isComplete then .ok r else .error (.drift r.snapshot r.drifted)

end Report

/-- What is to be done about a file. -/
inductive Plan where
  | write (content : String)
  | remove
  | skip
  | leave (found : Option Digest)
  deriving DecidableEq

/-- Decides by the digest of what a file holds now. Content that is no text is never undone. -/
def planFile (id : CycleId) (e : Entry) (current : Option ByteArray) : Except Ledger.Error Plan :=
  let found := current.map Digest.content
  if found = e.before then .ok .skip
  else if found ≠ some e.after then .ok (.leave found)
  else match e.before with
    | none => .ok .remove
    | some before =>
      match current.bind Text.decode? with
      | none => .ok (.leave found)
      | some after =>
        match e.undo.apply after with
        | .error err => .error (.diff err)
        | .ok rebuilt =>
          if digestOf rebuilt = before then .ok (.write rebuilt)
          else .error (.undoMismatch id e.path "rebuilt content does not match before-hash")

/-- The content of a file, if there is one. -/
def current (root : Place) (path : RelPath) (d : Disk) : Except Ledger.Error (Option ByteArray) :=
  let p := root.file path
  match d.read p.location with
  | .ok content => .ok (some content)
  | .error .notFound => .ok none
  | .error e => .error (.io p e)

/-- Plans all files on the disk as it is. -/
def planAll (root : Place) (id : CycleId) (d : Disk) : List Entry → Except Ledger.Error (List (Entry × Plan))
  | [] => .ok []
  | e :: rest => do
    let content ← current root e.path d
    let plan ← planFile id e content
    return (e, plan) :: (← planAll root id d rest)

/-- Carries out a plan. -/
def carryOut (root : Place) (e : Entry) : Plan → DiskAction Ledger.Error FileRestore
  | .write content => do
    Ledger.atomicWrite (root.file e.path) content.toUTF8
    return .restored
  | .remove => do
    let p := root.file e.path
    Action.update fun d =>
      match d.unlink p.location with
      | .ok d => .ok d
      | .error .notFound => .ok d
      | .error err => .error (.io p err)
    return .removed
  | .skip => return .alreadyRestored
  | .leave found => return .drifted found

/-- Brings the files of a snapshot back to what they held before its cycle. -/
def restore (s : Snapshot) (root : Place) : DiskAction Ledger.Error Report := do
  Action.query fun _ => s.verifyIntegrity
  let plans ← Action.query fun d => planAll root s.cycle d s.files
  let files ← plans.mapM fun (e, plan) => do return (e.path, ← carryOut root e plan)
  return ⟨s.cycle, files⟩

/-! ## Retention -/

/-- How many snapshots are kept, and for how many days. -/
structure Retention where
  maxCount : Nat := 20
  maxAgeDays : Count := 30
  deriving DecidableEq, Inhabited

/-- The stored form of a policy. -/
def Retention.toJson (r : Retention) : Json :=
  .obj [("max_count", .int r.maxCount), ("max_age_days", Json.ofCount r.maxAgeDays)]

/-- Reads a policy; what is missing has its usual value. -/
def Retention.ofJson? (j : Json) : Option Retention := do
  match ← Json.slots ["max_count", "max_age_days"] false j with
  | [count, age] =>
    some ⟨← count.withDefault (Json.nat? 64) 20,
      ← age.withDefault Json.count? 30⟩
  | _ => none

instance : Stored Retention := ⟨Retention.toJson, Retention.ofJson?⟩

/-- The identifiers to prune from a list with the newest first: those past the count and those that
are too old, but never `keep`. There is no age limit if the calendar does not reach so far back. -/
def Retention.expired (r : Retention) (ids : List CycleId) (keep : CycleId) (now : Time) : List CycleId :=
  let cutoff := now.daysBefore? r.maxAgeDays.toNat
  let tooOld (id : CycleId) : Bool :=
    match cutoff with
    | some c => id.createdAt.lt c
    | none => false
  (ids.zipIdx.filter fun (id, rank) => id ≠ keep && (r.maxCount ≤ rank || tooOld id)).map Prod.fst

/-! ## Stores -/

instance : Ord CycleId := ⟨fun a b => compare a.value b.value⟩

/-- Where snapshots are kept: here, or as files in a directory. What is kept here may be `lost`: then it
is still listed and cannot be loaded. -/
inductive Store where
  | memory (snapshots : Ordered CycleId Snapshot) (lost : Bool)
  | directory (place : Place)
  deriving Inhabited

/-- A disk and a store of snapshots. -/
structure Session where
  disk : Disk
  store : Store

/-- The file of a snapshot. -/
def fileFor (dir : Place) (id : CycleId) : Place := dir.child (id.toText ++ ".json")

/-- Stores a snapshot, unless there is one of that cycle already. -/
def save (s : Snapshot) : Action Session Ledger.Error Unit := do
  match (← get).store with
  | .memory t lost =>
    if Ordered.contains t s.cycle then pure ()
    else modify fun x => { x with store := .memory (Ordered.insert t s.cycle s) lost }
  | .directory dir =>
    let p := fileFor dir s.cycle
    if (← get).disk.exists p.location then pure ()
    else (Ledger.atomicWrite p (Stored.page s)).zoom Session.disk fun d x => { x with disk := d }

/-- The snapshot of a cycle. -/
def Session.load (x : Session) (id : CycleId) : Except Ledger.Error Snapshot :=
  match x.store with
  | .memory _ true => .error .noSnapshots
  | .memory t false =>
    match Ordered.get? t id with
    | some s => .ok s
    | none => .error (.snapshotNotFound id)
  | .directory dir =>
    let p := fileFor dir id
    match x.disk.read p.location with
    | .error .notFound => .error (.snapshotNotFound id)
    | .error e => .error (.io p e)
    | .ok content =>
      match (Stored.ofBytes? content : Option Snapshot) with
      | some s => .ok s
      | none => .error (.damaged p)

/-- The identifier that a file of the store is named for. -/
def idOfName? (name : String) : Option CycleId :=
  let cs := name.toList
  let suffix := ".json".toList
  if suffix.isSuffixOf cs then value? (CycleId.parse (String.ofList (cs.take (cs.length - suffix.length))))
  else none

/-- The identifiers, the newest first. -/
def Session.list (x : Session) : Except Ledger.Error (List CycleId) :=
  match x.store with
  | .memory t _ => .ok (Ordered.keys t).reverse
  | .directory dir =>
    match x.disk.names dir.location with
    | .error .notFound => .ok []
    | .error e => .error (.io dir e)
    | .ok names => .ok ((names.filterMap idOfName?).mergeSort fun a b => b.le a)

/-- Deletes a snapshot, if there is one. -/
def remove (id : CycleId) : Action Session Ledger.Error Unit := do
  match (← get).store with
  | .memory t lost => modify fun x => { x with store := .memory (Ordered.erase t id) lost }
  | .directory dir =>
    let p := fileFor dir id
    Action.update fun x =>
      match x.disk.unlink p.location with
      | .ok d => .ok { x with disk := d }
      | .error .notFound => .ok x
      | .error e => .error (.io p e)

/-- Deletes what has expired. What cannot be deleted or listed is left. -/
def prune (r : Retention) (keep : CycleId) (now : Time) : Action Session Ledger.Error Unit := do
  match (← get).list with
  | .error _ => pure ()
  | .ok ids =>
    (r.expired ids keep now).forM fun id => do
      let _ ← (remove id).outcome
      pure ()

/-- Captures files under the name of a cycle, and prunes the store. -/
def take (cycle : CycleId) (captures : List Capture) (r : Retention) (now : Time) :
    Action Session Ledger.Error Unit := do
  save (capture cycle captures now)
  prune r cycle now

/-- Restores the files of a stored snapshot. -/
def restoreId (id : CycleId) (root : Place) : Action Session Ledger.Error Report := do
  let s ← Action.query fun x => x.load id
  (s.restore root).zoom Session.disk fun d x => { x with disk := d }

/-- Restores the newest snapshot. -/
def restoreLatest (root : Place) : Action Session Ledger.Error Report := do
  match ← Action.query Session.list with
  | [] => throw .noSnapshots
  | id :: _ => restoreId id root

end Snapshot
end Mend
