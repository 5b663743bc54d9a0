import Mend.Proofs.Diff.Replay
import Mend.Proofs.Json.Record
import Mend.Proofs.Ledger.Restore
import Mend.Proofs.Ledger.StateFiles
import Mend.Proofs.Ordered

/-!
# Stored snapshots

A snapshot is read back from its file (`ofBytes?_page`). A store that took a snapshot has it
(`exec_take_memory`, `exec_take_directory`): pruning never removes it, since the files of different cycles
have different names (`locationOf_ne`). Whatever comes of taking it, no file outside the directory of the
store is touched (`fileAt_take`).
-/

namespace Mend.Diff

/-- A step whose count is a number of the stored form. -/
def Op.Counted : Op → Prop
  | .keep n => n < UInt64.size
  | .delete n => n < UInt64.size
  | .insert _ => True

theorem plain_op {op : Op} (h : op.Counted) : Json.Plain op.toJson := by
  cases op with
  | keep n => exact .obj (by simpa using .count h)
  | delete n => exact .obj (by simpa using .count h)
  | insert ls => exact .obj (by simpa using Json.plain_list fun s _ => .str s)

theorem ofJson?_op {op : Op} (h : op.Counted) : Op.ofJson? op.toJson = some op := by
  cases op with
  | keep n => rw [Op.toJson, Op.ofJson?, Json.nat?_ofNat h]; rfl
  | delete n => rw [Op.toJson, Op.ofJson?, Json.nat?_ofNat h]; rfl
  | insert ls => rw [Op.toJson, Op.ofJson?, Json.list?_texts]; rfl

theorem plain_toJson {d : Diff} (h : ∀ op ∈ d.ops, op.Counted) : Json.Plain d.toJson := by
  refine .obj ?_
  simp only [List.mem_singleton, forall_eq]
  exact Json.plain_list fun op hop => plain_op (h op hop)

theorem ofJson?_toJson {d : Diff} (h : ∀ op ∈ d.ops, op.Counted) : ofJson? d.toJson = some d := by
  have hslots : Json.slots ["ops"] false d.toJson = some [.given (.arr (d.ops.map Op.toJson))] := by
    rw [toJson]
    refine (Json.slots_obj ?_ ?_ false).trans ?_
    · rfl
    · simp
    · rfl
  rw [ofJson?, hslots, Option.bind_eq_bind, Option.bind_some]
  dsimp only
  rw [Json.Slot.required, Json.list?_map fun op hop => ofJson?_op (h op hop)]
  rfl

/-- The counts of a diff are those of the lines of its source. -/
theorem counted_between {source target : String} (h : (Text.lines source).length < UInt64.size) :
    ∀ op ∈ (between source target).ops, op.Counted := by
  intro op hop
  have hle := (rebuilds_ofLines (Text.lines source) (Text.lines target)).count_le
  cases op with
  | keep n => exact Nat.lt_of_le_of_lt (hle n (.inl (List.mem_reverse.mpr hop))) h
  | delete n => exact Nat.lt_of_le_of_lt (hle n (.inr (List.mem_reverse.mpr hop))) h
  | insert ls => trivial

end Mend.Diff

namespace Mend.Snapshot

/-! ## Documents -/

/-- An entry that is read back from its document. -/
structure Entry.Storable (e : Entry) : Prop where
  path : RelPath.parse e.path.text = .ok e.path
  undo : ∀ op ∈ e.undo.ops, op.Counted

theorem plain_entry {e : Entry} (h : ∀ op ∈ e.undo.ops, op.Counted) : Json.Plain e.toJson := by
  refine .obj fun f hf => ?_
  simp only [List.mem_cons, List.not_mem_nil, or_false] at hf
  rcases hf with rfl | rfl | rfl | rfl
  · exact .str _
  · cases e.before with
    | none => exact .null
    | some before => exact .str _
  · exact .str _
  · exact Diff.plain_toJson h

theorem slots_entry (e : Entry) : Json.slots ["path", "before_hash", "after_hash", "undo"] false e.toJson =
    some [.given (Json.ofPath e.path), .given (Json.ofOption Json.ofDigest e.before),
      .given (Json.ofDigest e.after), .given e.undo.toJson] := by
  rw [Entry.toJson]
  refine (Json.slots_obj ?_ ?_ false).trans ?_
  · rfl
  · simp
  · rfl

theorem ofJson?_entry {e : Entry} (h : e.Storable) : Entry.ofJson? e.toJson = some e := by
  have hbefore : (Json.Slot.given (Json.ofOption Json.ofDigest e.before)).optional Json.digest? = some e.before := by
    cases e.before with
    | none => rfl
    | some before => exact congrArg (Option.map some) (Json.digest?_ofDigest before)
  simp only [Entry.ofJson?, slots_entry, Json.Slot.required, hbefore, Json.path?_ofPath h.path, Json.digest?_ofDigest,
    Diff.ofJson?_toJson h.undo, Option.bind_eq_bind, Option.bind_some]

theorem plain_snapshot {s : Snapshot} (h : ∀ e ∈ s.files, ∀ op ∈ e.undo.ops, op.Counted) : Json.Plain s.toJson := by
  refine .obj fun f hf => ?_
  simp only [List.mem_cons, List.not_mem_nil, or_false] at hf
  rcases hf with rfl | rfl | rfl | rfl
  · exact .str _
  · exact Json.plain_list fun e he => plain_entry (h e he)
  · exact .str _
  · exact .str _

theorem slots_snapshot (s : Snapshot) : Json.slots ["cycle_id", "files", "sha256", "created_at"] false s.toJson =
    some [.given (Json.ofCycleId s.cycle), .given (.arr (s.files.map Entry.toJson)),
      .given (Json.ofDigest s.digest), .given (Json.ofTime s.createdAt)] := by
  rw [toJson]
  refine (Json.slots_obj ?_ ?_ false).trans ?_
  · rfl
  · simp
  · rfl

theorem ofJson?_snapshot {s : Snapshot} (h : ∀ e ∈ s.files, e.Storable) (htime : s.createdAt.Storable) :
    ofJson? s.toJson = some s := by
  simp only [ofJson?, slots_snapshot, Json.Slot.required, Json.cycleId?_ofCycleId, Json.digest?_ofDigest,
    Json.time?_ofTime htime, Json.list?_map fun e he => ofJson?_entry (h e he), Option.bind_eq_bind, Option.bind_some]

theorem ofBytes?_page {s : Snapshot} (h : ∀ e ∈ s.files, e.Storable) (htime : s.createdAt.Storable) :
    (Stored.ofBytes? (Stored.page s) : Option Snapshot) = some s := by
  show (Json.parseBytes (Text.encode s.toJson.pretty)).bind ofJson? = some s
  rw [Json.parseBytes_pretty (plain_snapshot fun e he => (h e he).undo), Option.bind_some, ofJson?_snapshot h htime]

end Mend.Snapshot

namespace Mend.Snapshot

open Fs Fs.Disk Ledger
open Function (update)

instance : Std.TransOrd CycleId := inferInstanceAs (Std.TransCmp (compareOn CycleId.value))

instance : Std.LawfulEqOrd CycleId where
  compare_self := Nat.compare_eq_eq.mpr rfl
  eq_of_compare h := CycleId.eq_of_value (Nat.compare_eq_eq.mp h)

/-! ## Pruning -/

/-- What is to be kept never expires. -/
theorem not_mem_expired (r : Retention) (ids : List CycleId) (keep : CycleId) (now : Time) :
    keep ∉ r.expired ids keep now := by
  intro hkeep
  obtain ⟨e, he, heq⟩ := List.mem_map.mp hkeep
  have hne := (List.mem_filter.mp he).2
  simp only [Bool.and_eq_true, decide_eq_true_eq] at hne
  exact hne.1 heq

/-- Pruning only ever removes other snapshots, one after the other. -/
theorem exec_prune {R : Session → Prop} (r : Retention) {keep : CycleId} (now : Time) {x : Session}
    (hstep : ∀ id ≠ keep, ∀ y, R y → R ((remove id).exec y).2) (h : R x) :
    ∃ x', (prune r keep now).exec x = (.ok (), x') ∧ R x' := by
  have hrun (ids : List CycleId) (hids : ∀ id ∈ ids, id ≠ keep) (x : Session) (h : R x) :
      ∃ x', (ids.forM fun id => do
        let _ ← (remove id).outcome (δ := Ledger.Error)
        pure () : Action Session Ledger.Error Unit).exec x = (.ok (), x') ∧ R x' := by
    induction ids generalizing x with
    | nil => exact ⟨x, rfl, h⟩
    | cons id ids ih =>
      obtain ⟨x', hrest, hx'⟩ := ih (fun k hk => hids k (by simp [hk])) _ (hstep id (hids id (by simp)) x h)
      exact ⟨x', hrest, hx'⟩
  rw [prune, Action.exec_bind_ok (Action.exec_get x)]
  cases x.list with
  | error e => exact ⟨x, rfl, h⟩
  | ok ids =>
    refine hrun _ (fun id hid => ?_) x h
    rintro rfl
    exact not_mem_expired r ids id now hid

/-! ## Taking a snapshot -/

variable {id : CycleId} {cs : List Capture} {r : Retention} {now : Time} {x x' : Session}

/-- A store that is kept here has the snapshot. -/
theorem exec_take_memory {t : Ordered CycleId Snapshot} (hstore : x.store = .memory t false)
    (hnew : Ordered.contains t id = false) :
    ∃ t', (take id cs r now).exec x = (.ok (), ⟨x.disk, .memory t' false⟩) ∧
      Ordered.get? t' id = some (capture id cs now) := by
  obtain ⟨disk, store⟩ := x
  subst hstore
  have hsave : (save (capture id cs now)).exec ⟨disk, .memory t false⟩ =
      (.ok (), ⟨disk, .memory (Ordered.insert t id (capture id cs now)) false⟩) := by
    rw [save, Action.exec_bind_ok (Action.exec_get _)]
    have hcontains : Ordered.contains t (capture id cs now).cycle = false := hnew
    simp only [hcontains]
    rfl
  let R (y : Session) : Prop :=
    ∃ t', y = ⟨disk, .memory t' false⟩ ∧ Ordered.get? t' id = some (capture id cs now)
  obtain ⟨x', hprune, t', rfl, hget⟩ := exec_prune (R := R) r now
    (x := ⟨disk, .memory (Ordered.insert t id (capture id cs now)) false⟩)
    (by
      rintro k hk y ⟨t', rfl, hget⟩
      exact ⟨_, rfl, Ordered.get?_erase_of_ne hk hget⟩)
    ⟨_, rfl, by simp [Ordered.get?_insert]⟩
  exact ⟨t', by rw [take, Action.exec_bind_ok hsave, hprune], hget⟩

/-- A store that is kept here leaves the disk alone. -/
theorem disk_take_memory (id : CycleId) (cs : List Capture) (r : Retention) (now : Time) (d : Disk)
    (t : Ordered CycleId Snapshot) (lost : Bool) :
    ∃ t', (take id cs r now).exec ⟨d, .memory t lost⟩ = (.ok (), ⟨d, .memory t' lost⟩) := by
  obtain ⟨t₁, hsave⟩ : ∃ t₁, (save (capture id cs now)).exec ⟨d, .memory t lost⟩ = (.ok (), ⟨d, .memory t₁ lost⟩) := by
    rw [save, Action.exec_bind_ok (Action.exec_get _)]
    dsimp only
    split
    · exact ⟨t, rfl⟩
    · exact ⟨_, rfl⟩
  obtain ⟨x', hprune, t', rfl⟩ := exec_prune (R := fun y => ∃ t', y = ⟨d, .memory t' lost⟩) r now
    (by
      rintro k - y ⟨t', rfl⟩
      exact ⟨_, rfl⟩)
    ⟨t₁, rfl⟩
  exact ⟨t', (Action.exec_bind_ok hsave _).trans hprune⟩

theorem fileFor_name (id : CycleId) :
    id.toText ++ ".json" ≠ "" ∧ id.toText ++ ".json" ≠ "." ∧ id.toText ++ ".json" ≠ ".." := by
  have hlong : 5 ≤ (id.toText ++ ".json").length := by
    rw [String.length_append, show ".json".length = 5 by decide]
    omega
  refine ⟨?_, ?_, ?_⟩ <;> intro h <;> rw [h] at hlong <;> exact absurd hlong (by decide)

/-- The location of a snapshot's file. -/
def locationOf (dir : Place) (id : CycleId) : Location := resolve [] dir.location ++ [id.toText ++ ".json"]

theorem resolve_fileFor (dir : Place) (id : CycleId) : resolve [] (fileFor dir id).location = locationOf dir id :=
  resolve_child (fileFor_name id)

theorem locationOf_ne {dir : Place} {k id : CycleId} (h : k ≠ id) : locationOf dir k ≠ locationOf dir id := by
  intro e
  have hname : k.toText ++ ".json" = id.toText ++ ".json" := by simpa [locationOf] using e
  exact h (CycleId.toText_inj ((String.append_left_inj _).mp hname))

/-- A file was put at a location; other files may have been taken away. -/
structure Filed (d : Disk) (k : Location) (content : ByteArray) (d' : Disk) : Prop where
  file : ∃ mode, d'.node? k = some (.file content mode)
  other : ∀ m ≠ k, d'.node? m = d.node? m ∨ d.node? m ≠ some .dir ∧ d'.node? m = none

theorem Filed.unlink {d d' d'' : Disk} {k l : Location} {content : ByteArray} {steps : Location}
    (h : Filed d k content d') (hslot : Slot d' steps l) (hview : d''.node? = update d'.node? l none)
    (hne : l ≠ k) : Filed d k content d'' where
  file := by
    rw [hview, Function.update_of_ne (Ne.symm hne)]
    exact h.file
  other m hm := by
    by_cases hml : m = l
    · subst hml
      rw [hview, Function.update_self]
      rcases h.other m hm with e | ⟨hdir, -⟩
      · exact .inr ⟨e ▸ hslot.not_dir, rfl⟩
      · exact .inr ⟨hdir, rfl⟩
    · rw [hview, Function.update_of_ne hml]
      exact h.other m hm

/-- Deleting a snapshot deletes its file or does nothing. -/
theorem exec_remove_directory {dir : Place} (hstore : x.store = .directory dir) (id : CycleId) :
    ((remove id).exec x).2.store = .directory dir ∧
      (((remove id).exec x).2.disk = x.disk ∨ Slot x.disk (fileFor dir id).location (locationOf dir id) ∧
        ((remove id).exec x).2.disk.node? = update x.disk.node? (locationOf dir id) none) := by
  obtain ⟨disk, store⟩ := x
  subst hstore
  rw [remove, Action.exec_bind_ok (Action.exec_get _)]
  simp only [Action.exec_update]
  cases hunlink : disk.unlink (fileFor dir id).location with
  | error e => cases e <;> exact ⟨rfl, .inl rfl⟩
  | ok d =>
    obtain ⟨l, hslot, hview⟩ := unlink_ok hunlink
    obtain rfl : l = locationOf dir id := by rw [locate_eq_resolve hslot.locate, resolve_fileFor]
    exact ⟨rfl, .inr ⟨hslot, hview⟩⟩

/-- A store in a directory that took a snapshot has put its file there. -/
theorem exec_take_directory {dir : Place} (hstore : x.store = .directory dir)
    (hnew : x.disk.node? (locationOf dir id) = none) (h : (take id cs r now).exec x = (.ok (), x')) :
    ∃ d, (makeParent (fileFor dir id)).exec x.disk = (.ok (), d) ∧
      Slot d (fileFor dir id).location (locationOf dir id) ∧ x'.store = .directory dir ∧
      Filed d (locationOf dir id) (Stored.page (capture id cs now)) x'.disk := by
  obtain ⟨disk, store⟩ := x
  subst hstore
  have hexists : disk.exists (fileFor dir id).location = false := by
    rw [Disk.exists]
    cases hfind : disk.find (fileFor dir id).location with
    | error e => rfl
    | ok n =>
      obtain ⟨l, hlocate, hnode⟩ := locate_of_find hfind
      rw [locate_eq_resolve hlocate, resolve_fileFor, hnew] at hnode
      cases hnode
  cases hwrite : (atomicWrite (fileFor dir id) (Stored.page (capture id cs now))).exec disk with
  | mk r₁ d' =>
  have hsave : (save (capture id cs now)).exec ⟨disk, .directory dir⟩ = (r₁, ⟨d', .directory dir⟩) := by
    rw [save, Action.exec_bind_ok (Action.exec_get _)]
    have hcycle : (capture id cs now).cycle = id := rfl
    dsimp only
    rw [hcycle, Action.exec_bind_ok (Action.exec_get _), hexists]
    simp [hwrite]
  rw [take, Action.exec_bind, hsave] at h
  cases r₁ with
  | error e => cases (Prod.mk.inj h).1
  | ok =>
  dsimp only at h
  obtain ⟨d, l, k, mode, hmake, hl, hk, hne, hview⟩ := atomicWrite_ok hwrite
  obtain rfl : k = locationOf dir id := by rw [locate_eq_resolve hk.locate, resolve_fileFor]
  have hfiled : Filed d (locationOf dir id) (Stored.page (capture id cs now)) d' := by
    refine ⟨⟨mode, by rw [hview, Function.update_self]⟩, fun m hm => ?_⟩
    rw [hview, Function.update_of_ne hm, Function.update_apply]
    split
    · next hml => exact .inr ⟨hml ▸ hl.not_dir, rfl⟩
    · exact .inl rfl
  obtain ⟨x'', hprune, hstore, hfiled'⟩ := exec_prune r now
    (R := fun y => y.store = .directory dir ∧
      Filed d (locationOf dir id) (Stored.page (capture id cs now)) y.disk)
    (by
      rintro other hother y ⟨hy, hfiled⟩
      obtain ⟨hy', hdisk | ⟨hslot, hview⟩⟩ := exec_remove_directory hy other
      · exact ⟨hy', hdisk ▸ hfiled⟩
      · exact ⟨hy', hfiled.unlink hslot hview (locationOf_ne hother)⟩)
    (x := ⟨d', .directory dir⟩) ⟨rfl, hfiled⟩
  rw [h] at hprune
  obtain rfl := (Prod.mk.inj hprune).2
  exact ⟨d, hmake, hk, hstore, hfiled'⟩

/-- Whatever comes of storing a snapshot, no file outside the directory is touched. -/
theorem fileAt_save {dir : Place} {s : Snapshot} {res : Except Ledger.Error Unit}
    (hstore : x.store = .directory dir) (h : (save s).exec x = (res, x')) :
    x'.store = .directory dir ∧
      ∀ m, ¬ resolve [] dir.location <+: m → x'.disk.fileAt m = x.disk.fileAt m := by
  obtain ⟨disk, store⟩ := x
  subst hstore
  rw [save, Action.exec_bind_ok (Action.exec_get _)] at h
  dsimp only at h
  rw [Action.exec_bind_ok (Action.exec_get _)] at h
  split at h
  · obtain ⟨-, rfl⟩ := Prod.mk.inj h
    exact ⟨rfl, fun m _ => rfl⟩
  · rw [Action.exec_zoom] at h
    obtain ⟨-, rfl⟩ := Prod.mk.inj h
    exact ⟨rfl, fun m hm => fileAt_atomicWrite_child (fileFor_name s.cycle) (Prod.ext rfl rfl) hm⟩

/-- Whatever comes of taking a snapshot, no file outside the directory is touched. -/
theorem fileAt_take {dir : Place} {res : Except Ledger.Error Unit} (hstore : x.store = .directory dir)
    (h : (take id cs r now).exec x = (res, x')) :
    x'.store = .directory dir ∧
      ∀ m, ¬ resolve [] dir.location <+: m → x'.disk.fileAt m = x.disk.fileAt m := by
  rw [take, Action.exec_bind] at h
  cases hsave : (save (capture id cs now)).exec x with
  | mk r₁ x₁ =>
  rw [hsave] at h
  have hsaved := fileAt_save hstore hsave
  cases r₁ with
  | error e =>
    obtain ⟨-, rfl⟩ := Prod.mk.inj h
    exact hsaved
  | ok =>
    obtain ⟨x₂, hprune, hx₂⟩ := exec_prune r now
      (R := fun y => y.store = .directory dir ∧
        ∀ m, ¬ resolve [] dir.location <+: m → y.disk.fileAt m = x.disk.fileAt m)
      (by
        rintro other - y ⟨hy, hsame⟩
        obtain ⟨hy', hdisk | ⟨-, hview⟩⟩ := exec_remove_directory hy other
        · exact ⟨hy', hdisk ▸ hsame⟩
        · refine ⟨hy', fun m hm => ?_⟩
          rw [fileAt_of_update hview, hsame m hm]
          rintro rfl
          exact hm (List.prefix_append _ _))
      hsaved
    dsimp only at h
    rw [h] at hprune
    obtain rfl := (Prod.mk.inj hprune).2
    exact hx₂

/-- What holds of the entries of all captures holds of those of the snapshot. -/
theorem forall_mem_files {P : Entry → Prop} (h : ∀ c ∈ cs, P (Entry.ofCapture c)) :
    ∀ e ∈ (capture id cs now).files, P e := by
  intro e he
  rw [files_capture] at he
  obtain ⟨c, hc, rfl⟩ := List.mem_map.mp he
  exact h c (mem_sorted.mp hc)

/-- What a store in a directory loads is what its file holds. -/
theorem load_directory {dir : Place} (hstore : x.store = .directory dir)
    (hslot : Slot x.disk (fileFor dir id).location (locationOf dir id))
    (hfile : x.disk.fileAt (locationOf dir id) = some (Stored.page (capture id cs now)))
    (hentries : ∀ c ∈ cs, (Entry.ofCapture c).Storable) (htime : now.Storable) :
    x.load id = .ok (capture id cs now) := by
  have hread : x.disk.read (fileFor dir id).location = .ok (Stored.page (capture id cs now)) := by
    rw [hslot.read, hfile]
  have hpage : (Stored.ofBytes? (Stored.page (capture id cs now)) : Option Snapshot) = some (capture id cs now) := by
    exact ofBytes?_page (fun e he => forall_mem_files hentries e he) htime
  rw [Session.load, hstore]
  simp only [hread, hpage]

theorem storable_ofCapture {c : Capture} (hpath : RelPath.parse c.path.text = .ok c.path)
    (hlines : (Text.lines c.after).length < UInt64.size) : (Entry.ofCapture c).Storable :=
  ⟨hpath, Diff.counted_between hlines⟩

end Mend.Snapshot
