import Mend.Proofs.Engine.Surroundings
import Mend.Proofs.Ordered

/-!
# Batches

A batch has one new content for each file that an issue points into. Each was made from what its file held at
some moment, and differs from that (`prepare_ok`). While a batch is written, every file of it holds what it
held before, or what others made of it, or its new content, and no other file is touched.
-/

namespace Mend

open Fs Fs.Disk Ledger
open Action
open Function (update)

/-- No more lines change than the limit allows, as far as they can be counted. -/
def Prepared.Fits (p : Prepared) (maxLines : Count) : Prop :=
  Count.ofNatClamped (Diff.between p.before p.after).changedLines ≤ maxLines

/-- The record of a file that was written. -/
def Prepared.applied (p : Prepared) : Applied := ⟨p.file, p.recipes, p.issues, p.beforeDigest, p.afterDigest, p.changed⟩

namespace Batch

variable {σ : Type} {e : Engine} {id : CycleId} {w w' : Workspace} {b : Batch}

/-! ## Preparing -/

theorem ascending_byFile (fixes : List (Fix σ)) : Ordered.Ascending (byFile fixes) := by
  suffices h : ∀ t : Ordered RelPath (List (Fix σ)), Ordered.Ascending t → Ordered.Ascending
      (fixes.foldl (fun t f => Ordered.insert t f.issue.file ((Ordered.get? t f.issue.file).getD [] ++ [f])) t) from
    h [] List.Pairwise.nil
  induction fixes with
  | nil => exact fun t h => h
  | cons f fixes ih => exact fun t h => ih _ (h.insert _ _)

/-- Only files that a repair is for are in the table. -/
theorem exists_of_mem_byFile {fixes : List (Fix σ)} {p : RelPath} (h : p ∈ Ordered.keys (byFile fixes)) :
    ∃ f ∈ fixes, f.issue.file = p := by
  suffices hall : ∀ t : Ordered RelPath (List (Fix σ)), p ∈ Ordered.keys
      (fixes.foldl (fun t f => Ordered.insert t f.issue.file ((Ordered.get? t f.issue.file).getD [] ++ [f])) t) →
      p ∈ Ordered.keys t ∨ ∃ f ∈ fixes, f.issue.file = p by
    exact (hall [] h).resolve_left (by simp [Ordered.keys])
  clear h
  induction fixes with
  | nil => exact fun t h => .inl h
  | cons f fixes ih =>
    intro t h
    rcases ih _ h with h | ⟨k, hk, rfl⟩
    · rcases Ordered.mem_keys_insert h with rfl | h
      · exact .inr ⟨f, by simp, rfl⟩
      · exact .inl h
    · exact .inr ⟨k, by simp [hk], rfl⟩

/-- A new content was made from what the files show, and differs from it within the limit. -/
theorem prepareFile_ok {g : Registry} {maxLines : Count} {files : Recipe.Files} {timely : Except Engine.Error Unit}
    {file : RelPath} {fixes : List (Fix σ)} {p : Prepared}
    (h : prepareFile g maxLines files timely file fixes = .ok (some p)) :
    p.file = file ∧ files file = .ok p.before ∧ p.after ≠ p.before ∧ p.Fits maxLines := by
  rw [prepareFile] at h
  split at h
  · cases h
  split at h
  · cases h
  next before hbefore =>
  split at h
  · cases h
  next after _ =>
  split at h
  · cases h
  next hne =>
  dsimp only at h
  split at h
  · cases h
  · next hfits =>
    obtain rfl := Option.some.inj (Except.ok.inj h)
    exact ⟨rfl, hbefore, hne, UInt32.not_lt.mp hfits⟩

theorem mem_of_collect {rs : List (Except Engine.Error (Option Prepared))} (h : collect rs = .ok b) :
    ∀ p ∈ b, .ok (some p) ∈ rs := by
  induction rs generalizing b with
  | nil =>
    obtain rfl := Except.ok.inj h
    simp
  | cons r rs ih =>
    rcases r with e | (_ | q)
    · cases h
    · exact fun p hp => List.mem_cons_of_mem _ (ih h p hp)
    · rw [collect] at h
      cases hrest : collect rs with
      | error e => rw [hrest] at h; cases h
      | ok rest =>
        rw [hrest] at h
        obtain rfl := Except.ok.inj h
        intro p hp
        rcases List.mem_cons.mp hp with rfl | hp
        · exact List.mem_cons_self
        · exact List.mem_cons_of_mem _ (ih hrest p hp)

section

variable {g : Registry} {maxLines : Count} {root : Place} {deadline : Option Deadline}

/-- Preparing a file looks at the disk; then it is the turn of others. -/
theorem exec_prepareEach_cons (file : RelPath) (fixes : List (Fix σ)) (rest : List (RelPath × List (Fix σ)))
    (w : Workspace) :
    (prepareEach g maxLines root deadline ((file, fixes) :: rest)).exec w =
      match (prepareEach g maxLines root deadline rest).exec ((Workspace.pause .prepared).exec w).2 with
      | (.ok rs, w') =>
        (.ok (prepareFile g maxLines (filesOf root w.disk) (checkDeadline deadline w.clock) file fixes :: rs), w')
      | (.error e, w') => (.error e, w') := by
  rw [prepareEach, exec_bind_ok (exec_get w)]
  dsimp only
  rw [exec_bind_ok (Workspace.exec_pause .prepared w), exec_bind, Workspace.exec_pause]
  rcases (prepareEach g maxLines root deadline rest).exec _ with ⟨_ | _, _⟩ <;> rfl

theorem keeps_prepareEach {P : Workspace → Prop} (hpause : Keeps P (Workspace.pause .prepared))
    (fixes : List (RelPath × List (Fix σ))) : Keeps P (prepareEach g maxLines root deadline fixes) := by
  induction fixes with
  | nil => exact keeps_pure _
  | cons f rest ih => exact keeps_get.bind fun w => hpause.bind fun _ => ih.bind fun _ => keeps_pure _

/-- Each new content was made on a workspace on the way. -/
theorem prepareEach_ok {P : Workspace → Prop} (hpause : Keeps P (Workspace.pause .prepared))
    {fixes : List (RelPath × List (Fix σ))} {rs : List (Except Engine.Error (Option Prepared))} (h : P w)
    (hrun : (prepareEach g maxLines root deadline fixes).exec w = (.ok rs, w')) {p : Prepared}
    (hp : .ok (some p) ∈ rs) :
    p.file ∈ fixes.map Prod.fst ∧ p.after ≠ p.before ∧ p.Fits maxLines ∧ ∃ v, P v ∧ filesOf root v.disk p.file = .ok p.before ∧
      ∀ R : Workspace → Prop, Keeps R (Workspace.pause .prepared) → R v → R w' := by
  induction fixes generalizing w rs with
  | nil =>
    obtain ⟨hrs, -⟩ := Prod.mk.inj hrun
    obtain rfl := Except.ok.inj hrs
    simp at hp
  | cons f rest ih =>
    obtain ⟨file, fixes⟩ := f
    rw [exec_prepareEach_cons] at hrun
    rcases hrest : (prepareEach g maxLines root deadline rest).exec ((Workspace.pause .prepared).exec w).2 with ⟨r, v⟩
    rw [hrest] at hrun
    cases r with
    | error e => cases (Prod.mk.inj hrun).1
    | ok rs' =>
    obtain ⟨hrs, rfl⟩ := Prod.mk.inj hrun
    obtain rfl := Except.ok.inj hrs
    rcases List.mem_cons.mp hp with hp | hp
    · obtain ⟨hfile, hbefore, hne, hfits⟩ := prepareFile_ok hp.symm
      rw [← hfile] at hbefore
      refine ⟨by simp [hfile], hne, hfits, w, h, hbefore, fun R hR hw => ?_⟩
      have hkept : R ((prepareEach g maxLines root deadline rest).exec ((Workspace.pause .prepared).exec w).2).2 :=
        keeps_prepareEach hR rest _ (hR w hw)
      rwa [hrest] at hkept
    · obtain ⟨hmem, hrest'⟩ := ih (hpause w h) hrest hp
      exact ⟨List.mem_cons_of_mem _ hmem, hrest'⟩

/-- The batch has the files in their order. -/
theorem files_of_collect {fixes : List (RelPath × List (Fix σ))} {rs : List (Except Engine.Error (Option Prepared))}
    (hrun : (prepareEach g maxLines root deadline fixes).exec w = (.ok rs, w')) (h : collect rs = .ok b) :
    (b.map Prepared.file).Sublist (fixes.map Prod.fst) := by
  induction fixes generalizing w rs b with
  | nil =>
    obtain ⟨hrs, -⟩ := Prod.mk.inj hrun
    obtain rfl := Except.ok.inj hrs
    obtain rfl := Except.ok.inj h
    exact .slnil
  | cons f rest ih =>
    obtain ⟨file, fixes⟩ := f
    rw [exec_prepareEach_cons] at hrun
    rcases hrest : (prepareEach g maxLines root deadline rest).exec ((Workspace.pause .prepared).exec w).2 with ⟨r, v⟩
    rw [hrest] at hrun
    cases r with
    | error e => cases (Prod.mk.inj hrun).1
    | ok rs' =>
    obtain ⟨hrs, rfl⟩ := Prod.mk.inj hrun
    obtain rfl := Except.ok.inj hrs
    cases hfile : prepareFile g maxLines (filesOf root w.disk) (checkDeadline deadline w.clock) file fixes with
    | error e => rw [hfile] at h; cases h
    | ok made =>
    rw [hfile] at h
    cases made with
    | none => exact (ih hrest h).cons _
    | some q =>
      rw [collect] at h
      cases hcollect : collect rs' with
      | error e => rw [hcollect] at h; cases h
      | ok b' =>
        rw [hcollect] at h
        obtain rfl := Except.ok.inj h
        have hq := (prepareFile_ok hfile).1
        rw [List.map_cons, List.map_cons, hq]
        exact (ih hrest hcollect).cons_cons _

end

/-- What a batch was made for, and what is known of its files whenever it is written. -/
structure Sound (e : Engine) (b : Batch) : Prop where
  target : ∀ p ∈ b, e.Target p.file
  named : ∀ p ∈ b, ∀ name, p.file.segments.getLast? ≠ some (name ++ temporarySuffix)
  nodup : (b.map Prepared.file).Nodup
  change : ∀ p ∈ b, p.after ≠ p.before

theorem file_of_filesOf {root : Place} {d : Disk} {p : RelPath} {s : String} (hp : p.Proper)
    (h : filesOf root d p = .ok s) :
    Slot d (root.file p).location (p.below root) ∧ ∃ mode, d.node? (p.below root) = some (.file s.toUTF8 mode) := by
  rw [filesOf, readText] at h
  split at h
  · cases h
  next content hread =>
  split at h
  · next decoded hdecode =>
    obtain rfl := Except.ok.inj h
    obtain ⟨hslot, mode, hnode⟩ := RelPath.slot_of_read hp hread
    rw [Text.encode_of_decode? hdecode] at hnode
    exact ⟨hslot, mode, hnode⟩
  · cases h

theorem exec_prepare_ok {fixes : List (Fix σ)} {g : Registry} {maxLines : Count} {root : Place}
    {deadline : Option Deadline} (hrun : (prepare g maxLines root deadline fixes).exec w = (.ok b, w')) :
    ∃ rs, (prepareEach g maxLines root deadline (byFile fixes)).exec w = (.ok rs, w') ∧ collect rs = .ok b := by
  rw [prepare, exec_bind] at hrun
  rcases hprepare : (prepareEach g maxLines root deadline (byFile fixes)).exec w with ⟨error | rs, v⟩
  · rw [hprepare] at hrun
    cases (Prod.mk.inj hrun).1
  · rw [hprepare] at hrun
    obtain ⟨hcollect, rfl⟩ := Prod.mk.inj hrun
    exact ⟨rs, rfl, hcollect⟩

theorem nodup_of_prepare {fixes : List (Fix σ)} {g : Registry} {maxLines : Count} {root : Place}
    {deadline : Option Deadline} (hrun : (prepare g maxLines root deadline fixes).exec w = (.ok b, w')) :
    (b.map Prepared.file).Nodup := by
  obtain ⟨rs, hprepare, hcollect⟩ := exec_prepare_ok hrun
  exact (files_of_collect hprepare hcollect).nodup (ascending_byFile fixes).nodup

/-- A batch that could be prepared is sound, and its files are found. None of them is the file that the snapshot
of the cycle is to be stored in. -/
theorem prepare_ok {fixes : List (Fix σ)} {maxLines : Count} {deadline : Option Deadline} (h : e.Steady id w)
    (hproper : ∀ p, e.Target p → p.Proper) (htarget : ∀ f ∈ fixes, e.Target f.issue.file)
    (hrun : (prepare e.registry maxLines e.root deadline fixes).exec w = (.ok b, w')) :
    e.Steady id w' ∧ Sound e b ∧ (∀ p ∈ b, e.Found w'.disk p.file) ∧
      (w'.snapshots = .directory e.layout.snapshots →
        ∀ p ∈ b, p.file.below e.root ≠ Snapshot.locationOf e.layout.snapshots id) := by
  obtain ⟨rs, hprepare, hcollect⟩ := exec_prepare_ok hrun
  have hsteady : e.Steady id w' := by
    have hkept : e.Steady id ((prepareEach e.registry maxLines e.root deadline (byFile fixes)).exec w).2 :=
      keeps_prepareEach (Engine.keeps_pause .prepared) _ _ h
    rwa [hprepare] at hkept
  have hmade : ∀ p ∈ b, e.Target p.file ∧ p.after ≠ p.before ∧ ∃ u, (e.Steady id u ∧ u.snapshots = w.snapshots) ∧
      filesOf e.root u.disk p.file = .ok p.before ∧
      ∀ R : Workspace → Prop, Keeps R (Workspace.pause .prepared) → R u → R w' := by
    intro p hp
    obtain ⟨hfile, hne, -, hrest⟩ := prepareEach_ok (P := fun u => e.Steady id u ∧ u.snapshots = w.snapshots)
      (fun u hu => ⟨Engine.keeps_pause .prepared u hu.1, hu.2⟩) ⟨h, rfl⟩ hprepare (mem_of_collect hcollect p hp)
    obtain ⟨f, hf, hfile'⟩ := exists_of_mem_byFile hfile
    exact ⟨hfile' ▸ htarget f hf, hne, hrest⟩
  refine ⟨hsteady, ⟨fun p hp => (hmade p hp).1, ?_, ?_, fun p hp => (hmade p hp).2.1⟩, ?_, ?_⟩
  · -- a file that was found has no name of a temporary file
    intro p hp name hname
    obtain ⟨htarget, -, u, ⟨hu, -⟩, hread, -⟩ := hmade p hp
    obtain ⟨-, mode, hnode⟩ := file_of_filesOf (hproper _ htarget) hread
    have hlocation : p.file.below e.root =
        resolve [] e.root.location ++ p.file.segments.dropLast ++ [name ++ temporarySuffix] := by
      have hsegments := List.dropLast_append_getLast? _ hname
      rw [RelPath.below, List.append_assoc, hsegments]
    rw [hlocation, hu.clean] at hnode
    cases hnode
  · exact nodup_of_prepare hrun
  · intro p hp
    obtain ⟨htarget, -, u, ⟨hu, -⟩, hread, hkept⟩ := hmade p hp
    obtain ⟨hslot, mode, hnode⟩ := file_of_filesOf (hproper _ htarget) hread
    have hfound : e.Found u.disk p.file := ⟨hslot, fun _ => by simp [hnode]⟩
    have hpause : Keeps (fun u => e.Steady id u ∧ e.Found u.disk p.file) (Workspace.pause .prepared) := by
      rintro u ⟨hu, hfound⟩
      exact ⟨Engine.keeps_pause .prepared u hu, hfound.foreign htarget (hu.edits u.pauses .prepared u.disk)⟩
    exact (hkept _ hpause ⟨hu, hfound⟩).2
  · intro hdir p hp e'
    obtain ⟨htarget, -, u, ⟨hu, hstore⟩, hread, hkept⟩ := hmade p hp
    obtain ⟨-, mode, hnode⟩ := file_of_filesOf (hproper _ htarget) hread
    have hsnapshots := hkept (fun v => v.snapshots = w.snapshots) (fun u hu => hu) hstore
    rcases hu.fresh with ⟨t, ht, -⟩ | ⟨-, hnone⟩
    · rw [hstore, ← hsnapshots, hdir] at ht
      cases ht
    · rw [← e', hnode] at hnone
      cases hnone

/-! ## The snapshot -/

/-- The store has the snapshot of the cycle. If it is in a file, the batch does not have that file. -/
def Holds (e : Engine) (id : CycleId) (b : Batch) (s : Snapshot) (store : Snapshot.Store) (d : Disk) : Prop :=
  (∃ t, store = .memory t false ∧ Ordered.get? t id = some s) ∨
    store = .directory e.layout.snapshots ∧
      Slot d (Snapshot.fileFor e.layout.snapshots id).location (Snapshot.locationOf e.layout.snapshots id) ∧
      d.fileAt (Snapshot.locationOf e.layout.snapshots id) = some (Stored.page s) ∧
      ∀ p ∈ b, p.file.below e.root ≠ Snapshot.locationOf e.layout.snapshots id

/-- What holds of a workspace from the snapshot until the restoring. -/
structure Armed (e : Engine) (id : CycleId) (b : Batch) (s : Snapshot) (w : Workspace) : Prop where
  edits : ∀ n p d, e.Foreign d (w.around.edit n p d)
  placed : w.Placed e.layout
  clean : NoTemporary w.disk
  slot : ∀ p ∈ b, Slot w.disk (e.root.file p.file).location (p.file.below e.root)
  holds : Holds e id b s w.snapshots w.disk

variable {s : Snapshot} {d d' : Disk}

theorem Armed.foreign (h : Armed e id b s w) (hb : Sound e b) (hforeign : e.Foreign w.disk d') :
    Armed e id b s { w with disk := d' } where
  edits := h.edits
  placed := ⟨h.placed.trust, h.placed.history, h.placed.attestations, h.placed.snapshots⟩
  clean := hforeign.clean h.clean
  slot p hp := (h.slot p hp).mono hforeign.dirs (hforeign.files _ (hb.target p hp) (h.slot p hp).not_dir)
  holds := by
    refine h.holds.imp_right fun ⟨hstore, hslot, hfile, hapart⟩ => ?_
    have hsame := hforeign.state _ (Engine.prefix_locationOf e.layout id)
    exact ⟨hstore, hslot.mono hforeign.dirs (hsame ▸ hslot.not_dir), (fileAt_congr hsame).trans hfile, hapart⟩

theorem Armed.pause (h : Armed e id b s w) (hb : Sound e b) (p : Point) :
    Armed e id b s ((Workspace.pause p).exec w).2 := by
  have hforeign := h.foreign hb (h.edits w.pauses p w.disk)
  exact ⟨hforeign.edits, ⟨h.placed.trust, h.placed.history, h.placed.attestations, h.placed.snapshots⟩,
    hforeign.clean, hforeign.slot, hforeign.holds⟩

/-- A file of the batch has got another content. -/
theorem Armed.write (h : Armed e id b s w) (hb : Sound e b) (hproper : ∀ p, e.Target p → p.Proper) {p : Prepared}
    (hp : p ∈ b) {content : ByteArray} {mode : Nat}
    (hview : d'.node? = update w.disk.node? (p.file.below e.root) (some (.file content mode))) :
    Armed e id b s { w with disk := d' } where
  edits := h.edits
  placed := ⟨h.placed.trust, h.placed.history, h.placed.attestations, h.placed.snapshots⟩
  clean := by
    have hne := (hproper _ (hb.target p hp)).ne_nil
    have hlast := List.getLast?_eq_some_getLast hne
    have hlocation : p.file.below e.root =
        resolve [] e.root.location ++ p.file.segments.dropLast ++ [p.file.segments.getLast hne] := by
      rw [RelPath.below, List.append_assoc, List.dropLast_concat_getLast]
    rw [hlocation] at hview
    exact h.clean.update (fun name e' => hb.named p hp name (e' ▸ hlast)) hview
  slot q hq := by
    refine (h.slot q hq).mono (fun m hm => dirs_of_update (h.slot p hp).not_dir hview hm) ?_
    rw [hview, Function.update_apply]
    split
    · simp
    · exact (h.slot q hq).not_dir
  holds := by
    refine h.holds.imp_right fun hkept => ?_
    obtain ⟨hstore, hslot, hfile, hapart⟩ := hkept
    have hsame : d'.node? (Snapshot.locationOf e.layout.snapshots id) =
        w.disk.node? (Snapshot.locationOf e.layout.snapshots id) := by
      rw [hview, Function.update_of_ne (Ne.symm (hapart p hp))]
    refine ⟨hstore, hslot.mono (fun m hm => dirs_of_update (h.slot p hp).not_dir hview hm) ?_,
      (fileAt_congr hsame).trans hfile, hapart⟩
    rw [hsame]
    exact hslot.not_dir

/-- What was captured can be restored. -/
theorem Armed.ready (h : Armed e id b s w) (hb : Sound e b) (hproper : ∀ p, e.Target p → p.Proper) :
    Snapshot.Ready w.disk e.root (List.map Prepared.capture b) where
  proper := by
    intro c hc
    obtain ⟨p, hp, rfl⟩ := List.mem_map.mp hc
    exact hproper _ (hb.target p hp)
  nodup := by
    rw [List.map_map]
    exact hb.nodup
  slot := by
    intro c hc
    obtain ⟨p, hp, rfl⟩ := List.mem_map.mp hc
    exact h.slot p hp
  named := by
    intro c hc
    obtain ⟨p, hp, rfl⟩ := List.mem_map.mp hc
    exact hb.named p hp
  free _ _ name := h.clean _ name

/-- The snapshot that was taken can be loaded. -/
theorem Armed.load {cs : List Snapshot.Capture} {now : Time} (h : Armed e id b (Snapshot.capture id cs now) w)
    (hstored : w.snapshots = .directory e.layout.snapshots →
      now.Storable ∧ ∀ c ∈ cs, (Snapshot.Entry.ofCapture c).Storable) :
    (⟨w.disk, w.snapshots⟩ : Snapshot.Session).load id = .ok (Snapshot.capture id cs now) := by
  rcases h.holds with ⟨t, hstore, hget⟩ | ⟨hstore, hslot, hfile, -⟩
  · rw [hstore, Snapshot.Session.load]
    simp only [hget]
  · obtain ⟨htime, hentries⟩ := hstored hstore
    exact Snapshot.load_directory hstore hslot hfile hentries htime

/-- For a snapshot in a file at most the directory of the snapshots is made. -/
theorem snapshots_made {d d' : Disk} {l : Layout} (h : l.There d)
    (hmake : (makeParent (Snapshot.fileFor l.snapshots id)).exec d = (.ok (), d')) :
    (∀ m, d.node? m = some .dir → d'.node? m = some .dir) ∧ (NoTemporary d → NoTemporary d') ∧
      ∀ m, d'.node? m = d.node? m ∨ m = l.location ++ ["snapshots"] ∧ d.node? m = none := by
  have hparent : (Snapshot.fileFor l.snapshots id).parent.location = l.root.location ++ ["snapshots"] := by
    rw [Snapshot.fileFor, parent_child (Snapshot.fileFor_name id), Layout.snapshots, Place.child, settled_concat,
      if_neg (by decide)]
  have hmade := mkdirs_concat h.locate h.dir (show RelPath.Name "snapshots" by decide)
  rw [← hparent, ← disk_makeParent hmake] at hmade
  rcases hmade with hsame | ⟨hnone, hview⟩
  · exact ⟨fun m hm => by rw [hsame, hm], fun hclean m name => by rw [hsame, hclean m name], fun m => .inl (by rw [hsame])⟩
  · refine ⟨fun m hm => dirs_of_update (by simp [hnone]) hview hm, fun hclean => ?_, fun m => ?_⟩
    · exact hclean.update (fun name => (Snapshot.append_temporarySuffix_ne_of_getLast (by decide) name).symm) hview
    · by_cases hm : m = l.location ++ ["snapshots"]
      · exact .inr ⟨hm, hm ▸ hnone⟩
      · exact .inl (by rw [hview, Function.update_of_ne hm])

theorem locationOf_ne_temporary (l : Layout) (id : CycleId) (m : Location) (name : String) :
    m ++ [name ++ temporarySuffix] ≠ Snapshot.locationOf l.snapshots id := by
  rw [Layout.locationOf_snapshots]
  intro e
  have hlast : name ++ temporarySuffix = id.toText ++ ".json" := by
    have hlast := congrArg List.getLast? e
    rw [List.getLast?_concat, List.getLast?_concat] at hlast
    exact Option.some.inj hlast
  exact Snapshot.append_temporarySuffix_ne_of_getLast (by simp [String.toList_append]) name hlast

/-- Taking the snapshot leaves the files of the batch to be written, and the snapshot to be restored. -/
theorem take_ok {cs : List Snapshot.Capture} {r : Snapshot.Retention} {now : Time} (h : e.Steady id w)
    (hfound : ∀ p ∈ b, e.Found w.disk p.file)
    (hapart : w.snapshots = .directory e.layout.snapshots →
      ∀ p ∈ b, p.file.below e.root ≠ Snapshot.locationOf e.layout.snapshots id)
    (hrun : (Workspace.onSnapshots (Snapshot.take id cs r now)).exec w = (.ok (), w')) :
    Armed e id b (Snapshot.capture id cs now) w' := by
  rw [Workspace.exec_onSnapshots] at hrun
  rcases htake : (Snapshot.take id cs r now).exec ⟨w.disk, w.snapshots⟩ with ⟨res, x⟩
  rw [htake] at hrun
  obtain ⟨hres, rfl⟩ := Prod.mk.inj hrun
  cases res with
  | error err => cases hres
  | ok =>
  rcases h.fresh with ⟨t, hstore, hnew⟩ | ⟨hstore, hnew⟩
  · have hmemory := @Snapshot.exec_take_memory id cs r now ⟨w.disk, w.snapshots⟩ t hstore hnew
    obtain ⟨t', htake', hget⟩ := hmemory
    rw [htake'] at htake
    obtain rfl := (Prod.mk.inj htake).2
    exact ⟨h.edits, ⟨h.placed.trust, h.placed.history, h.placed.attestations, nofun⟩, h.clean,
      fun p hp => (hfound p hp).slot, .inl ⟨t', rfl, hget⟩⟩
  · obtain ⟨d, hmake, hslot, hstore', hfiled⟩ := Snapshot.exec_take_directory hstore hnew htake
    obtain ⟨hdirs, hclean, hmade⟩ := snapshots_made h.there hmake
    have hdirs' : ∀ m, d.node? m = some .dir → x.disk.node? m = some .dir := by
      intro m hm
      have hne : m ≠ Snapshot.locationOf e.layout.snapshots id := fun e' => hslot.not_dir (e' ▸ hm)
      rcases hfiled.other m hne with hsame | ⟨hdir, -⟩
      · rw [hsame, hm]
      · exact absurd hm hdir
    obtain ⟨mode, hfile⟩ := hfiled.file
    refine ⟨h.edits, ⟨h.placed.trust, h.placed.history, h.placed.attestations, ?_⟩, ?_, ?_, .inr ⟨hstore', ?_, ?_, ?_⟩⟩
    · intro p hp
      exact (Snapshot.Store.directory.inj (hstore'.symm.trans hp)).symm
    · intro m name
      rcases hfiled.other _ (locationOf_ne_temporary e.layout id m name) with hsame | ⟨-, hnone⟩
      · rw [hsame, hclean h.clean m name]
      · exact hnone
    · intro p hp
      refine (hfound p hp).slot.mono (fun m hm => hdirs' m (hdirs m hm)) ?_
      rcases hfiled.other _ (hapart hstore p hp) with hsame | ⟨-, hnone⟩
      · rw [hsame]
        rcases hmade (p.file.below e.root) with hsame' | ⟨hbelow, hnone⟩
        · rw [hsame']
          exact (hfound p hp).slot.not_dir
        · -- a file of the state directory has not gone away
          exact absurd hnone ((hfound p hp).held (hbelow ▸ List.prefix_append _ _))
      · simp [hnone]
    · exact hslot.mono hdirs' (by simp [hfile])
    · exact fileAt_of_file hfile
    · exact hapart hstore

/-! ## Writing -/

section

variable {root : Place} {deadline : Option Deadline} {onward : Bool} {p : Prepared}

/-- A file is replaced, or nothing is changed. -/
theorem exec_writeFile (hslot : Slot d (root.file p.file).location (p.file.below root)) (hclean : NoTemporary d) :
    (∃ err, (writeFile root p).exec d = (.error err, d)) ∨
      ∃ a d' mode, (writeFile root p).exec d = (.ok a, d') ∧ a.file = p.file ∧ TemporaryFits (root.file p.file) ∧
        d'.node? = update d.node? (p.file.below root) (some (.file p.after.toUTF8 mode)) := by
  rw [writeFile, exec_bind, exec_query]
  cases hread : d.read (root.file p.file).location with
  | error err => exact .inl ⟨_, rfl⟩
  | ok content =>
  dsimp only
  by_cases hchanged : Digest.content content ≠ p.beforeDigest
  · rw [if_pos hchanged]
    exact .inl ⟨_, rfl⟩
  rw [if_neg hchanged]
  by_cases hfits : TemporaryFits (root.file p.file)
  · obtain ⟨d', mode, hwrite, hview⟩ := exec_atomicWrite hslot hfits (hclean _ _) p.after.toUTF8
    refine .inr ⟨⟨p.file, p.recipes, p.issues, p.beforeDigest, p.afterDigest, p.changed⟩, d', mode, ?_, rfl, hfits, hview⟩
    rw [exec_bind_ok (a := ()) (t := d')]
    · rfl
    · rw [exec_mapError, hwrite]
      rfl
  · obtain ⟨err, hwrite⟩ := exec_atomicWrite_unfit hslot hfits p.after.toUTF8
    refine .inl ⟨.ledger err, ?_⟩
    rw [exec_bind_error (e := .ledger err) (t := d)]
    rw [exec_mapError, hwrite]
    rfl

/-- Then it is the turn of others. -/
theorem exec_writeInTime (deadline : Option Deadline)
    (hslot : Slot w.disk (root.file p.file).location (p.file.below root))
    (hclean : NoTemporary w.disk) :
    ∃ r v, (writeInTime root deadline p).exec w = (.ok r, ((Workspace.pause .written).exec v).2) ∧
      ((∃ err, r = .error err) ∧ v = w ∨
        ∃ a d' mode, r = .ok a ∧ v = { w with disk := d' } ∧ a.file = p.file ∧ TemporaryFits (root.file p.file) ∧
          d'.node? = update w.disk.node? (p.file.below root) (some (.file p.after.toUTF8 mode))) := by
  have hstep : ∃ r v, (do
      Action.query fun w : Workspace => checkDeadline deadline w.clock
      Workspace.onFiles (writeFile root p) : Workspace.Step Applied).exec w = (r, v) ∧
      ((∃ err, r = .error err) ∧ v = w ∨
        ∃ a d' mode, r = .ok a ∧ v = { w with disk := d' } ∧ a.file = p.file ∧ TemporaryFits (root.file p.file) ∧
          d'.node? = update w.disk.node? (p.file.below root) (some (.file p.after.toUTF8 mode))) := by
    rw [exec_bind, exec_query]
    cases checkDeadline deadline w.clock with
    | error err => exact ⟨_, w, rfl, .inl ⟨⟨err, rfl⟩, rfl⟩⟩
    | ok =>
      dsimp only
      rw [Workspace.exec_onFiles]
      rcases exec_writeFile hslot hclean with ⟨err, hwrite⟩ | ⟨a, d', mode, hwrite, hrest⟩
      · rw [hwrite]
        exact ⟨_, w, rfl, .inl ⟨⟨err, rfl⟩, rfl⟩⟩
      · rw [hwrite]
        exact ⟨_, _, rfl, .inr ⟨a, d', mode, rfl, rfl, hrest⟩⟩
  obtain ⟨r, v, hrun, hcase⟩ := hstep
  refine ⟨r, v, ?_, hcase⟩
  rw [writeInTime, exec_bind, exec_outcome, hrun]
  rfl

theorem exec_writeEach_cons {rest : Batch} {r : Except Engine.Error Applied} {v : Workspace}
    (h : (writeInTime root deadline p).exec w = (.ok r, v)) :
    (writeEach root deadline onward (p :: rest)).exec w =
      match r with
      | .ok a =>
        match (writeEach root deadline onward rest).exec v with
        | (.ok (as, e), w') => (.ok (a :: as, e), w')
        | (.error e, w') => (.error e, w')
      | .error e =>
        if onward then
          match (writeEach root deadline onward rest).exec v with
          | (.ok (as, _), w') => (.ok (as, some e), w')
          | (.error e, w') => (.error e, w')
        else (.ok ([], some e), v) := by
  rw [writeEach, exec_bind_ok h]
  cases r with
  | ok a =>
    dsimp only
    rw [exec_bind]
    rcases (writeEach root deadline onward rest).exec v with ⟨_ | ⟨_, _⟩, _⟩ <;> rfl
  | error e =>
    dsimp only
    split
    · rw [exec_bind]
      rcases (writeEach root deadline onward rest).exec v with ⟨_ | ⟨_, _⟩, _⟩ <;> rfl
    · rfl

/-- The files of a batch that were written have their new contents, and nothing else has changed. -/
structure Wrote (root : Place) (b : Batch) (as : List Applied) (d d' : Disk) : Prop where
  written : ∀ p ∈ b, p.file ∈ as.map Applied.file → d'.fileAt (p.file.below root) = some p.after.toUTF8
  other : ∀ m, (∀ p ∈ b, p.file ∈ as.map Applied.file → m ≠ p.file.below root) → d'.node? m = d.node? m

theorem Wrote.none (root : Place) (b : Batch) (d : Disk) : Wrote root b [] d d := ⟨nofun, fun _ _ => rfl⟩

/-- A file that could not be written is as it was. -/
theorem Wrote.skip {rest : Batch} {as : List Applied} (h : Wrote root rest as d d')
    (hfresh : p.file ∉ as.map Applied.file) : Wrote root (p :: rest) as d d' where
  written q hq hwritten := by
    rcases List.mem_cons.mp hq with rfl | hq
    · exact absurd hwritten hfresh
    · exact h.written q hq hwritten
  other m hm := h.other m fun q hq => hm q (List.mem_cons_of_mem _ hq)

theorem Wrote.cons {rest : Batch} {as : List Applied} {d₀ : Disk} {a : Applied} {mode : Nat}
    (h : Wrote root rest as d d') (hfresh : p.file ∉ rest.map Prepared.file) (ha : a.file = p.file)
    (hview : d.node? = update d₀.node? (p.file.below root) (some (.file p.after.toUTF8 mode))) :
    Wrote root (p :: rest) (a :: as) d₀ d' := by
  have hapart : ∀ q ∈ rest, p.file.below root ≠ q.file.below root := by
    intro q hq e
    exact hfresh (RelPath.below_inj e ▸ List.mem_map_of_mem hq)
  refine ⟨?_, ?_⟩
  · intro q hq hwritten
    rcases List.mem_cons.mp hq with rfl | hq
    · exact fileAt_of_file (by rw [h.other _ fun k hk _ => hapart k hk, hview, Function.update_self])
    · rw [List.map_cons, List.mem_cons, ha] at hwritten
      rcases hwritten with hqp | hwritten
      · exact absurd (hqp ▸ List.mem_map_of_mem hq) hfresh
      · exact h.written q hq hwritten
  · intro m hm
    rw [h.other m fun q hq hwritten => hm q (List.mem_cons_of_mem _ hq) (List.mem_cons_of_mem _ hwritten), hview,
      Function.update_of_ne (hm p (by simp) (by simp [ha]))]

/-- Writing keeps the workspace armed. Only files with room for a temporary file are written, and all files are if
nothing fails. If nobody else is there, the files that were written have changed and nothing else. -/
theorem exec_writeEach {rest : Batch} (deadline : Option Deadline) (onward : Bool) (h : Armed e id b s w) (hb : Sound e b)
    (hproper : ∀ p, e.Target p → p.Proper) (hrest : ∀ p ∈ rest, p ∈ b) (hnodup : (rest.map Prepared.file).Nodup) :
    ∃ as err w', (writeEach e.root deadline onward rest).exec w = (.ok (as, err), w') ∧ Armed e id b s w' ∧
      w'.around = w.around ∧ (∀ a ∈ as, ∃ p ∈ rest, a.file = p.file ∧ TemporaryFits (e.root.file p.file)) ∧
      w'.snapshots = w.snapshots ∧ (err = none → as.map Applied.file = rest.map Prepared.file) ∧
      ((∀ n p d, w.around.edit n p d = d) → Wrote e.root rest as w.disk w'.disk) := by
  induction rest generalizing w with
  | nil => exact ⟨[], none, w, rfl, h, rfl, nofun, rfl, fun _ => rfl, fun _ => .none _ _ _⟩
  | cons p rest ih =>
    obtain ⟨hfresh, hnodup⟩ := List.nodup_cons.mp hnodup
    have hp := hrest p (by simp)
    obtain ⟨r, v, hrun, hcase⟩ := exec_writeInTime deadline (h.slot p hp) h.clean
    rw [exec_writeEach_cons hrun]
    have hquiet (u : Workspace) (hu : u.around = w.around) (hedit : ∀ n p d, w.around.edit n p d = d) :
        ((Workspace.pause .written).exec u).2.disk = u.disk := by
      rw [Workspace.exec_pause, hu]
      exact hedit _ _ _
    rcases hcase with ⟨⟨err, rfl⟩, rfl⟩ | ⟨a, d', mode, rfl, rfl, ha, hfits, hview⟩
    · obtain ⟨as, err', w', hwrite, harmed, haround, hfiles, hstore, -, hwrote⟩ :=
        ih (h.pause hb .written) (fun q hq => hrest q (List.mem_cons_of_mem _ hq)) hnodup
      have hskip : ∀ a ∈ as, ∃ q ∈ p :: rest, a.file = q.file ∧ TemporaryFits (e.root.file q.file) := by
        intro a ha
        obtain ⟨q, hq, hfile⟩ := hfiles a ha
        exact ⟨q, List.mem_cons_of_mem _ hq, hfile⟩
      have hother : p.file ∉ as.map Applied.file := by
        intro hmem
        obtain ⟨a, ha, hap⟩ := List.mem_map.mp hmem
        obtain ⟨q, hq, hfile, -⟩ := hfiles a ha
        exact hfresh (hap ▸ hfile ▸ List.mem_map_of_mem hq)
      dsimp only
      split
      · rw [hwrite]
        refine ⟨as, some err, w', rfl, harmed, haround, hskip, hstore, nofun, fun hedit => ?_⟩
        have hwrote := hwrote hedit
        rw [hquiet _ rfl hedit] at hwrote
        exact hwrote.skip hother
      · refine ⟨[], some err, _, rfl, h.pause hb .written, rfl, nofun, rfl, nofun, fun hedit => ?_⟩
        rw [hquiet _ rfl hedit]
        exact .none _ _ _
    · have hwritten := h.write hb hproper hp hview
      obtain ⟨as, err', w', hwrite, harmed, haround, hfiles, hstore, hall, hwrote⟩ :=
        ih (hwritten.pause hb .written) (fun q hq => hrest q (List.mem_cons_of_mem _ hq)) hnodup
      dsimp only
      rw [hwrite]
      refine ⟨a :: as, err', w', rfl, harmed, haround, ?_, hstore, fun herr => ?_, fun hedit => ?_⟩
      · intro a' ha'
        rcases List.mem_cons.mp ha' with rfl | ha'
        · exact ⟨p, by simp, ha, hfits⟩
        · obtain ⟨q, hq, hfile⟩ := hfiles a' ha'
          exact ⟨q, List.mem_cons_of_mem _ hq, hfile⟩
      · rw [List.map_cons, List.map_cons, ha, hall herr]
      · have hwrote := hwrote hedit
        rw [hquiet { w with disk := d' } rfl hedit] at hwrote
        exact hwrote.cons hfresh ha hview

end

end Batch
end Mend
