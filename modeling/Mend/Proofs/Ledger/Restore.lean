import Mathlib.Data.List.Basic
import Mend.Ledger.Snapshot
import Mend.Proofs.Diff.Replay
import Mend.Proofs.Ledger.AtomicWrite
import Mend.Proofs.Path
import Mend.Proofs.Text

/-!
# Restoring

What restoring the snapshot of some captures does to a disk. `outcome` tells it of one file by the
contents alone, and `exec_carryOut` that the plan for the file does just this. The files are apart from
each other, so that they can be taken one by one (`exec_carryOutAll`).

`restore_exact` is the whole: each file is brought back or left, nothing else changes, and once more
changes nothing. A file that is to be written back needs room for the name of its temporary file; without
it the restoring fails, though every file holds what it may hold (`exec_restore`).
-/

namespace Mend.Snapshot

open Fs Fs.Disk Ledger

/-! ## What is to become of a file -/

attribute [local instance] Text.decideBytes

/-- What restoring tells of a captured file, by what it holds. -/
def outcome (c : Capture) (held : Option ByteArray) : FileRestore :=
  if held = c.before.map String.toUTF8 then .alreadyRestored
  else if held = some c.after.toUTF8 then (if c.before.isSome then .restored else .removed)
  else .drifted (held.map Digest.content)

theorem outcome_eq_restored {c : Capture} {held : Option ByteArray} (h : outcome c held = .restored) :
    (∃ before, c.before = some before) ∧ held = some c.after.toUTF8 := by
  simp only [outcome] at h
  split at h
  · cases h
  · split at h
    · next hafter => exact ⟨Option.isSome_iff_exists.mp (by by_contra hb; simp [hb] at h), hafter⟩
    · cases h

theorem outcome_eq_removed {c : Capture} {held : Option ByteArray} (h : outcome c held = .removed) :
    c.before = none ∧ held = some c.after.toUTF8 := by
  simp only [outcome] at h
  split at h
  · cases h
  · split at h
    · next hafter => exact ⟨Option.not_isSome_iff_eq_none.mp fun hb => by simp [hb] at h, hafter⟩
    · cases h

/-- What restoring once more tells of a file. -/
def FileRestore.again : FileRestore → FileRestore
  | .drifted found => .drifted found
  | _ => .alreadyRestored

/-- What restoring makes of a captured file at a location. -/
def Undone (c : Capture) (l : Location) (d d' : Disk) : Prop :=
  match outcome c (d.fileAt l) with
  | .restored => d'.fileAt l = c.before.map String.toUTF8
  | .removed => d'.node? l = none
  | _ => d'.node? l = d.node? l

/-- The contents that a capture and a file bring together. -/
def contents (c : Capture) (held : Option ByteArray) : List ByteArray :=
  (c.before.map String.toUTF8).toList ++ c.after.toUTF8 :: held.toList

/-- No two of the contents have one digest. -/
def Separated (c : Capture) (held : Option ByteArray) : Prop :=
  ∀ x ∈ contents c held, ∀ y ∈ contents c held, Digest.content x = Digest.content y → x = y

/-- The plan for a captured file. -/
def planOf (c : Capture) (held : Option ByteArray) : Plan :=
  match outcome c held with
  | .restored => .write (c.before.getD "")
  | .removed => .remove
  | .alreadyRestored => .skip
  | .drifted found => .leave found

theorem Separated.map_content {c : Capture} {held x y : Option ByteArray} (h : Separated c held)
    (hx : ∀ b ∈ x, b ∈ contents c held) (hy : ∀ b ∈ y, b ∈ contents c held) :
    x.map Digest.content = y.map Digest.content ↔ x = y := by
  refine ⟨fun e => ?_, fun e => e ▸ rfl⟩
  cases x with
  | none => cases y with
    | none => rfl
    | some y => cases e
  | some x => cases y with
    | none => cases e
    | some y => exact congrArg some (h x (hx x rfl) y (hy y rfl) (Option.some.inj e))

theorem planFile_eq {c : Capture} {held : Option ByteArray} (h : Separated c held) (id : CycleId) :
    planFile id (Entry.ofCapture c) held = .ok (planOf c held) := by
  have hbefore : held.map Digest.content = c.before.map digestOf ↔ held = c.before.map String.toUTF8 := by
    rw [← h.map_content (x := held) (y := c.before.map String.toUTF8), Option.map_map]
    · rfl
    · intro b hb
      simp [contents, Option.mem_def.mp hb]
    · intro b hb
      rcases hc : c.before with _ | before <;> simp_all [contents]
  have hafter : held.map Digest.content = some (digestOf c.after) ↔ held = some c.after.toUTF8 := by
    rw [← h.map_content (x := held) (y := some c.after.toUTF8)]
    · rfl
    · intro b hb
      simp [contents, Option.mem_def.mp hb]
    · intro b hb
      simp [contents, ← Option.some.inj (Option.mem_def.mp hb)]
  simp only [planFile, planOf, outcome, Entry.ofCapture, hbefore, hafter, ne_eq]
  by_cases hb : held = c.before.map String.toUTF8
  · rw [if_pos hb, if_pos hb]
  rw [if_neg hb, if_neg hb]
  by_cases ha : held = some c.after.toUTF8
  · rw [if_neg (not_not.mpr ha), if_pos ha]
    cases c.before with
    | none => rfl
    | some before =>
      have hundo : (Diff.between c.after before).apply c.after = .ok before :=
        Diff.apply_of_rebuilds (Diff.rebuilds_ofLines _ _)
      simp only [ha, Option.bind_some, Text.decode?_encode, Option.getD_some, hundo, Option.map_some,
        Option.isSome_some, if_true]
  · rw [if_pos ha, if_neg ha]

theorem Undone.congr {c : Capture} {l : Location} {d d₁ d' d₁' : Disk} (h : Undone c l d d')
    (hd : d₁.node? l = d.node? l) (hd' : d₁'.node? l = d'.node? l) : Undone c l d₁ d₁' := by
  simpa only [Undone, fileAt_congr hd, fileAt_congr hd', hd, hd'] using h

theorem Undone.not_dir {c : Capture} {l : Location} {d d' : Disk} (h : Undone c l d d')
    (hd : d.node? l ≠ some .dir) : d'.node? l ≠ some .dir := by
  simp only [Undone] at h
  cases hout : outcome c (d.fileAt l) with
  | restored =>
    obtain ⟨⟨before, hbefore⟩, -⟩ := outcome_eq_restored hout
    rw [hout] at h
    simp only [hbefore, Option.map_some] at h
    obtain ⟨mode, hnode⟩ := fileAt_eq_some_iff.mp h
    simp [hnode]
  | removed => rw [hout] at h; simp only at h; simp [h]
  | alreadyRestored => rw [hout] at h; simp only at h; rwa [h]
  | drifted found => rw [hout] at h; simp only at h; rwa [h]

/-- A file that was dealt with holds its before-content, or is as it was. -/
theorem Undone.fileAt {c : Capture} {l : Location} {d d' : Disk} (h : Undone c l d d') :
    (d'.fileAt l = c.before.map String.toUTF8 ∧ (outcome c (d.fileAt l)).again = .alreadyRestored) ∨
      (d'.fileAt l = d.fileAt l ∧ (outcome c (d.fileAt l)).again = outcome c (d.fileAt l)) := by
  simp only [Undone] at h
  cases hout : outcome c (d.fileAt l) with
  | restored => rw [hout] at h; exact .inl ⟨h, rfl⟩
  | removed =>
    rw [hout] at h
    exact .inl ⟨by rw [fileAt_of_none h, (outcome_eq_removed hout).1]; rfl, rfl⟩
  | alreadyRestored => rw [hout] at h; exact .inr ⟨fileAt_congr h, rfl⟩
  | drifted found => rw [hout] at h; exact .inr ⟨fileAt_congr h, rfl⟩

theorem Undone.again {c : Capture} {l : Location} {d d' : Disk} (h : Undone c l d d') :
    outcome c (d'.fileAt l) = (outcome c (d.fileAt l)).again := by
  rcases h.fileAt with ⟨hheld, hagain⟩ | ⟨hheld, hagain⟩
  · rw [hagain, hheld, outcome, if_pos rfl]
  · rw [hagain, hheld]

theorem Undone.separated {c : Capture} {l : Location} {d d' : Disk} (h : Undone c l d d')
    (hsep : Separated c (d.fileAt l)) : Separated c (d'.fileAt l) := by
  have hsub : ∀ x ∈ contents c (d'.fileAt l), x ∈ contents c (d.fileAt l) := by
    intro x hx
    rcases h.fileAt with ⟨hheld, -⟩ | ⟨hheld, -⟩
    · rw [hheld] at hx
      simp only [contents, List.mem_append, List.mem_cons] at hx ⊢
      tauto
    · rwa [hheld] at hx
  exact fun x hx y hy => hsep x (hsub x hx) y (hsub y hy)

/-- A file that holds the after-content gets its before-content back. -/
theorem Undone.of_after {c : Capture} {l : Location} {d d' : Disk} {before : String} (h : Undone c l d d')
    (hbefore : c.before = some before) (hheld : d.fileAt l = some c.after.toUTF8) :
    d'.fileAt l = some before.toUTF8 := by
  have hout : outcome c (d.fileAt l) = .alreadyRestored ∧ some c.after.toUTF8 = some before.toUTF8 ∨
      outcome c (d.fileAt l) = .restored := by
    rw [hheld, outcome, hbefore]
    by_cases heq : some c.after.toUTF8 = some before.toUTF8
    · exact .inl ⟨if_pos heq, heq⟩
    · exact .inr ((if_neg heq).trans (if_pos rfl))
  rcases hout with ⟨hout, heq⟩ | hout
  · simp only [Undone, hout] at h
    rw [fileAt_congr h, hheld, heq]
  · simp only [Undone, hout, hbefore] at h
    exact h

/-- A file that holds anything else is left as it is. -/
theorem Undone.of_ne {c : Capture} {l : Location} {d d' : Disk} (h : Undone c l d d')
    (hheld : d.fileAt l ≠ some c.after.toUTF8) : d'.node? l = d.node? l := by
  simp only [Undone, outcome, if_neg hheld] at h
  split at h
  · next hout => split at hout <;> cases hout
  · next hout => split at hout <;> cases hout
  · exact h

/-! ## One file after the other -/

/-- The captured paths are different, and each leads to a file or to nothing in a directory. No name of
a temporary file is taken. -/
structure Ready (d : Disk) (root : Place) (cs : List Capture) : Prop where
  proper : ∀ c ∈ cs, c.path.Proper
  nodup : (cs.map Capture.path).Nodup
  slot : ∀ c ∈ cs, Slot d (root.file c.path).location (c.path.below root)
  named : ∀ c ∈ cs, ∀ name, c.path.segments.getLast? ≠ some (name ++ temporarySuffix)
  free : ∀ c ∈ cs, ∀ name, d.node? ((c.path.below root).dropLast ++ [name ++ temporarySuffix]) = none

namespace Ready

variable {d d' : Disk} {root : Place} {c : Capture} {cs : List Capture}

theorem apart (h : Ready d root (c :: cs)) : ∀ k ∈ cs, k.path.below root ≠ c.path.below root := by
  intro k hk e
  have hnodup := h.nodup
  rw [List.map_cons, List.nodup_cons] at hnodup
  exact hnodup.1 (RelPath.below_inj e ▸ List.mem_map_of_mem hk)

theorem temporary_free (h : Ready d root cs) (hc : c ∈ cs) :
    d.node? (temporaryAt (c.path.below root)) = none := h.free c hc _

/-- No captured file has the name of a temporary file. -/
theorem below_ne_temporary (h : Ready d root cs) (hc : c ∈ cs) (l : Location) (name : String) :
    l ++ [name ++ temporarySuffix] ≠ c.path.below root := by
  intro e
  have hlast := congrArg List.getLast? e
  rw [List.getLast?_concat, RelPath.below, List.getLast?_append_of_ne_nil _ (h.proper c hc).ne_nil] at hlast
  exact h.named c hc name hlast.symm

/-- Files that come or go in a slot do not get in the way of the others. -/
theorem tail (h : Ready d root (c :: cs)) (hsame : ∀ m ≠ c.path.below root, d'.node? m = d.node? m) :
    Ready d' root cs where
  proper k hk := h.proper k (List.mem_cons_of_mem c hk)
  nodup := by
    have hnodup := h.nodup
    rw [List.map_cons, List.nodup_cons] at hnodup
    exact hnodup.2
  slot k hk := by
    have hslot := h.slot k (List.mem_cons_of_mem c hk)
    refine hslot.mono (fun m hm => ?_) (by rw [hsame _ (h.apart k hk)]; exact hslot.not_dir)
    rw [hsame m fun e => (h.slot c (by simp)).not_dir (e ▸ hm), hm]
  named k hk := h.named k (List.mem_cons_of_mem c hk)
  free k hk name := by
    rw [hsame _ (h.below_ne_temporary (by simp) _ _), h.free k (List.mem_cons_of_mem c hk) name]

/-- Captured files that come or go do not get in each other's way. -/
theorem mono (h : Ready d root cs) (hsame : ∀ m, (∀ c ∈ cs, m ≠ c.path.below root) → d'.node? m = d.node? m)
    (hleaf : ∀ c ∈ cs, d'.node? (c.path.below root) ≠ some .dir) : Ready d' root cs where
  proper := h.proper
  nodup := h.nodup
  slot c hc := by
    refine (h.slot c hc).mono (fun m hm => ?_) (hleaf c hc)
    rw [hsame m fun k hk e => (h.slot k hk).not_dir (e ▸ hm), hm]
  named := h.named
  free c hc name := by rw [hsame _ fun k hk => h.below_ne_temporary hk _ _, h.free c hc name]

end Ready

/-- What the plans for captured files are, on a disk. -/
def plansOn (d : Disk) (root : Place) (cs : List Capture) : List (Entry × Plan) :=
  cs.map fun c => (Entry.ofCapture c, planOf c (d.fileAt (c.path.below root)))

theorem planAll_eq {d : Disk} {root : Place} {cs : List Capture}
    (hslot : ∀ c ∈ cs, Slot d (root.file c.path).location (c.path.below root))
    (hsep : ∀ c ∈ cs, Separated c (d.fileAt (c.path.below root))) (id : CycleId) :
    planAll root id d (cs.map Entry.ofCapture) = .ok (plansOn d root cs) := by
  induction cs with
  | nil => rfl
  | cons c cs ih =>
    have hcurrent : current root (Entry.ofCapture c).path d = .ok (d.fileAt (c.path.below root)) := by
      simp only [current, Entry.ofCapture, (hslot c (by simp)).read]
      cases d.fileAt (c.path.below root) <;> rfl
    rw [List.map_cons, planAll, hcurrent]
    simp only [bind, Except.bind, planFile_eq (hsep c (by simp)) id]
    rw [ih (fun k hk => hslot k (by simp [hk])) (fun k hk => hsep k (by simp [hk]))]
    rfl

/-- The plan for a file does what is to become of it and nothing else, or it fails for the name of the
temporary file and does nothing. -/
theorem exec_carryOut {d : Disk} {root : Place} {c : Capture}
    (hslot : Slot d (root.file c.path).location (c.path.below root))
    (hfree : d.node? (temporaryAt (c.path.below root)) = none) :
    (∃ d', (carryOut root (Entry.ofCapture c) (planOf c (d.fileAt (c.path.below root)))).exec d =
        (.ok (outcome c (d.fileAt (c.path.below root))), d') ∧
      (outcome c (d.fileAt (c.path.below root)) = .restored → TemporaryFits (root.file c.path)) ∧
      Undone c (c.path.below root) d d' ∧ ∀ m ≠ c.path.below root, d'.node? m = d.node? m) ∨
    (outcome c (d.fileAt (c.path.below root)) = .restored ∧ ¬ TemporaryFits (root.file c.path)) ∧
      ∃ e, (carryOut root (Entry.ofCapture c) (planOf c (d.fileAt (c.path.below root)))).exec d =
        (.error e, d) := by
  simp only [planOf, Undone]
  cases hout : outcome c (d.fileAt (c.path.below root)) with
  | alreadyRestored => exact .inl ⟨d, rfl, by simp, rfl, fun m _ => rfl⟩
  | drifted found => exact .inl ⟨d, rfl, by simp, rfl, fun m _ => rfl⟩
  | removed =>
    obtain ⟨mode, hnode⟩ := fileAt_eq_some_iff.mp (outcome_eq_removed hout).2
    obtain ⟨d', hunlink, hview⟩ := hslot.unlink hnode
    refine .inl ⟨d', ?_, by simp, by rw [hview, Function.update_self],
      fun m hm => by rw [hview, Function.update_of_ne hm]⟩
    simp only [carryOut, Entry.ofCapture]
    rw [Action.exec_bind_ok (t := d') (a := ()) (by rw [Action.exec_update]; simp only [hunlink])]
    rfl
  | restored =>
    obtain ⟨⟨before, hbefore⟩, -⟩ := outcome_eq_restored hout
    by_cases hfits : TemporaryFits (root.file c.path)
    · obtain ⟨d', mode, hwrite, hview⟩ := exec_atomicWrite hslot hfits hfree before.toUTF8
      refine .inl ⟨d', ?_, fun _ => hfits, ?_, fun m hm => by rw [hview, Function.update_of_ne hm]⟩
      · simp only [carryOut, Entry.ofCapture, hbefore, Option.getD_some]
        rw [Action.exec_bind_ok hwrite]
        rfl
      · have hnode : d'.node? (c.path.below root) = some (.file before.toUTF8 mode) := by
          rw [hview, Function.update_self]
        simp only
        rw [fileAt_of_file hnode, hbefore]
        rfl
    · obtain ⟨e, hwrite⟩ := exec_atomicWrite_unfit hslot hfits before.toUTF8
      refine .inr ⟨⟨rfl, hfits⟩, e, ?_⟩
      simp only [carryOut, Entry.ofCapture, hbefore, Option.getD_some]
      rw [Action.exec_bind_error hwrite]

/-- Carries out the plan of an entry. -/
def carryOutEntry (root : Place) (p : Entry × Plan) : DiskAction Ledger.Error (RelPath × FileRestore) := do
  return (p.1.path, ← carryOut root p.1 p.2)

/-- The plans are carried out one file after the other. Either all are, or one fails for the name of its
temporary file; then those after it are as they were. -/
theorem exec_carryOutAll {root : Place} {cs : List Capture} {d : Disk} (h : Ready d root cs) :
    ∃ r d', ((plansOn d root cs).mapM (carryOutEntry root)).exec d = (r, d') ∧
      (∀ m, (∀ c ∈ cs, m ≠ c.path.below root) → d'.node? m = d.node? m) ∧
      ((r = .ok (cs.map fun c => (c.path, outcome c (d.fileAt (c.path.below root)))) ∧
          (∀ c ∈ cs, outcome c (d.fileAt (c.path.below root)) = .restored → TemporaryFits (root.file c.path)) ∧
          ∀ c ∈ cs, Undone c (c.path.below root) d d') ∨
        (∃ c ∈ cs, outcome c (d.fileAt (c.path.below root)) = .restored ∧ ¬ TemporaryFits (root.file c.path)) ∧
        (∃ e, r = .error e) ∧
        ∀ c ∈ cs, Undone c (c.path.below root) d d' ∨
          d'.node? (c.path.below root) = d.node? (c.path.below root)) := by
  induction cs generalizing d with
  | nil => exact ⟨_, d, rfl, fun m _ => rfl, .inl ⟨rfl, by simp, by simp⟩⟩
  | cons c cs ih =>
    rw [plansOn, List.map_cons, List.mapM_cons, ← plansOn]
    rcases exec_carryOut (h.slot c (by simp)) (h.temporary_free (by simp)) with
      ⟨d₁, hfirst, hfits, hundone, hsame⟩ | ⟨hunfit, e, hfirst⟩
    · have hheld : ∀ k ∈ cs, d₁.node? (k.path.below root) = d.node? (k.path.below root) :=
        fun k hk => hsame _ (h.apart k hk)
      have hplans : plansOn d₁ root cs = plansOn d root cs := by
        refine List.map_congr_left fun k hk => ?_
        rw [fileAt_congr (hheld k hk)]
      have houtcomes : (cs.map fun k => (k.path, outcome k (d₁.fileAt (k.path.below root)))) =
          cs.map fun k => (k.path, outcome k (d.fileAt (k.path.below root))) := by
        refine List.map_congr_left fun k hk => ?_
        rw [fileAt_congr (hheld k hk)]
      obtain ⟨r, d₂, hrest, hother, hcase⟩ := ih (h.tail hsame)
      have hc₂ : d₂.node? (c.path.below root) = d₁.node? (c.path.below root) :=
        hother _ fun k hk => (h.apart k hk).symm
      rw [hplans] at hrest
      rw [Action.exec_bind_ok (a := (c.path, outcome c (d.fileAt (c.path.below root)))) (t := d₁)
        (by rw [carryOutEntry, Action.exec_bind_ok hfirst]; rfl), Action.exec_bind, hrest]
      have hother' : ∀ m, (∀ k ∈ c :: cs, m ≠ k.path.below root) → d₂.node? m = d.node? m := by
        intro m hm
        rw [hother m fun k hk => hm k (List.mem_cons_of_mem c hk), hsame m (hm c (by simp))]
      rcases hcase with ⟨rfl, hfits', hall⟩ | ⟨⟨k, hk, hrestored, hunfit⟩, ⟨e, rfl⟩, hall⟩
      · refine ⟨_, d₂, rfl, hother', .inl ⟨by rw [houtcomes]; rfl, fun k hk hrestored => ?_, fun k hk => ?_⟩⟩
        · rcases List.mem_cons.mp hk with rfl | hk
          · exact hfits hrestored
          · exact hfits' k hk (by rwa [fileAt_congr (hheld k hk)])
        · rcases List.mem_cons.mp hk with rfl | hk
          · exact hundone.congr rfl hc₂
          · exact (hall k hk).congr (hheld k hk).symm rfl
      · refine ⟨_, d₂, rfl, hother', .inr ⟨⟨k, List.mem_cons_of_mem c hk, ?_, hunfit⟩, ⟨e, rfl⟩, fun k hk => ?_⟩⟩
        · rwa [fileAt_congr (hheld k hk)] at hrestored
        · rcases List.mem_cons.mp hk with rfl | hk
          · exact .inl (hundone.congr rfl hc₂)
          · exact (hall k hk).imp (fun hu => hu.congr (hheld k hk).symm rfl) fun hn => by rw [hn, hheld k hk]
    · rw [Action.exec_bind_error (by rw [carryOutEntry, Action.exec_bind_error hfirst])]
      exact ⟨_, d, rfl, fun m _ => rfl, .inr ⟨⟨c, by simp, hunfit⟩, ⟨e, rfl⟩, fun k _ => .inr rfl⟩⟩

/-! ## A snapshot -/

/-- The captures in the order of a snapshot. -/
def sorted (cs : List Capture) : List Capture := cs.mergeSort fun a b => a.path.le b.path

theorem files_capture (id : CycleId) (cs : List Capture) (now : Time) :
    (capture id cs now).files = (sorted cs).map Entry.ofCapture :=
  (List.map_mergeSort (f := Entry.ofCapture) fun _ _ _ _ => rfl).symm

theorem mem_sorted {c : Capture} {cs : List Capture} : c ∈ sorted cs ↔ c ∈ cs := by
  rw [sorted, List.mem_mergeSort]

/-- Drifted are the captured files that hold neither content. -/
theorem mem_drifted {id : CycleId} {cs : List Capture} {held : Capture → Option ByteArray} {q : RelPath} :
    q ∈ Report.drifted ⟨id, (sorted cs).map fun c => (c.path, outcome c (held c))⟩ ↔
      ∃ c ∈ cs, c.path = q ∧ held c ≠ c.before.map String.toUTF8 ∧ held c ≠ some c.after.toUTF8 := by
  have hpath (c : Capture) : (match outcome c (held c) with | .drifted _ => some c.path | _ => none) = some q ↔
      c.path = q ∧ held c ≠ c.before.map String.toUTF8 ∧ held c ≠ some c.after.toUTF8 := by
    rw [outcome]
    by_cases hbefore : held c = c.before.map String.toUTF8
    · simp [hbefore]
    · by_cases hafter : held c = some c.after.toUTF8
      · rw [if_neg hbefore, if_pos hafter]
        cases c.before.isSome <;> exact ⟨nofun, fun h => absurd hafter h.2.2⟩
      · rw [if_neg hbefore, if_neg hafter]
        exact ⟨fun h => ⟨Option.some.inj h, hbefore, hafter⟩, fun h => congrArg some h.1⟩
  rw [Report.drifted, List.filterMap_map, List.mem_filterMap]
  constructor
  · rintro ⟨c, hc, hq⟩
    exact ⟨c, mem_sorted.mp hc, (hpath c).mp hq⟩
  · rintro ⟨c, hc, hq⟩
    exact ⟨c, mem_sorted.mpr hc, (hpath c).mpr hq⟩

/-- A report tells of each file once. -/
theorem nodup_drifted {r : Report} (h : (r.files.map Prod.fst).Nodup) : r.drifted.Nodup := by
  have hsub : r.drifted.Sublist (r.files.map Prod.fst) := by
    rw [Report.drifted, ← List.filterMap_eq_map]
    generalize r.files = files
    induction files with
    | nil => exact .slnil
    | cons f files ih =>
      rw [List.filterMap_cons, List.filterMap_cons]
      split
      · exact ih.cons _
      · next q hq =>
        have hf : f.1 = q := by
          split at hq
          · exact Option.some.inj hq
          · cases hq
        subst hf
        exact ih.cons_cons _
  exact hsub.nodup h

theorem Ready.sorted {d : Disk} {root : Place} {cs : List Capture} (h : Ready d root cs) :
    Ready d root (sorted cs) where
  proper c hc := h.proper c (mem_sorted.mp hc)
  nodup := ((List.mergeSort_perm cs _).map Capture.path).nodup_iff.mpr h.nodup
  slot c hc := h.slot c (mem_sorted.mp hc)
  named c hc := h.named c (mem_sorted.mp hc)
  free c hc := h.free c (mem_sorted.mp hc)

theorem restore_eq (s : Snapshot) (root : Place) :
    s.restore root = do
      Action.query fun _ => s.verifyIntegrity
      let plans ← Action.query fun d => planAll root s.cycle d s.files
      let files ← plans.mapM (carryOutEntry root)
      return ⟨s.cycle, files⟩ := rfl

/-- Restoring a snapshot takes its files one after the other. -/
theorem exec_restore {d : Disk} {root : Place} {cs : List Capture} (h : Ready d root cs)
    (hsep : ∀ c ∈ cs, Separated c (d.fileAt (c.path.below root))) (id : CycleId) (now : Time) :
    ∃ r d', ((capture id cs now).restore root).exec d = (r, d') ∧
      (∀ m, (∀ c ∈ cs, m ≠ c.path.below root) → d'.node? m = d.node? m) ∧
      ((r = .ok ⟨id, (sorted cs).map fun c => (c.path, outcome c (d.fileAt (c.path.below root)))⟩ ∧
          (∀ c ∈ cs, outcome c (d.fileAt (c.path.below root)) = .restored → TemporaryFits (root.file c.path)) ∧
          ∀ c ∈ cs, Undone c (c.path.below root) d d') ∨
        (∃ c ∈ cs, outcome c (d.fileAt (c.path.below root)) = .restored ∧ ¬ TemporaryFits (root.file c.path)) ∧
        (∃ e, r = .error e) ∧
        ∀ c ∈ cs, Undone c (c.path.below root) d d' ∨
          d'.node? (c.path.below root) = d.node? (c.path.below root)) := by
  have hsorted := h.sorted
  have hplans := planAll_eq hsorted.slot (fun c hc => hsep c (mem_sorted.mp hc)) id
  rw [← files_capture id cs now] at hplans
  obtain ⟨r, d', hrun, hother, hcase⟩ := exec_carryOutAll hsorted
  simp only [mem_sorted] at hother hcase
  have hrestore : ((capture id cs now).restore root).exec d =
      (r.map fun files => ⟨id, files⟩, d') := by
    rw [restore_eq, Action.exec_bind_ok (a := ()) (t := d),
      Action.exec_bind_ok (a := plansOn d root (sorted cs)) (t := d), Action.exec_bind, hrun]
    · cases r <;> rfl
    · rw [Action.exec_query]
      exact congrArg (·, d) hplans
    · rw [Action.exec_query, verifyIntegrity]
      simp [capture]
  refine ⟨_, d', hrestore, hother, ?_⟩
  rcases hcase with ⟨rfl, hfits, hall⟩ | ⟨hunfit, ⟨e, rfl⟩, hall⟩
  · exact .inl ⟨rfl, hfits, hall⟩
  · exact .inr ⟨hunfit, ⟨e, rfl⟩, hall⟩

/-- **Restoring is exact.** Each captured file is brought back to what it held before if it holds what the
cycle wrote, and is left if it holds anything else; no other file changes. Restoring once more changes
nothing. -/
theorem restore_exact {d : Disk} {root : Place} {cs : List Capture} (h : Ready d root cs)
    (hsep : ∀ c ∈ cs, Separated c (d.fileAt (c.path.below root)))
    (hfits : ∀ c ∈ cs, outcome c (d.fileAt (c.path.below root)) = .restored → TemporaryFits (root.file c.path))
    (id : CycleId) (now : Time) :
    ∃ d', ((capture id cs now).restore root).exec d =
        (.ok ⟨id, (sorted cs).map fun c => (c.path, outcome c (d.fileAt (c.path.below root)))⟩, d') ∧
      (∀ c ∈ cs, Undone c (c.path.below root) d d') ∧
      (∀ m, (∀ c ∈ cs, m ≠ c.path.below root) → d'.node? m = d.node? m) ∧
      ∃ d'', ((capture id cs now).restore root).exec d' =
          (.ok ⟨id, (sorted cs).map fun c => (c.path, (outcome c (d.fileAt (c.path.below root))).again)⟩, d'') ∧
        d''.node? = d'.node? := by
  obtain ⟨r, d', hrun, hother, hcase⟩ := exec_restore h hsep id now
  rcases hcase with ⟨rfl, -, hall⟩ | ⟨⟨c, hc, hrestored, hunfit⟩, -⟩
  swap
  · exact absurd (hfits c hc hrestored) hunfit
  have h' : Ready d' root cs := h.mono hother fun c hc => (hall c hc).not_dir (h.slot c hc).not_dir
  have hagain (c : Capture) (hc : c ∈ cs) : outcome c (d'.fileAt (c.path.below root)) =
      (outcome c (d.fileAt (c.path.below root))).again := (hall c hc).again
  have hsettled (c : Capture) (hc : c ∈ cs) : outcome c (d'.fileAt (c.path.below root)) ≠ .restored ∧
      outcome c (d'.fileAt (c.path.below root)) ≠ .removed := by
    rw [hagain c hc]
    cases outcome c (d.fileAt (c.path.below root)) <;> simp [FileRestore.again]
  obtain ⟨r, d'', hrun', hother', hcase'⟩ := exec_restore h' (fun c hc => (hall c hc).separated (hsep c hc)) id now
  rcases hcase' with ⟨rfl, -, hall'⟩ | ⟨⟨c, hc, hrestored, -⟩, -⟩
  swap
  · exact absurd hrestored (hsettled c hc).1
  refine ⟨d', hrun, hall, hother, d'', ?_, funext fun m => ?_⟩
  · rw [hrun']
    have hreport : (sorted cs).map (fun c => (c.path, outcome c (d'.fileAt (c.path.below root)))) =
        (sorted cs).map fun c => (c.path, (outcome c (d.fileAt (c.path.below root))).again) :=
      List.map_congr_left fun c hc => by rw [hagain c (mem_sorted.mp hc)]
    rw [hreport]
  · by_cases hm : ∃ c ∈ cs, m = c.path.below root
    · obtain ⟨c, hc, rfl⟩ := hm
      have hu := hall' c hc
      have hne := hsettled c hc
      simp only [Undone] at hu
      split at hu
      · next hout => exact absurd hout hne.1
      · next hout => exact absurd hout hne.2
      · exact hu
    · exact hother' m fun c hc e => hm ⟨c, hc, e⟩

/-! ### A folder of files -/

/-- A folder of files and nothing else. -/
def folder (files : List (String × String)) : Disk :=
  ⟨[("w", .dir (files.map fun f => (f.1, .file f.2.toUTF8 newMode)))]⟩

/-- Where the folder is. -/
def folderRoot : Place := ⟨["w"], "/w"⟩

theorem append_temporarySuffix_ne_of_getLast {s : String} (h : s.toList.getLast? ≠ some 'p') (name : String) :
    name ++ temporarySuffix ≠ s := by
  rintro rfl
  exact h (by simp [String.toList_append, temporarySuffix])

theorem node?_folder (files : List (String × String)) (s : String) :
    (folder files).node? ["w", s] = (files.lookup s).map fun content => .file content.toUTF8 newMode := by
  have hlookup : (files.map fun f => (f.1, Tree.file f.2.toUTF8 newMode)).lookup s =
      (files.lookup s).map fun content => Tree.file content.toUTF8 newMode := by
    induction files with
    | nil => rfl
    | cons f files ih =>
      obtain ⟨k, content⟩ := f
      rw [List.map_cons, List.lookup_cons, List.lookup_cons, ih]
      cases s == k <;> rfl
  simp only [folder, node?, tree, Tree.at?, Tree.children, List.lookup_cons_self, hlookup]
  cases files.lookup s <;> rfl

/-- Any names of files in a folder that are not those of temporary files can be captured. -/
theorem ready_folder {files : List (String × String)} {cs : List Capture} (hnodup : (cs.map Capture.path).Nodup)
    (hcs : ∀ c ∈ cs, c.path.Proper ∧ ∃ s, c.path = ⟨[s]⟩ ∧ s.toList.getLast? ≠ some 'p' ∧
      s.utf8ByteSize ≤ maxName ∧ Acceptable ["w", s])
    (hfiles : ∀ f ∈ files, f.1.toList.getLast? ≠ some 'p') : Ready (folder files) folderRoot cs where
  proper c hc := (hcs c hc).1
  nodup := hnodup
  slot c hc := by
    obtain ⟨hproper, s, hs, -, hshort, hpath⟩ := hcs c hc
    have hname : RelPath.Name s := hproper.name s (by simp [hs])
    have hw : follow (folder files).node? [] ["w"] = .ok ["w"] :=
      follow_name (by rfl) (by decide) (by decide)
    have hat : c.path.below folderRoot = ["w", s] := by rw [hs]; rfl
    rw [hat, Place.file, hs]
    refine ⟨locate_eq_ok_iff.mpr ⟨hpath, ?_⟩, ?_⟩
    · exact (follow_append_of_dir hw rfl [s]).trans (follow_name rfl hname hshort)
    · rw [node?_folder]
      cases files.lookup s <;> simp
  named c hc name := by
    obtain ⟨-, s, hs, hlast, -⟩ := hcs c hc
    simpa [hs] using (append_temporarySuffix_ne_of_getLast hlast name).symm
  free c hc name := by
    obtain ⟨-, s, hs, -⟩ := hcs c hc
    have hat : c.path.below folderRoot = ["w", s] := by rw [hs]; rfl
    rw [hat, show ["w", s].dropLast ++ [name ++ temporarySuffix] = ["w", name ++ temporarySuffix] from rfl,
      node?_folder, Option.map_eq_none_iff, List.lookup_eq_none_iff]
    intro f hf
    simpa using append_temporarySuffix_ne_of_getLast (hfiles f hf) name

/-- Two contents are enough to tell apart. -/
theorem separated_of_ne {c : Capture} {held : Option ByteArray}
    (hne : ∀ before, c.before = some before → digestOf before ≠ digestOf c.after)
    (hheld : held = c.before.map String.toUTF8 ∨ held = some c.after.toUTF8) : Separated c held := by
  have hmem : ∀ x ∈ contents c held, c.before.map String.toUTF8 = some x ∨ x = c.after.toUTF8 := by
    intro x hx
    simp only [contents, List.mem_append, List.mem_cons, Option.mem_toList] at hx
    rcases hheld with rfl | rfl <;> rcases hx with hx | rfl | hx <;> simp_all
  intro x hx y hy e
  rcases hmem x hx with hx | rfl <;> rcases hmem y hy with hy | rfl
  · exact Option.some.inj (hx.symm.trans hy)
  · obtain ⟨before, hbefore, rfl⟩ := Option.map_eq_some_iff.mp hx
    exact absurd e (hne before hbefore)
  · obtain ⟨before, hbefore, rfl⟩ := Option.map_eq_some_iff.mp hy
    exact absurd e.symm (hne before hbefore)
  · rfl

/-! ### One file -/

/-- The change of one line in a file. -/
def edit (name : String) : Capture := ⟨⟨[name]⟩, some "x\n", "y\n"⟩

theorem ready_edit {name : String} (hname : RelPath.Name name) (hplain : RelPath.Plain name)
    (hlast : name.toList.getLast? ≠ some 'p') (hshort : name.utf8ByteSize ≤ maxName) :
    Ready (folder [(name, "y\n")]) folderRoot [edit name] := by
  refine ready_folder (by simp) ?_ (by simpa using hlast)
  simp only [List.mem_singleton, forall_eq]
  refine ⟨RelPath.proper_name hname hplain, name, rfl, hlast, hshort, acceptable_iff.mpr ⟨?_, ?_⟩⟩
  · have hnul : '\x00' ∉ name.toList := fun h => (hplain _ h).2.2.1 rfl
    simp [hnul]
  · have hsize : "w".utf8ByteSize = 1 := by decide
    simp only [pathLength_eq, List.map_cons, List.map_nil, List.sum_cons, List.sum_nil, hsize]
    simp only [maxName] at hshort
    simp only [maxPath]
    omega

theorem fileAt_edit (name : String) :
    (folder [(name, "y\n")]).fileAt ((edit name).path.below folderRoot) = some "y\n".toUTF8 := by
  rw [fileAt_eq_some_iff, show (edit name).path.below folderRoot = ["w", name] from rfl, node?_folder]
  exact ⟨newMode, by simp⟩

theorem separated_edit (name : String) : Separated (edit name) (some "y\n".toUTF8) := by
  refine separated_of_ne ?_ (.inr rfl)
  have hne : digestOf "x\n" ≠ digestOf "y\n" := by decide +kernel
  simpa [edit] using hne

theorem outcome_edit (name : String) : outcome (edit name) (some "y\n".toUTF8) = .restored := by
  have hne : (some "y\n".toUTF8 : Option ByteArray) ≠ some "x\n".toUTF8 := by decide
  exact (if_neg hne).trans (if_pos rfl)

theorem restore_exact_edit : ∃ d',
    ((capture default [edit "a"] default).restore folderRoot).exec (folder [("a", "y\n")]) =
        (.ok ⟨default, [(⟨["a"]⟩, .restored)]⟩, d') ∧
      d'.fileAt ["w", "a"] = some "x\n".toUTF8 := by
  have hready : Ready (folder [("a", "y\n")]) folderRoot [edit "a"] :=
    ready_edit (by decide) (by decide) (by decide) (by decide)
  have hfits : TemporaryFits (folderRoot.file ⟨["a"]⟩) := ⟨by decide +kernel, by decide +kernel⟩
  obtain ⟨d', hrun, hall, -⟩ := restore_exact hready (by simpa [fileAt_edit] using separated_edit "a")
    (by simpa [edit] using fun _ => hfits) default default
  have hundone := hall (edit "a") (by simp)
  simp only [Undone, fileAt_edit, outcome_edit] at hundone
  refine ⟨d', ?_, hundone⟩
  rw [hrun, show sorted [edit "a"] = [edit "a"] from List.mergeSort_singleton _]
  simp only [List.map_cons, List.map_nil, fileAt_edit, outcome_edit]
  rfl

/-- A name so long that the name of the temporary file is too long. -/
def longName : String := String.ofList (List.replicate 250 'a')

theorem bytes_replicate (n : Nat) : (String.ofList (List.replicate n 'a')).utf8ByteSize = n := by
  induction n with
  | zero => rfl
  | succ n ih =>
    have hone : (String.ofList ['a']).utf8ByteSize = 1 := by decide
    rw [List.replicate_succ', String.ofList_append, String.utf8ByteSize_append, ih, hone]

theorem bytes_longName : longName.utf8ByteSize = 250 := bytes_replicate 250

theorem eq_of_mem_longName {c : Char} (h : c ∈ longName.toList) : c = 'a' := by
  unfold longName at h
  rw [String.toList_ofList] at h
  exact List.eq_of_mem_replicate h

theorem ready_longName : Ready (folder [(longName, "y\n")]) folderRoot [edit longName] := by
  have hsize := bytes_longName
  have hne {s : String} (hs : s.utf8ByteSize ≠ 250) : longName ≠ s := fun h => hs (h ▸ hsize)
  refine ready_edit ⟨hne (by decide), hne (by decide), hne (by decide)⟩ (fun c hc => ?_) (fun h => ?_) ?_
  · rw [eq_of_mem_longName hc]
    decide
  · exact absurd (eq_of_mem_longName (List.mem_of_getLast? h)) (by decide)
  · rw [hsize]
    decide

/-- Restoring fails for a file whose name leaves no room for that of the temporary file. -/
theorem restore_fails_for_longName :
    Ready (folder [(longName, "y\n")]) folderRoot [edit longName] ∧
      Separated (edit longName) ((folder [(longName, "y\n")]).fileAt ["w", longName]) ∧
      (folder [(longName, "y\n")]).fileAt ["w", longName] = some "y\n".toUTF8 ∧
      ∃ e d', ((capture default [edit longName] default).restore folderRoot).exec (folder [(longName, "y\n")]) =
        (.error e, d') := by
  have hheld := fileAt_edit longName
  have hsep := separated_edit longName
  refine ⟨ready_longName, by rwa [← hheld] at hsep, hheld, ?_⟩
  have hunfit : ¬ TemporaryFits (folderRoot.file ⟨[longName]⟩) := by
    intro hfits
    obtain ⟨-, init, name, hp, -, -, -, htemporary, -⟩ := slot_parts (ready_longName.slot (edit longName) (by simp))
    have hname : name = longName := by
      have hlast := congrArg List.getLast? hp
      simpa [Place.file, edit] using hlast.symm
    have hshort := hfits.name (name ++ temporarySuffix) (by
      rw [show (⟨[longName]⟩ : RelPath) = (edit longName).path from rfl, htemporary]
      simp)
    rw [String.utf8ByteSize_append, hname, bytes_longName] at hshort
    exact absurd hshort (by decide)
  obtain ⟨r, d', hrun, -, ⟨-, hfits, -⟩ | ⟨-, ⟨e, rfl⟩, -⟩⟩ :=
    exec_restore ready_longName (by simpa [hheld] using hsep) default default
  · exact absurd (hfits (edit longName) (by simp) (by rw [hheld, outcome_edit])) hunfit
  · exact ⟨e, d', hrun⟩

end Mend.Snapshot
