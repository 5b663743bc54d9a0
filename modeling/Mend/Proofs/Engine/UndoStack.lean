import Mathlib.Data.Set.Function
import Mend.Proofs.Engine.Stacking

/-!
# The undo stack

Cycles that end well in a workspace that nobody else uses stack their snapshots, whatever is restored by hand between them
(`Orderly.piled`). The last cycles are undone one after the other by restoring their snapshots, the newest first, and a
snapshot that is restored at any other moment leaves every file alone that does not hold what its cycle wrote
(`undo_stack`).
-/

namespace Mend

open Fs Fs.Disk Ledger
open Action Engine

/-- What is done in a workspace: a cycle is run, or a snapshot is restored by hand. -/
inductive Deed where
  | cycle (e : Engine) (id : CycleId) (now : Time)
  | restore (e : Engine) (id : CycleId)

namespace Deed

/-- The identifier of the cycle that is run. -/
def name? : Deed → Option CycleId
  | cycle _ id _ => some id
  | restore _ _ => none

/-- The identifiers of the cycles, in the order in which they are run. -/
def ids (ds : List Deed) : List CycleId := ds.filterMap name?

/-- Restores the snapshots of cycles, the newest first. -/
def undo (e : Engine) (ds : List Deed) : List Deed := (ids ds).reverse.map (restore e)

theorem undo_cycle (e e' : Engine) (id : CycleId) (now : Time) (ds : List Deed) :
    undo e' (cycle e id now :: ds) = undo e' ds ++ [restore e' id] := by
  simp [undo, ids, name?]

theorem mem_ids {ds : List Deed} {id : CycleId} :
    id ∈ ids ds ↔ ∃ done e now, done ++ [cycle e id now] <+: ds := by
  rw [ids, List.mem_filterMap]
  constructor
  · rintro ⟨d, hd, hname⟩
    obtain ⟨done, later, rfl⟩ := List.append_of_mem hd
    cases d with
    | cycle e k now =>
      obtain rfl := Option.some.inj hname
      exact ⟨done, e, now, later, by simp⟩
    | restore e k => cases hname
  · rintro ⟨done, e, now, later, rfl⟩
    exact ⟨cycle e id now, by simp, rfl⟩

end Deed

open Deed (ids undo)

namespace Workspace

/-- The workspace after a deed. -/
def after (w : Workspace) : Deed → Workspace
  | .cycle e id now => ((e.runCycle id now).exec w).2
  | .restore e id => ((e.restore (some id)).exec w).2

/-- The workspace after deeds. -/
def afterAll (w : Workspace) (ds : List Deed) : Workspace := ds.foldl after w

theorem after_cycle (w : Workspace) (e : Engine) (id : CycleId) (now : Time) :
    w.after (.cycle e id now) = ((e.runCycle id now).exec w).2 := rfl

theorem after_restore (w : Workspace) (e : Engine) (id : CycleId) :
    w.after (.restore e id) = ((e.restore (some id)).exec w).2 := rfl

@[simp] theorem afterAll_nil (w : Workspace) : w.afterAll [] = w := rfl

@[simp] theorem afterAll_snoc (w : Workspace) (ds : List Deed) (d : Deed) :
    w.afterAll (ds ++ [d]) = (w.afterAll ds).after d := by simp [afterAll]

/-- What a file ever holds while deeds are done. -/
def contents (w : Workspace) (ds : List Deed) (m : Location) : Set ByteArray :=
  {x | ∃ done, done <+: ds ∧ (w.afterAll done).disk.fileAt m = some x}

/-- The store of snapshots can find that of a cycle. -/
def Retains (w : Workspace) (id : CycleId) : Prop :=
  (⟨w.disk, w.snapshots⟩ : Snapshot.Session).load id ≠ .error (.snapshotNotFound id)

end Workspace

open Workspace (contents)

/-- A cycle that is run ends well, and the snapshots of the earlier ones are retained. A snapshot that is restored is one
of theirs. -/
def Deed.Fits (root : Place) (l : Layout) (done : List Deed) (w : Workspace) : Deed → Prop
  | .cycle e id now => e.Serves root l ∧ e.EndsWell id now w ∧ (w.snapshots = .directory l.snapshots → now.Storable) ∧
      ∀ k ∈ ids done, (w.after (.cycle e id now)).Retains k
  | .restore e id => e.IsOf root l ∧ id ∈ ids done

/-- Deeds of cycles with names of their own, in a workspace that nobody else uses and that has no snapshot of theirs yet.
No two of the contents that a file ever has have one digest. Where snapshots are kept in files, no file is larger than
can be told there. -/
structure Orderly (root : Place) (l : Layout) (w : Workspace) (ds : List Deed) : Prop where
  idle : w.Idle l
  nodup : (ids ds).Nodup
  named : ∀ id ∈ ids ds, l.Named id
  fresh : ∀ id ∈ ids ds, Fresh l id w.snapshots w.disk
  fits : ∀ done d, done ++ [d] <+: ds → d.Fits root l done (w.afterAll done)
  small : w.snapshots = .directory l.snapshots → ∀ m, ∀ x ∈ w.contents ds m, x.size < UInt64.size
  distinct : ∀ m, ¬ l.location <+: m → Set.InjOn Digest.content (w.contents ds m)

variable {root : Place} {l : Layout} {w v : Workspace} {ds : List Deed} {e : Engine} {id : CycleId} {now : Time}

theorem Workspace.contents_mono {ds ds' : List Deed} (h : ds <+: ds') (m : Location) :
    w.contents ds m ⊆ w.contents ds' m := fun _ ⟨done, hdone, hx⟩ => ⟨done, hdone.trans h, hx⟩

theorem Orderly.of_prefix {ds ds' : List Deed} (h : Orderly root l w ds') (hds : ds <+: ds') : Orderly root l w ds where
  idle := h.idle
  nodup := h.nodup.sublist (hds.filterMap _).sublist
  named id hid := h.named id ((hds.filterMap _).subset hid)
  fresh id hid := h.fresh id ((hds.filterMap _).subset hid)
  fits done d hd := h.fits done d (hd.trans hds)
  small hdir m x hx := h.small hdir m x (Workspace.contents_mono hds m hx)
  distinct m hm := (h.distinct m hm).mono (Workspace.contents_mono hds m)

/-! ## The pile -/

/-- All cycles of the deeds have their snapshots stacked in a workspace. -/
structure Piled (root : Place) (l : Layout) (w : Workspace) (ds : List Deed) (v : Workspace) : Prop where
  idle : v.Idle l
  unlocked : ids ds ≠ [] → v.Unlocked l
  fresh : ∀ id ∉ ids ds, l.Named id → Fresh l id w.snapshots w.disk → Fresh l id v.snapshots v.disk
  place : v.snapshots = .directory l.snapshots → w.snapshots = .directory l.snapshots
  stacked : ∀ done e id now, done ++ [.cycle e id now] <+: ds → ∃ cs,
    Workspace.Advanced root l id now cs (w.afterAll done) (w.afterAll (done ++ [.cycle e id now])) ∧
      v.Stacked root l id cs now

namespace Piled

theorem cycle (h : Piled root l w ds (w.afterAll ds)) (hnamed : l.Named id) (hnew : id ∉ ids ds)
    (hfresh : Fresh l id w.snapshots w.disk) (hfits : (Deed.cycle e id now).Fits root l ds (w.afterAll ds))
    (hsmall : w.snapshots = .directory l.snapshots → ∀ m x,
      (w.afterAll (ds ++ [.cycle e id now])).disk.fileAt m = some x → x.size < UInt64.size) :
    Piled root l w (ds ++ [.cycle e id now]) (w.afterAll (ds ++ [.cycle e id now])) := by
  obtain ⟨hserves, hends, htime, hretained⟩ := hfits
  rw [Workspace.afterAll_snoc, Workspace.after_cycle] at hsmall ⊢
  simp only [Workspace.after_cycle, Workspace.Retains] at hretained
  obtain ⟨cs, hadvanced⟩ := hserves.advanced h.idle hnamed (h.fresh id hnew hnamed hfresh) hends fun hdir =>
    ⟨htime hdir, hsmall (h.place hdir)⟩
  have hids : ids (ds ++ [.cycle e id now]) = ids ds ++ [id] := by simp [ids, Deed.name?]
  refine ⟨hadvanced.idle, fun _ => hadvanced.unlocked, fun k hk hknamed hkfresh => ?_, fun hdir => ?_, ?_⟩
  · rw [hids, List.mem_append, List.mem_singleton, not_or] at hk
    exact hadvanced.fresh k hk.2 hknamed (h.fresh k hk.1 hknamed hkfresh)
  · exact h.place (hadvanced.place hdir)
  · intro done e' k now' hdone
    rcases List.prefix_concat_iff.mp hdone with heq | hdone
    · obtain ⟨rfl, hd⟩ := List.append_inj' heq rfl
      obtain ⟨rfl, rfl, rfl⟩ := Deed.cycle.inj (List.singleton_inj.mp hd)
      rw [Workspace.afterAll_snoc]
      exact ⟨cs, hadvanced, hadvanced.stacked⟩
    · obtain ⟨cs', hadvanced', hstacked⟩ := h.stacked done e' k now' hdone
      have hk : k ∈ ids ds := Deed.mem_ids.mpr ⟨done, e', now', hdone⟩
      have hne : k ≠ id := fun heq => hnew (heq ▸ hk)
      exact ⟨cs', hadvanced', hadvanced.earlier k hne cs' now' (h.unlocked (List.ne_nil_of_mem hk)) hstacked
        (hretained k hk)⟩

/-- What is restored is brought back or left, and the pile is as it was. -/
theorem restore (h : Piled root l w ds v) (he : e.IsOf root l) {done : List Deed} {e' : Engine}
    (hdone : done ++ [.cycle e' id now] <+: ds)
    (hheld : ∀ m, ¬ l.location <+: m → ∀ x, v.disk.fileAt m = some x → x ∈ w.contents ds m)
    (hdistinct : ∀ m, ¬ l.location <+: m → Set.InjOn Digest.content (w.contents ds m)) :
    ∃ cs, Workspace.Advanced root l id now cs (w.afterAll done) (w.afterAll (done ++ [.cycle e' id now])) ∧
      v.Stacked root l id cs now ∧
      (e.restore (some id)).exec v = (.ok ⟨id, (Snapshot.sorted cs).map fun c =>
        (c.path, Snapshot.outcome c (v.disk.fileAt (c.path.below root)))⟩, v.after (.restore e id)) ∧
      Workspace.Restored root l cs v (v.after (.restore e id)) ∧ Piled root l w ds (v.after (.restore e id)) := by
  obtain ⟨rfl, rfl⟩ := he
  obtain ⟨cs, hadvanced, hstacked⟩ := h.stacked done e' id now hdone
  have hsep : ∀ c ∈ cs, Snapshot.Separated c (v.disk.fileAt (c.path.below e.root)) := by
    intro c hc
    have hout := hstacked.captured.apart c hc
    obtain ⟨before, hbefore, hbefore'⟩ := hadvanced.before c hc
    have hmem : ∀ x ∈ Snapshot.contents c (v.disk.fileAt (c.path.below e.root)),
        x ∈ w.contents ds (c.path.below e.root) := by
      intro x hx
      simp only [Snapshot.contents, hbefore, Option.map_some, Option.toList_some, List.singleton_append, List.mem_cons,
        Option.mem_toList] at hx
      rcases hx with rfl | rfl | hx
      · exact ⟨done, (List.prefix_append _ _).trans hdone, hbefore'⟩
      · exact ⟨_, hdone, hadvanced.after c hc⟩
      · exact hheld _ hout x hx
    exact fun x hx y hy heq => hdistinct _ hout (hmem x hx) (hmem y hy) heq
  have hids : ids ds ≠ [] := List.ne_nil_of_mem (Deed.mem_ids.mpr ⟨done, e', now, hdone⟩)
  obtain ⟨v', hrun, hrestored⟩ := Engine.exec_restore h.idle (h.unlocked hids) hstacked hsep
  have hv' : v' = v.after (.restore e id) := by rw [Workspace.after_restore, hrun]
  rw [hv'] at hrun hrestored
  refine ⟨cs, hadvanced, hstacked, hrun, hrestored, hrestored.idle, fun hne => ?_, fun k hk hnamed hfresh => ?_,
    fun hdir => ?_, fun done' e'' k now' hdone' => ?_⟩
  · exact (h.unlocked hne).firm hrestored.firm hrestored.held
  · rw [hrestored.snapshots]
    exact (h.fresh k hk hnamed hfresh).congr (hrestored.state k)
  · exact h.place (hrestored.snapshots ▸ hdir)
  · obtain ⟨cs', hadvanced', hstacked'⟩ := h.stacked done' e'' k now' hdone'
    exact ⟨cs', hadvanced', hstacked'.congr hrestored.firm hrestored.snapshots (hrestored.state k)⟩

end Piled

/-- After orderly deeds the snapshots of all their cycles are stacked. -/
theorem Orderly.piled (h : Orderly root l w ds) : Piled root l w ds (w.afterAll ds) := by
  induction ds using List.reverseRecOn with
  | nil =>
    refine ⟨h.idle, fun hne => absurd rfl hne, fun _ _ _ hfresh => hfresh, fun hdir => hdir, fun done e id now hdone => ?_⟩
    exact absurd (List.prefix_nil.mp hdone) (by simp)
  | append_singleton ds d ih =>
    have hpiled := ih (h.of_prefix (List.prefix_append _ _))
    have hfits := h.fits ds d List.prefix_rfl
    cases d with
    | cycle e id now =>
      have hids : ids (ds ++ [.cycle e id now]) = ids ds ++ [id] := by simp [ids, Deed.name?]
      have hid : id ∈ ids (ds ++ [.cycle e id now]) := by simp [hids]
      refine hpiled.cycle (h.named id hid) (fun hmem => ?_) (h.fresh id hid) hfits fun hdir m x hx => ?_
      · have hnodup := h.nodup
        rw [hids] at hnodup
        exact (List.nodup_append.mp hnodup).2.2 id hmem id (by simp) rfl
      · exact h.small hdir m x ⟨_, List.prefix_rfl, hx⟩
    | restore e id =>
      obtain ⟨he, hid⟩ := hfits
      obtain ⟨done, e', now, hdone⟩ := Deed.mem_ids.mp hid
      have hsub := Workspace.contents_mono (w := w) (List.prefix_append ds [Deed.restore e id])
      obtain ⟨-, -, -, -, -, hkept⟩ := hpiled.restore he hdone (fun m _ x hx => ⟨ds, List.prefix_rfl, hx⟩) fun m hm =>
        (h.distinct m hm).mono (hsub m)
      have hids : ids (ds ++ [.restore e id]) = ids ds := by simp [ids, Deed.name?]
      rw [Workspace.afterAll_snoc]
      refine ⟨hkept.idle, hids ▸ hkept.unlocked, hids ▸ hkept.fresh, hkept.place, fun done' e'' k now' hdone' => ?_⟩
      refine hkept.stacked done' e'' k now' ((List.prefix_concat_iff.mp hdone').resolve_left fun heq => ?_)
      cases List.singleton_inj.mp (List.append_inj' heq rfl).2

/-! ## Undoing -/

/-- Undoing a cycle right after it, or after whatever was undone since, gives back what was there before it. -/
theorem Piled.pop (h : Piled root l w ds v) (he : e.IsOf root l) {done : List Deed} {e' : Engine}
    (hdone : done ++ [.cycle e' id now] <+: ds)
    (hdistinct : ∀ m, ¬ l.location <+: m → Set.InjOn Digest.content (w.contents ds m))
    (hsame : l.Outside (w.afterAll (done ++ [.cycle e' id now])).disk v.disk) :
    Piled root l w ds (v.after (.restore e id)) ∧ l.Outside (w.afterAll done).disk (v.after (.restore e id)).disk ∧
      ∃ report, ((e.restore (some id)).exec v).1 = .ok report ∧ report.isComplete = true := by
  have hheld : ∀ m, ¬ l.location <+: m → ∀ x, v.disk.fileAt m = some x → x ∈ w.contents ds m := fun m hm x hx =>
    ⟨_, hdone, hsame m hm ▸ hx⟩
  obtain ⟨cs, hadvanced, hstacked, hrun, hrestored, hpiled⟩ := h.restore he hdone hheld hdistinct
  have hafter (c : Snapshot.Capture) (hc : c ∈ cs) : v.disk.fileAt (c.path.below root) = some c.after.toUTF8 := by
    rw [hsame _ (hstacked.captured.apart c hc), hadvanced.after c hc]
  refine ⟨hpiled, fun m hm => ?_, ⟨id, _⟩, congrArg Prod.fst hrun, ?_⟩
  · by_cases hcs : ∃ c ∈ cs, m = c.path.below root
    · obtain ⟨c, hc, rfl⟩ := hcs
      obtain ⟨before, hbefore, hheld⟩ := hadvanced.before c hc
      rw [(hrestored.undone c hc).of_after hbefore (hafter c hc), hheld]
    · have hcs' : ∀ c ∈ cs, m ≠ c.path.below root := fun c hc heq => hcs ⟨c, hc, heq⟩
      rw [fileAt_congr (hrestored.other m hm hcs'), hsame m hm, hadvanced.other m hm hcs']
  · rw [Snapshot.Report.isComplete, List.isEmpty_iff, List.eq_nil_iff_forall_not_mem]
    intro q hq
    obtain ⟨c, hc, -, -, hdrifted⟩ := Snapshot.mem_drifted.mp hq
    exact hdrifted (hafter c hc)

/-- Undoing the last cycles, the newest first, gives back what was there before the first of them. -/
theorem Piled.popAll (he : e.IsOf root l) (hdistinct : ∀ m, ¬ l.location <+: m → Set.InjOn Digest.content (w.contents ds m))
    (h : Piled root l w ds (w.afterAll ds)) {done last : List Deed} (hds : ds = done ++ last)
    (hlast : ∀ d ∈ last, d.name? ≠ none) :
    Piled root l w ds (w.afterAll (ds ++ undo e last)) ∧
      l.Outside (w.afterAll done).disk (w.afterAll (ds ++ undo e last)).disk := by
  induction last generalizing done with
  | nil =>
    obtain rfl : ds = done := by rw [hds, List.append_nil]
    rw [show undo e [] = [] from rfl, List.append_nil]
    exact ⟨h, .refl _ _⟩
  | cons d last ih =>
    cases d with
    | restore e' id => exact absurd rfl (hlast (.restore e' id) (by simp))
    | cycle e' id now =>
      have hrest : ds = (done ++ [.cycle e' id now]) ++ last := by rw [hds, List.append_assoc]; rfl
      obtain ⟨hpiled, hsame⟩ := ih hrest fun d hd => hlast d (List.mem_cons_of_mem _ hd)
      rw [Deed.undo_cycle, ← List.append_assoc, Workspace.afterAll_snoc]
      obtain ⟨hpiled', hback, -⟩ := hpiled.pop he ⟨last, hrest.symm⟩ hdistinct hsame
      exact ⟨hpiled', hback⟩

namespace Snapshot

/-- Captures of a cycle that are what it did to the files outside of the state directory. -/
structure Records (root : Place) (l : Layout) (cs : List Capture) (d d' : Disk) : Prop where
  nodup : (cs.map Capture.path).Nodup
  apart : ∀ c ∈ cs, ¬ l.location <+: c.path.below root
  before : ∀ c ∈ cs, ∃ before, c.before = some before ∧ d.fileAt (c.path.below root) = some before.toUTF8
  after : ∀ c ∈ cs, d'.fileAt (c.path.below root) = some c.after.toUTF8
  other : ∀ m, ¬ l.location <+: m → (∀ c ∈ cs, m ≠ c.path.below root) → d'.fileAt m = d.fileAt m

/-- A file that holds what a cycle wrote is brought back to what it held before. One that does not is left as it is, and
the report tells whether it held that already. -/
structure Reverts (root : Place) (l : Layout) (cs : List Capture) (report : Report) (d d' : Disk) : Prop where
  paths : (report.files.map Prod.fst).Perm (cs.map Capture.path)
  reverted : ∀ c ∈ cs, d.fileAt (c.path.below root) = some c.after.toUTF8 →
    d'.fileAt (c.path.below root) = c.before.map String.toUTF8
  kept : ∀ c ∈ cs, d.fileAt (c.path.below root) ≠ some c.after.toUTF8 →
    d'.node? (c.path.below root) = d.node? (c.path.below root)
  already : ∀ c ∈ cs, d.fileAt (c.path.below root) = c.before.map String.toUTF8 →
    (c.path, .alreadyRestored) ∈ report.files
  drifted : ∀ c ∈ cs, d.fileAt (c.path.below root) ≠ some c.after.toUTF8 →
    d.fileAt (c.path.below root) ≠ c.before.map String.toUTF8 →
    (c.path, .drifted ((d.fileAt (c.path.below root)).map Digest.content)) ∈ report.files
  other : ∀ m, ¬ l.location <+: m → (∀ c ∈ cs, m ≠ c.path.below root) → d'.node? m = d.node? m
  /-- No other file changes, in the state directory either. -/
  files : ∀ m x, d.fileAt m = some x → (∀ c ∈ cs, m ≠ c.path.below root) → d'.fileAt m = some x

end Snapshot

theorem Workspace.Advanced.records {cs : List Snapshot.Capture} {w' : Workspace}
    (h : Workspace.Advanced root l id now cs w w') : Snapshot.Records root l cs w.disk w'.disk where
  nodup := h.stacked.captured.nodup
  apart := h.stacked.captured.apart
  before := h.before
  after := h.after
  other := h.other

theorem Workspace.Restored.reverts {cs : List Snapshot.Capture} {v' : Workspace}
    (h : Workspace.Restored root l cs v v') (hbefore : ∀ c ∈ cs, ∃ before, c.before = some before) :
    Snapshot.Reverts root l cs ⟨id, (Snapshot.sorted cs).map fun c =>
      (c.path, Snapshot.outcome c (v.disk.fileAt (c.path.below root)))⟩ v.disk v'.disk where
  paths := by
    rw [List.map_map]
    exact (List.mergeSort_perm cs _).map _
  reverted c hc hheld := by
    obtain ⟨before, hbefore⟩ := hbefore c hc
    rw [(h.undone c hc).of_after hbefore hheld, hbefore]
    rfl
  kept c hc := (h.undone c hc).of_ne
  already c hc hheld := List.mem_map.mpr ⟨c, Snapshot.mem_sorted.mpr hc, by rw [Snapshot.outcome, if_pos hheld]⟩
  drifted c hc hafter hheld :=
    List.mem_map.mpr ⟨c, Snapshot.mem_sorted.mpr hc, by rw [Snapshot.outcome, if_neg hheld, if_neg hafter]⟩
  other := h.other
  files := h.files

/-- **The undo stack.** When the snapshots of the last cycles are restored, the newest first, each restore gives back the
files from before its cycle and leaves none out. A snapshot that is restored at any other moment brings the files back
that hold what its cycle wrote. It leaves any other file as it is, and reports those of its cycle as restored already or
as drifted. -/
theorem undo_stack (h : Orderly root l w ds) (he : e.IsOf root l) :
    (∀ done last, ds = done ++ last → (∀ d ∈ last, d.name? ≠ none) →
      l.Outside (w.afterAll done).disk (w.afterAll (ds ++ undo e last)).disk) ∧
    (∀ done e' id now last, ds = done ++ .cycle e' id now :: last → (∀ d ∈ last, d.name? ≠ none) →
      ∃ report, ((e.restore (some id)).exec (w.afterAll (ds ++ undo e last))).1 = .ok report ∧
        report.isComplete = true) ∧
    ∀ done e' id now, done ++ [.cycle e' id now] <+: ds → ∃ cs report,
      (⟨(w.afterAll ds).disk, (w.afterAll ds).snapshots⟩ : Snapshot.Session).load id =
        .ok (Snapshot.capture id cs now) ∧
      Snapshot.Records root l cs (w.afterAll done).disk (w.afterAll (done ++ [.cycle e' id now])).disk ∧
      (e.restore (some id)).exec (w.afterAll ds) = (.ok report, w.afterAll (ds ++ [.restore e id])) ∧
      report.snapshot = id ∧
      Snapshot.Reverts root l cs report (w.afterAll ds).disk (w.afterAll (ds ++ [.restore e id])).disk := by
  have hpiled := h.piled
  refine ⟨fun done last hds hlast => (hpiled.popAll he h.distinct hds hlast).2,
    fun done e' id now last hds hlast => ?_, fun done e' id now hdone => ?_⟩
  · have hcycle : ds = done ++ [.cycle e' id now] ++ last := by rw [hds, List.append_assoc]; rfl
    obtain ⟨hundone, hsame⟩ := hpiled.popAll he h.distinct hcycle hlast
    exact (hundone.pop he ⟨last, hcycle.symm⟩ h.distinct hsame).2.2
  · have hheld : ∀ m, ¬ l.location <+: m → ∀ x, (w.afterAll ds).disk.fileAt m = some x → x ∈ w.contents ds m :=
      fun m _ x hx => ⟨ds, List.prefix_rfl, hx⟩
    obtain ⟨cs, hadvanced, hstacked, hrun, hrestored, -⟩ := hpiled.restore he hdone hheld h.distinct
    rw [Workspace.afterAll_snoc _ ds]
    refine ⟨cs, _, hstacked.has.load, hadvanced.records, hrun, rfl, hrestored.reverts fun c hc => ?_⟩
    obtain ⟨before, hbefore, -⟩ := hadvanced.before c hc
    exact ⟨before, hbefore⟩

/-! ### Two cycles -/

attribute [local instance] Text.decideBytes

/-- The first line of the file that ends in a blank. -/
def firstBlank (d : Disk) : List Issue :=
  if d.fileAt ["w", "a"] = some "x \n ".toUTF8 then [{ blank with id := "2", line := 1 }]
  else if d.fileAt ["w", "a"] = some "x\n ".toUTF8 then [blank]
  else []

/-- Takes the blanks away from one line after the other. -/
def byLine : Engine :=
  { tidy with tools := ⟨fun _ d => ⟨.ok { generatedAt := default, issues := firstBlank d }, d, 0⟩,
    fun d => ⟨.ok ⟨true, some 0⟩, d, 0⟩⟩ }

/-- A folder with a file of which both lines end in a blank. -/
def twoBlanks : Workspace := .inMemory [] (Snapshot.folder [("a", "x \n ")])

/-- The cycle that takes the blank away from the first line. -/
def firstLine : Deed := .cycle byLine default default

theorem CycleId.one_lt_count : 1 < CycleId.count := by decide

/-- The cycle that takes the blank away from the second line. -/
def secondLine : Deed := .cycle byLine ⟨1, CycleId.one_lt_count⟩ default

/-- All files outside of the state directory hold one content. -/
def Ledger.Layout.allHold (l : Layout) (s : String) (d : Disk) : Bool :=
  d.entries.all fun x => match x.2 with
    | .file content _ => l.location.isPrefixOf x.1 || decide (content = s.toUTF8)
    | .dir => true

theorem eq_of_allHold {l : Layout} {s : String} {d : Disk} {m : Location} {x : ByteArray} (h : l.allHold s d = true)
    (hm : ¬ l.location <+: m) (hx : d.fileAt m = some x) : x = s.toUTF8 := by
  obtain ⟨mode, hnode⟩ := fileAt_eq_some_iff.mp hx
  have hnil : m ≠ [] := by
    rintro rfl
    cases hnode
  have hall := List.all_eq_true.mp h _ (mem_entries hnode hnil)
  simpa [hm] using hall

theorem serves_byLine : byLine.Serves byLine.root byLine.layout := by
  have htarget {p : RelPath} (h : byLine.Target p) : p = ⟨["a"]⟩ := by
    obtain ⟨n, d, report, hreport, i, hi, rfl⟩ := h
    obtain rfl := Except.ok.inj hreport
    dsimp only [firstBlank] at hi
    split_ifs at hi
    · obtain rfl := List.mem_singleton.mp hi
      rfl
    · obtain rfl := List.mem_singleton.mp hi
      rfl
    · cases hi
  refine ⟨⟨rfl, rfl⟩, fun _ _ => rfl, fun _ => rfl, fun p hp => ?_, fun p hp => ?_⟩
  · rw [htarget hp]
    rfl
  · rw [htarget hp]
    decide

theorem nodup_digests_lines : (["x \n ", "x\n ", "x\n"].map Snapshot.digestOf).Nodup := by decide +kernel

/-- A cycle at a glance: it ended well, all files outside of the state directory hold one content, and the snapshot of
the first cycle is kept in memory. -/
def glanced (s : String) : Except Engine.Error CycleResult × Workspace → Bool
  | (.ok res, w) =>
    res.phase = .done && (res.verdict = .success || res.verdict = .partly) &&
      (byLine.layout.allHold s w.disk && w.disk.fileAt ["w", "a"] = some s.toUTF8) &&
      match w.snapshots with
      | .memory t lost => !lost && (Ordered.get? t (default : CycleId)).isSome
      | .directory _ => false
  | (.error _, _) => false

/-- What a glance tells. -/
structure Glanced (id : CycleId) (s : String) (w w' : Workspace) : Prop where
  endsWell : byLine.EndsWell id default w
  allHold : byLine.layout.allHold s w'.disk = true
  file : w'.disk.fileAt ["w", "a"] = some s.toUTF8
  store : w'.snapshots ≠ .directory byLine.layout.snapshots
  retains : w'.Retains default

theorem Glanced.of_glanced {id : CycleId} {s : String} {w : Workspace}
    (h : glanced s ((byLine.runCycle id default).exec w) = true) :
    Glanced id s w (w.after (.cycle byLine id default)) := by
  rw [Workspace.after_cycle]
  rcases hrun : (byLine.runCycle id default).exec w with ⟨err | res, disk, held, trust, store, history, log, around⟩
  · rw [hrun] at h
    cases h
  · rw [hrun] at h
    simp only [glanced, Bool.and_eq_true, Bool.or_eq_true, decide_eq_true_eq] at h
    obtain ⟨⟨⟨hphase, hverdict⟩, hall, hfile⟩, hstore⟩ := h
    have hends : byLine.EndsWell id default w := ⟨res, congrArg Prod.fst hrun, hphase, hverdict⟩
    cases store with
    | directory p => cases hstore
    | memory t lost =>
      rw [Bool.and_eq_true, Bool.not_eq_true'] at hstore
      obtain ⟨rfl, hget⟩ := hstore
      obtain ⟨snapshot, hget⟩ := Option.isSome_iff_exists.mp hget
      refine ⟨hends, hall, hfile, nofun, ?_⟩
      rw [Workspace.Retains]
      dsimp only
      rw [Snapshot.load_memory, hget]
      nofun

set_option maxRecDepth 100000 in
theorem glanced_firstLine : glanced "x\n " ((byLine.runCycle default default).exec twoBlanks) = true := by decide +kernel

theorem afterAll_firstLine : twoBlanks.afterAll [firstLine] = twoBlanks.after (.cycle byLine default default) :=
  Workspace.afterAll_snoc twoBlanks [] firstLine

theorem seen_firstLine : Glanced default "x\n " twoBlanks (twoBlanks.afterAll [firstLine]) := by
  rw [afterAll_firstLine]
  exact .of_glanced glanced_firstLine

set_option maxRecDepth 100000 in
theorem glanced_secondLine : glanced "x\n" ((byLine.runCycle ⟨1, CycleId.one_lt_count⟩ default).exec
    (twoBlanks.after (.cycle byLine default default))) = true := by decide +kernel

theorem afterAll_secondLine : twoBlanks.afterAll [firstLine, secondLine] =
    (twoBlanks.afterAll [firstLine]).after (.cycle byLine ⟨1, CycleId.one_lt_count⟩ default) :=
  Workspace.afterAll_snoc twoBlanks [firstLine] secondLine

theorem seen_secondLine : Glanced ⟨1, CycleId.one_lt_count⟩ "x\n" (twoBlanks.afterAll [firstLine])
    (twoBlanks.afterAll [firstLine, secondLine]) := by
  rw [afterAll_secondLine, afterAll_firstLine]
  exact .of_glanced glanced_secondLine

theorem prefix_lines {done : List Deed} (h : done <+: [firstLine, secondLine]) :
    done = [] ∨ done = [firstLine] ∨ done = [firstLine, secondLine] := by
  simpa [List.inits] using (List.mem_inits done _).mpr h

theorem mem_contents_lines {m : Location} (hm : ¬ byLine.layout.location <+: m) {x : ByteArray}
    (hx : x ∈ twoBlanks.contents [firstLine, secondLine] m) : ∃ s ∈ ["x \n ", "x\n ", "x\n"], s.toUTF8 = x := by
  obtain ⟨done, hdone, hx⟩ := hx
  have hstart : byLine.layout.allHold "x \n " twoBlanks.disk = true := by decide +kernel
  rcases prefix_lines hdone with rfl | rfl | rfl
  · exact ⟨_, by simp, (eq_of_allHold hstart hm hx).symm⟩
  · exact ⟨_, by simp, (eq_of_allHold seen_firstLine.allHold hm hx).symm⟩
  · exact ⟨_, by simp, (eq_of_allHold seen_secondLine.allHold hm hx).symm⟩

theorem fits_firstLine : firstLine.Fits byLine.root byLine.layout [] twoBlanks :=
  ⟨serves_byLine, seen_firstLine.endsWell, nofun, nofun⟩

theorem fits_secondLine : secondLine.Fits byLine.root byLine.layout [firstLine] (twoBlanks.afterAll [firstLine]) := by
  refine ⟨serves_byLine, seen_secondLine.endsWell, fun hdir => ?_, fun k hk => ?_⟩
  · exact absurd hdir seen_firstLine.store
  · obtain rfl : k = default := List.mem_singleton.mp hk
    rw [← afterAll_secondLine]
    exact seen_secondLine.retains

theorem orderly_lines : Orderly byLine.root byLine.layout twoBlanks [firstLine, secondLine] where
  idle := by
    refine ⟨fun _ _ _ => rfl, ⟨nofun, nofun, nofun, nofun⟩, ?_, ?_⟩
    · exact noTemporary_of_entries (by decide)
    · rintro t lost ht
      cases ht
      exact .nil
  nodup := by decide
  named := by
    have hsteps : ∀ id ∈ ids [firstLine, secondLine], ∀ s ∈ byLine.layout.root.location,
        s ≠ id.toText ++ ".json" ∧ s.toList.getLast? ≠ some 'p' := by decide +kernel
    intro id hid s hs
    obtain ⟨hne, hlast⟩ := hsteps id hid s hs
    exact ⟨hne, fun name => (Snapshot.append_temporarySuffix_ne_of_getLast hlast name).symm⟩
  fresh _ _ := .inl ⟨[], rfl, rfl⟩
  fits := by
    intro done d hdone
    rcases prefix_lines hdone with hnil | hfirst | hboth
    · simp at hnil
    · obtain ⟨rfl, hd⟩ := List.append_inj' (show done ++ [d] = [] ++ [firstLine] from hfirst) rfl
      obtain rfl := List.singleton_inj.mp hd
      exact fits_firstLine
    · obtain ⟨rfl, hd⟩ := List.append_inj' (show done ++ [d] = [firstLine] ++ [secondLine] from hboth) rfl
      obtain rfl := List.singleton_inj.mp hd
      exact fits_secondLine
  small := nofun
  distinct m hm := by
    intro x hx y hy heq
    obtain ⟨s, hs, rfl⟩ := mem_contents_lines hm hx
    obtain ⟨t, ht, rfl⟩ := mem_contents_lines hm hy
    rw [List.inj_on_of_nodup_map nodup_digests_lines hs ht heq]

/-- A file is changed by two cycles. Restoring their snapshots, the newest first, brings it back, and restoring the older
one alone finds that it drifted. -/
theorem undo_stack_lines :
    (twoBlanks.afterAll ([firstLine, secondLine] ++ undo byLine [firstLine, secondLine])).disk.fileAt ["w", "a"] =
        some "x \n ".toUTF8 ∧
      ∃ report, ((byLine.restore (some default)).exec (twoBlanks.afterAll [firstLine, secondLine])).1 = .ok report ∧
        (⟨["a"]⟩, .drifted (some (Digest.content "x\n".toUTF8))) ∈ report.files := by
  obtain ⟨hundo, -, hsingle⟩ := undo_stack orderly_lines ⟨rfl, rfl⟩
  have hstart : twoBlanks.disk.fileAt ["w", "a"] = some "x \n ".toUTF8 := by decide +kernel
  have hfirst := seen_firstLine.file
  have hsecond := seen_secondLine.file
  refine ⟨?_, ?_⟩
  · rw [hundo [] _ rfl (by simp [firstLine, secondLine, Deed.name?]) ["w", "a"] (by decide), Workspace.afterAll_nil, hstart]
  · obtain ⟨cs, report, -, hrecords, hrun, -, hreverts⟩ := hsingle [] byLine default default ⟨[secondLine], rfl⟩
    rw [List.nil_append, Workspace.afterAll_nil, ← firstLine] at hrecords
    have hc : ∃ c ∈ cs, c.path.below byLine.root = ["w", "a"] := by
      by_contra hnone
      have hsame := hrecords.other ["w", "a"] (by decide) fun c hc hloc => hnone ⟨c, hc, hloc.symm⟩
      rw [hfirst, hstart] at hsame
      exact absurd hsame (by decide)
    obtain ⟨c, hc, hlocation⟩ := hc
    have hpath : c.path = ⟨["a"]⟩ := RelPath.below_inj hlocation
    obtain ⟨before, hbefore, hheld⟩ := hrecords.before c hc
    have hafter := hrecords.after c hc
    have hdrifted := hreverts.drifted c hc
    rw [hlocation] at hheld hafter hdrifted
    rw [hstart] at hheld
    rw [hfirst] at hafter
    rw [hsecond, hpath, ← hafter, hbefore, Option.map_some, ← hheld] at hdrifted
    exact ⟨report, congrArg Prod.fst hrun, hdrifted (by decide) (by decide)⟩

end Mend
