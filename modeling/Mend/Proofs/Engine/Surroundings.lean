import Mend.Proofs.Engine.Workspace

/-!
# Other programs around a cycle

Other programs get their turn whenever a cycle pauses, and the tools are such programs. `Foreign` tells what
is asked of them: they change files as they like, but directories stay, no directory is put where a file is
worked on, the state directory is left alone, and no name belongs to a temporary file.

A workspace is `Steady` from the moment that a cycle has its lock until the cycle takes its snapshot, as long
as no step fails: the state directory is there, no temporary file is, and the store has no snapshot of
the cycle yet.
-/

namespace Mend

open Fs Fs.Disk Ledger
open Action
open Function (update)

namespace Ledger

namespace Layout

variable {l : Layout} {d d' : Disk}

/-- The state directory is there. -/
structure There (l : Layout) (d : Disk) : Prop where
  locate : d.locate l.root.location = .ok l.location
  dir : d.node? l.location = some .dir

theorem There.mono (h : l.There d) (hdirs : ∀ m, d.node? m = some .dir → d'.node? m = some .dir) : l.There d' :=
  ⟨locate_mono hdirs h.locate, hdirs _ h.dir⟩

theorem There.locate_settled (h : l.There d) : d.locate (Place.settled l.root.location) = .ok l.location := by
  obtain ⟨hpath, hfollow⟩ := locate_eq_ok_iff.mp h.locate
  exact locate_eq_ok_iff.mpr ⟨Acceptable.of_prefix hpath (prefix_of_settled _), follow_settled _ hfollow⟩

/-- A file of the state directory needs no directory to be made. -/
theorem There.exec_makeParent (h : l.There d) {name : String} (hname : name ≠ "" ∧ name ≠ "." ∧ name ≠ "..") :
    (makeParent (l.root.child name)).exec d = (.ok (), d) := by
  rw [makeParent, exec_ofFun, parent_child hname, mkdirs_of_isDir (isDir_of_locate h.locate_settled h.dir)]
  rfl

theorem there_of_slot {name : String} {k : Location} (h : Slot d (l.root.child name).location k) : l.There d := by
  obtain ⟨base, init, s, hp, -, -, -, hinit, hbase⟩ := h.cut
  have hpath := (locate_eq_ok_iff.mp h.locate).1
  rw [hp] at hpath
  have hroot : init = l.root.location := (List.append_inj_left' hp rfl).symm
  have hlocate : d.locate init = .ok base :=
    locate_eq_ok_iff.mpr ⟨Acceptable.of_prefix hpath (List.prefix_append _ _), hinit⟩
  rw [hroot] at hlocate
  have hat : base = l.location := by rw [locate_eq_resolve hlocate, location]
  exact ⟨hat ▸ hlocate, hat ▸ hbase⟩

/-- A file of the state directory that was written is there, without a temporary file, and nothing else in
another directory has changed. -/
theorem There.atomicWrite_ok (h : l.There d) {name : String} {content : ByteArray}
    (hname : name ≠ "" ∧ name ≠ "." ∧ name ≠ "..") (hlast : ∀ n, name ≠ n ++ temporarySuffix)
    (hwrite : (atomicWrite (l.root.child name) content).exec d = (.ok (), d')) :
    l.There d' ∧ (NoTemporary d → NoTemporary d') ∧ ∀ m, (∀ s, m ≠ l.location ++ [s]) → d'.node? m = d.node? m := by
  obtain ⟨d₁, k, m, mode, hmake, htemporary, hslot, hne, hview⟩ := Ledger.atomicWrite_ok hwrite
  rw [h.exec_makeParent hname] at hmake
  obtain rfl := (Prod.mk.inj hmake).2
  have hm : m = l.location ++ [name] := by
    rw [locate_eq_resolve hslot.locate, resolve_child hname, location]
  have hk : k = l.location ++ [name ++ temporarySuffix] := by
    rw [locate_eq_resolve htemporary.locate, resolve_temporary_child hname, location]
  refine ⟨h.mono ?_, ?_, ?_⟩
  · intro n hn
    have hnm : n ≠ m := fun e => hslot.not_dir (e ▸ hn)
    have hnk : n ≠ k := fun e => htemporary.not_dir (e ▸ hn)
    rw [hview, Function.update_of_ne hnm, Function.update_of_ne hnk, hn]
  · intro hclean n s
    have hnm : n ++ [s ++ temporarySuffix] ≠ m := by
      rw [hm]
      intro e
      have hs : s ++ temporarySuffix = name := by simpa using congrArg List.getLast? e
      exact hlast s hs.symm
    rw [hview, Function.update_of_ne hnm, Function.update_apply, hclean n s]
    split <;> rfl
  · intro n hn
    rw [hview, Function.update_of_ne (hm ▸ hn name), Function.update_of_ne (hk ▸ hn _)]

theorem locationOf_snapshots (l : Layout) (id : CycleId) :
    Snapshot.locationOf l.snapshots id = l.location ++ ["snapshots"] ++ [id.toText ++ ".json"] := by
  rw [Snapshot.locationOf, snapshots, resolve_child (by decide), location]

theorem locationOf_ne_child (l : Layout) (id : CycleId) (name : String) :
    Snapshot.locationOf l.snapshots id ≠ l.location ++ [name] := by
  rw [locationOf_snapshots]
  intro e
  have hlength := congrArg List.length e
  simp at hlength

end Layout

/-- The store keeps what it is given, and has no snapshot of the cycle. -/
def Fresh (l : Layout) (id : CycleId) (store : Snapshot.Store) (d : Disk) : Prop :=
  (∃ t, store = .memory t false ∧ Ordered.contains t id = false) ∨
    store = .directory l.snapshots ∧ d.node? (Snapshot.locationOf l.snapshots id) = none

theorem Fresh.congr {l : Layout} {id : CycleId} {store : Snapshot.Store} {d d' : Disk} (h : Fresh l id store d)
    (hsame : d'.node? (Snapshot.locationOf l.snapshots id) = d.node? (Snapshot.locationOf l.snapshots id)) :
    Fresh l id store d' :=
  h.imp_right fun hdir => ⟨hdir.1, hsame.trans hdir.2⟩

end Ledger

/-! ## What others may do -/

namespace Engine

variable {e : Engine} {id : CycleId} {d d' : Disk} {p : RelPath} {w : Workspace}

/-- The analyzer may find an issue in a file. -/
def Target (e : Engine) (p : RelPath) : Prop :=
  ∃ n d report, (e.tools.analyze n d).result = .ok report ∧ ∃ i ∈ report.issues, i.file = p

/-- What other programs may do to a disk. -/
structure Foreign (e : Engine) (d d' : Disk) : Prop where
  dirs : ∀ m, d.node? m = some .dir → d'.node? m = some .dir
  files : ∀ p, e.Target p → d.node? (p.below e.root) ≠ some .dir → d'.node? (p.below e.root) ≠ some .dir
  state : ∀ m, e.layout.location <+: m → d'.node? m = d.node? m
  clean : NoTemporary d → NoTemporary d'

theorem Foreign.refl (e : Engine) (d : Disk) : e.Foreign d d := ⟨fun _ h => h, fun _ _ h => h, fun _ _ => rfl, fun h => h⟩

/-- A file that is worked on was found. One in the state directory is still there. -/
structure Found (e : Engine) (d : Disk) (p : RelPath) : Prop where
  slot : Slot d (e.root.file p).location (p.below e.root)
  held : e.layout.location <+: p.below e.root → d.node? (p.below e.root) ≠ none

theorem Found.foreign (h : e.Found d p) (htarget : e.Target p) (hforeign : e.Foreign d d') : e.Found d' p where
  slot := h.slot.mono hforeign.dirs (hforeign.files p htarget h.slot.not_dir)
  held hbelow := by
    rw [hforeign.state _ hbelow]
    exact h.held hbelow

/-- What holds of a workspace before a cycle takes its snapshot, as long as nothing fails. -/
structure Steady (e : Engine) (id : CycleId) (w : Workspace) : Prop where
  edits : ∀ n p d, e.Foreign d (w.around.edit n p d)
  placed : w.Placed e.layout
  fresh : Fresh e.layout id w.snapshots w.disk
  clean : NoTemporary w.disk
  there : e.layout.There w.disk

theorem prefix_locationOf (l : Layout) (id : CycleId) : l.location <+: Snapshot.locationOf l.snapshots id := by
  rw [Layout.locationOf_snapshots, List.append_assoc]
  exact List.prefix_append _ _

theorem Steady.foreign (h : e.Steady id w) (hforeign : e.Foreign w.disk d') : e.Steady id { w with disk := d' } where
  edits := h.edits
  placed := ⟨h.placed.trust, h.placed.history, h.placed.attestations, h.placed.snapshots⟩
  fresh := h.fresh.congr (hforeign.state _ (prefix_locationOf _ _))
  clean := hforeign.clean h.clean
  there := h.there.mono hforeign.dirs

/-- The tools are such programs. -/
structure Tame (e : Engine) : Prop where
  analyze : ∀ n d, e.Foreign d (e.tools.analyze n d).disk
  build : ∀ d, e.Foreign d (e.tools.build d).disk

theorem keeps_pause (p : Point) : Keeps (e.Steady id) (Workspace.pause p) := by
  intro w h
  have hforeign := h.foreign (h.edits w.pauses p w.disk)
  exact ⟨hforeign.edits, ⟨h.placed.trust, h.placed.history, h.placed.attestations, h.placed.snapshots⟩, hforeign.fresh,
    hforeign.clean, hforeign.there⟩

theorem keeps_analyze (htools : e.Tame) : Keeps (e.Steady id) e.analyze := by
  intro w h
  have hforeign := h.foreign (htools.analyze w.analyses w.disk)
  exact ⟨hforeign.edits, ⟨h.placed.trust, h.placed.history, h.placed.attestations, h.placed.snapshots⟩, hforeign.fresh,
    hforeign.clean, hforeign.there⟩

/-! ## Observing and deciding -/

/-- A directory that is made has a name of the path to it. -/
theorem mkdir_name {steps : Location} (h : d.mkdir steps = .ok d') :
    ∃ l, ∃ s ∈ steps, d'.node? = update d.node? (l ++ [s]) (some .dir) := by
  obtain ⟨l, hslot, -, hview⟩ := mkdir_ok h
  obtain ⟨base, init, s, hsteps, rfl, -⟩ := hslot.cut
  refine ⟨base, s, ?_, hview⟩
  have hs : s ∈ unslashed steps := by simp [hsteps]
  rw [unslashed] at hs
  split at hs
  · exact (List.dropLast_prefix _).subset hs
  · exact hs

/-- No step to the state directory is the name of a temporary file, or of the snapshot of the cycle. -/
def Named (e : Engine) (id : CycleId) : Prop :=
  ∀ s ∈ e.layout.root.location, s ≠ id.toText ++ ".json" ∧ ∀ name, s ≠ name ++ temporarySuffix

theorem yields_acquire (hnamed : e.Named id) :
    Yields (fun w : Workspace => (∀ n p d, e.Foreign d (w.around.edit n p d)) ∧ w.Placed e.layout ∧
        Fresh e.layout id w.snapshots w.disk ∧ NoTemporary w.disk)
      (Workspace.onLocks (acquire e.layout.lock)) fun _ => e.Steady id := by
  rintro w l w' ⟨hedits, hplaced, hfresh, hclean⟩ hrun
  rw [Workspace.exec_onLocks] at hrun
  obtain ⟨hok, rfl⟩ := Prod.mk.inj hrun
  have hdisk := disk_acquire e.layout.lock ⟨w.disk, w.held⟩
  have hname : "cycle.lock" ≠ "" ∧ "cycle.lock" ≠ "." ∧ "cycle.lock" ≠ ".." := by decide
  -- the directories on the way have other names
  have hsteps : ∀ s ∈ e.layout.lock.parent.location, s ∈ e.layout.root.location := by
    intro s hs
    rw [show e.layout.lock = e.layout.root.child "cycle.lock" from rfl, parent_child hname] at hs
    exact (prefix_of_settled _).subset hs
  have hmade : NoTemporary (w.disk.mkdirs e.layout.lock.parent.location).2 ∧
      Fresh e.layout id w.snapshots (w.disk.mkdirs e.layout.lock.parent.location).2 := by
    apply mkdirs_invariant (R := fun d => NoTemporary d ∧ Fresh e.layout id w.snapshots d)
    · rintro d d' k hk hmk ⟨hd, hd'⟩
      obtain ⟨l, s, hs, hview⟩ := mkdir_name hmk
      have hs' := hnamed s (hsteps s (hk.subset hs))
      refine ⟨hd.update hs'.2 hview, hd'.congr ?_⟩
      rw [hview, Function.update_of_ne]
      intro e
      rw [Layout.locationOf_snapshots] at e
      have hlast := congrArg List.getLast? e
      rw [List.getLast?_concat, List.getLast?_concat] at hlast
      exact hs'.1 (Option.some.inj hlast).symm
    · exact ⟨hclean, hfresh⟩
  -- a lock that is held was opened
  have hopen : ∃ d, (openLock e.layout.lock).exec w.disk = (.ok (), d) := by
    cases hopen : (openLock e.layout.lock).exec w.disk with
    | mk r d =>
      cases r with
      | ok => exact ⟨d, rfl⟩
      | error e' =>
        rw [acquire, exec_bind_error (e := e') (t := ⟨d, w.held⟩) (by rw [exec_zoom, hopen])] at hok
        cases hok
  obtain ⟨d, hopen⟩ := hopen
  rw [hopen] at hdisk
  rw [openLock, exec_bind, makeParent, exec_ofFun] at hopen
  cases hmk : w.disk.mkdirs e.layout.lock.parent.location with
  | mk r d₁ =>
  rw [hmk] at hopen hmade
  cases r with
  | error e' => cases hopen
  | ok =>
  simp only [at_, exec_update] at hopen
  cases htouch : d₁.touch e.layout.lock.location with
  | error e' => simp [htouch] at hopen
  | ok d₂ =>
  simp only [htouch, Prod.mk.injEq, true_and] at hopen
  subst hopen
  obtain ⟨k, mode, hslot, hview⟩ := touch_ok htouch
  have hk : k = e.layout.location ++ ["cycle.lock"] := by
    rw [locate_eq_resolve hslot.locate, show e.layout.lock = e.layout.root.child "cycle.lock" from rfl,
      resolve_child hname, Layout.location]
  have hthere : e.layout.There d₁ := Layout.there_of_slot hslot
  subst hk
  dsimp only at hdisk
  refine ⟨hedits, ⟨hplaced.trust, hplaced.history, hplaced.attestations, hplaced.snapshots⟩, ?_, ?_, ?_⟩
  · rw [hdisk]
    refine hmade.2.congr ?_
    rw [hview, Function.update_of_ne (Layout.locationOf_ne_child _ _ _)]
  · rw [hdisk]
    exact hmade.1.update (fun name => (Snapshot.append_temporarySuffix_ne_of_getLast (by decide) name).symm) hview
  · rw [hdisk]
    exact hthere.mono fun m => dirs_of_update hslot.not_dir hview

theorem keeps_openTrust : Keeps (e.Steady id) Workspace.openTrust := by
  intro w h
  have huntouched : Workspace.Untouched e.layout w (Workspace.openTrust.exec w).2 :=
    Workspace.keeps_openTrust w ⟨rfl, h.placed, .refl _ _⟩
  have hsame : ((Workspace.openTrust).exec w).2.disk = w.disk ∧
      ((Workspace.openTrust).exec w).2.snapshots = w.snapshots := by
    rw [Workspace.openTrust, exec_bind_ok (exec_get w)]
    split
    · exact ⟨rfl, rfl⟩
    · rw [exec_update]
      cases Trust.Store.open _ w.disk <;> exact ⟨rfl, rfl⟩
  refine ⟨?_, huntouched.placed, ?_, ?_, ?_⟩
  · rw [huntouched.around]
    exact h.edits
  · rw [hsame.1, hsame.2]
    exact h.fresh
  · rw [hsame.1]
    exact h.clean
  · rw [hsame.1]
    exact h.there

/-- A table that is written through leaves no temporary file behind, if it can be written. -/
theorem yields_commit (change : Trust.Table → Trust.Table) :
    Yields (e.Steady id) (Workspace.onTrust (Trust.commit change)) fun _ => e.Steady id := by
  rintro w ⟨⟩ w' h hrun
  rw [Workspace.exec_onTrust] at hrun
  obtain ⟨hok, rfl⟩ := Prod.mk.inj hrun
  cases hfile : w.trust.file with
  | none =>
    have hcommit : (Trust.commit change).exec ⟨w.disk, w.trust⟩ =
        (.ok (), ⟨w.disk, { w.trust with table := change w.trust.table }⟩) := by
      rw [Trust.commit, exec_ofFun, hfile]
    rw [hcommit]
    refine ⟨h.edits, ⟨?_, h.placed.history, h.placed.attestations, h.placed.snapshots⟩, h.fresh, h.clean, h.there⟩
    intro p hp
    exact h.placed.trust p hp
  | some p =>
    obtain rfl := h.placed.trust p hfile
    cases hwrite : (atomicWrite e.layout.trust (Stored.page (change w.trust.table))).exec w.disk with
    | mk r d =>
    have hcommit : (Trust.commit change).exec ⟨w.disk, w.trust⟩ =
        (r, ⟨d, { w.trust with table := change w.trust.table }⟩) := by
      rw [Trust.commit, exec_ofFun, hfile]
      simp only [hwrite]
    rw [hcommit] at hok ⊢
    cases r with
    | error e' => cases hok
    | ok =>
    obtain ⟨hthere, hclean, hother⟩ := h.there.atomicWrite_ok (show RelPath.Name "trust.json" by decide)
      (fun n => (Snapshot.append_temporarySuffix_ne_of_getLast (by decide) n).symm) hwrite
    refine ⟨h.edits, ⟨?_, h.placed.history, h.placed.attestations, h.placed.snapshots⟩, ?_, hclean h.clean, hthere⟩
    · intro p hp
      exact h.placed.trust p hp
    · exact h.fresh.congr (hother _ (Layout.locationOf_ne_child _ _))

theorem yields_ensure (recipe : String) :
    Yields (e.Steady id) (Workspace.onTrust (Trust.ensure recipe)) fun _ => e.Steady id := by
  intro w a w' h hrun
  by_cases hknown : Ordered.contains w.trust.table recipe
  · rw [Workspace.exec_onTrust, Trust.ensure, exec_bind_ok (exec_get _), if_pos hknown] at hrun
    obtain ⟨-, rfl⟩ := Prod.mk.inj hrun
    exact h
  · apply yields_commit (fun t => Trust.Table.ensure t recipe) w a w' h
    rw [Workspace.exec_onTrust] at hrun ⊢
    rwa [Trust.ensure, exec_bind_ok (exec_get _), if_neg hknown] at hrun

end Engine
end Mend
