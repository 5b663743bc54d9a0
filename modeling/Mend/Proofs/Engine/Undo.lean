import Mend.Proofs.Engine.Course
import Mend.Proofs.Engine.Retention

/-!
# One snapshot of many

The files of a snapshot can be restored at any time after its cycle, whatever was restored since then and whichever
other cycles ended well, as long as the store retains it (`Stacked`). Restoring does to each of its files what is to
become of it, and to no other file (`exec_restore`).
-/

namespace Mend

open Fs Fs.Disk Ledger
open Action
open Function (update)

namespace Workspace

variable {root : Place} {l : Layout} {id : CycleId} {now : Time} {cs : List Snapshot.Capture} {w w' : Workspace}

/-! ## A workspace that nobody uses -/

/-- No file changes in a pause, the stores are kept here or in the state directory, and there is no temporary file. -/
structure Idle (l : Layout) (w : Workspace) : Prop where
  edits : ∀ n p d, w.around.edit n p d = d
  placed : w.Placed l
  clean : NoTemporary w.disk
  /-- Snapshots that are kept here are in the order of their identifiers. -/
  ascending : ∀ t lost, w.snapshots = .memory t lost → Ordered.Ascending t

/-- The lock was made, and nobody holds it. -/
structure Unlocked (l : Layout) (w : Workspace) : Prop where
  there : l.There w.disk
  slot : Slot w.disk l.lock.location (resolve [] l.lock.location)
  free : resolve [] l.lock.location ∉ w.held

theorem lock_ne_snapshots (l : Layout) : resolve [] l.lock.location ≠ l.location ++ ["snapshots"] := by
  rw [Layout.lock, resolve_child (by decide)]
  simp [Layout.location]

theorem Unlocked.firm (h : w.Unlocked l) (hfirm : l.Firm w.disk w'.disk) (hheld : w'.held = w.held) : w'.Unlocked l where
  there := hfirm.there h.there
  slot := hfirm.slot h.slot (lock_ne_snapshots l)
  free := hheld ▸ h.free

/-- Whoever asks for the lock gets it, and no file changes. -/
theorem Unlocked.exec_acquire (h : w.Unlocked l) : ∃ d, l.Upkept w.disk d ∧
    (∀ m x, w.disk.fileAt m = some x → d.fileAt m = some x) ∧
    (onLocks (acquire l.lock)).exec w = (.ok (resolve [] l.lock.location),
      { w with disk := d, held := resolve [] l.lock.location :: w.held }) := by
  obtain ⟨d, mode, htouch, hview⟩ := h.slot.touch
  have hopen : (openLock l.lock).exec w.disk = (.ok (), d) := by
    have hmake : (makeParent l.lock).exec w.disk = (.ok (), w.disk) := h.there.exec_makeParent (by decide)
    rw [openLock, exec_bind_ok hmake, exec_update, htouch]
    rfl
  have hupkept := h.there.upkept_openLock (by decide) (by decide) hopen
  have hlocate : d.locate l.lock.location = .ok (resolve [] l.lock.location) := (hupkept.slot h.slot).locate
  have hfree : w.held.contains (resolve [] l.lock.location) = false := by simpa using h.free
  have hfiles : ∀ m x, w.disk.fileAt m = some x → d.fileAt m = some x := by
    intro m x hx
    by_cases hm : m = resolve [] l.lock.location
    · subst hm
      exact fileAt_of_file (by rw [hview, Function.update_self, hx, Option.getD_some])
    · rw [fileAt_of_update hview hm, hx]
  refine ⟨d, hupkept, hfiles, ?_⟩
  have hacquire : (acquire l.lock).exec ⟨w.disk, w.held⟩ =
      (.ok (resolve [] l.lock.location), ⟨d, resolve [] l.lock.location :: w.held⟩) := by
    rw [acquire, exec_bind_ok (a := ()) (t := ⟨d, w.held⟩) (by rw [exec_zoom, hopen]), exec_bind_ok (exec_get _),
      exec_bind_ok (a := resolve [] l.lock.location) (t := ⟨d, w.held⟩) (by rw [exec_query, hlocate]; rfl), hfree]
    rfl
  rw [exec_onLocks, hacquire]
  rfl

/-! ## Snapshots of earlier cycles -/

end Workspace

namespace Snapshot

/-- What a cycle captures: files of the workspace outside of the state directory, which it could write. -/
structure Captured (root : Place) (l : Layout) (cs : List Capture) : Prop where
  proper : ∀ c ∈ cs, c.path.Proper
  nodup : (cs.map Capture.path).Nodup
  named : ∀ c ∈ cs, ∀ name, c.path.segments.getLast? ≠ some (name ++ temporarySuffix)
  fits : ∀ c ∈ cs, TemporaryFits (root.file c.path)
  apart : ∀ c ∈ cs, ¬ l.location <+: c.path.below root

variable {root : Place} {l : Layout} {cs : List Capture}

theorem Captured.ne (h : Captured root l cs) {c : Capture} (hc : c ∈ cs) {m : Location} (hm : l.location <+: m) :
    c.path.below root ≠ m := fun e => h.apart c hc (e ▸ hm)

end Snapshot

namespace Workspace

variable {root : Place} {l : Layout} {id k : CycleId} {now now' : Time} {cs cs' : List Snapshot.Capture} {w w' : Workspace}

/-- The snapshot of a cycle is in the store, and its files can be restored. -/
structure Stacked (root : Place) (l : Layout) (id : CycleId) (cs : List Snapshot.Capture) (now : Time) (w : Workspace) :
    Prop where
  captured : Snapshot.Captured root l cs
  slot : ∀ c ∈ cs, Slot w.disk (root.file c.path).location (c.path.below root)
  has : Snapshot.Has l (Snapshot.capture id cs now) w.snapshots w.disk

theorem Stacked.ready (h : w.Stacked root l id cs now) {d : Disk} (hfirm : l.Firm w.disk d) (hclean : NoTemporary d) :
    Snapshot.Ready d root cs where
  proper := h.captured.proper
  nodup := h.captured.nodup
  slot c hc := hfirm.slot (h.slot c hc) (h.captured.ne hc (List.prefix_append _ _))
  named := h.captured.named
  free _ _ name := hclean _ name

theorem Stacked.firm (h : w.Stacked root l id cs now) (hfirm : l.Firm w.disk w'.disk)
    (hhas : Snapshot.Has l (Snapshot.capture id cs now) w'.snapshots w'.disk) : w'.Stacked root l id cs now where
  captured := h.captured
  slot c hc := hfirm.slot (h.slot c hc) (h.captured.ne hc (List.prefix_append _ _))
  has := hhas

theorem Stacked.congr (h : w.Stacked root l id cs now) (hfirm : l.Firm w.disk w'.disk) (hstore : w'.snapshots = w.snapshots)
    (hsame : w'.disk.node? (Snapshot.locationOf l.snapshots id) = w.disk.node? (Snapshot.locationOf l.snapshots id)) :
    w'.Stacked root l id cs now :=
  h.firm hfirm (hstore ▸ h.has.congr hfirm hsame)

/-! ## Restoring -/

/-- What restoring a snapshot by hand makes of a workspace. -/
structure Restored (root : Place) (l : Layout) (cs : List Snapshot.Capture) (w w' : Workspace) : Prop where
  undone : ∀ c ∈ cs, Snapshot.Undone c (c.path.below root) w.disk w'.disk
  other : ∀ m, ¬ l.location <+: m → (∀ c ∈ cs, m ≠ c.path.below root) → w'.disk.node? m = w.disk.node? m
  /-- No other file changes, in the state directory either. -/
  files : ∀ m x, w.disk.fileAt m = some x → (∀ c ∈ cs, m ≠ c.path.below root) → w'.disk.fileAt m = some x
  idle : w'.Idle l
  firm : l.Firm w.disk w'.disk
  held : w'.held = w.held
  snapshots : w'.snapshots = w.snapshots
  state : ∀ k, w'.disk.node? (Snapshot.locationOf l.snapshots k) = w.disk.node? (Snapshot.locationOf l.snapshots k)

end Workspace

namespace Engine

variable {e : Engine} {id : CycleId} {now : Time} {cs : List Snapshot.Capture} {w : Workspace}

/-- Restoring a snapshot by hand succeeds, and tells what it did to each file. -/
theorem exec_restore (hidle : w.Idle e.layout) (hunlocked : w.Unlocked e.layout)
    (h : w.Stacked e.root e.layout id cs now)
    (hsep : ∀ c ∈ cs, Snapshot.Separated c (w.disk.fileAt (c.path.below e.root))) :
    ∃ w', (e.restore (some id)).exec w =
        (.ok ⟨id, (Snapshot.sorted cs).map fun c => (c.path, Snapshot.outcome c (w.disk.fileAt (c.path.below e.root)))⟩,
          w') ∧ Workspace.Restored e.root e.layout cs w w' := by
  obtain ⟨d, hupkept, hfiles, hlock⟩ := hunlocked.exec_acquire
  have hsame (c : Snapshot.Capture) (hc : c ∈ cs) : d.node? (c.path.below e.root) = w.disk.node? (c.path.below e.root) :=
    hupkept.outside (h.captured.apart c hc)
  have hready := h.ready hupkept.firm (hupkept.clean hidle.clean)
  obtain ⟨res, d', hrestore, hother, hcase⟩ := Snapshot.exec_restore hready
    (fun c hc => by rw [fileAt_congr (hsame c hc)]; exact hsep c hc) id now
  obtain ⟨rfl, -, hundone⟩ := hcase.resolve_right fun hunfit => by
    obtain ⟨⟨c, hc, -, hunfit⟩, -⟩ := hunfit
    exact hunfit (h.captured.fits c hc)
  have hload : (Snapshot.Session.mk d w.snapshots).load id = .ok (Snapshot.capture id cs now) :=
    (h.has.congr hupkept.firm (hupkept.snapshot id)).load
  have hrun : (Snapshot.restoreId id e.root).exec ⟨d, w.snapshots⟩ = (.ok ⟨id, (Snapshot.sorted cs).map fun c =>
      (c.path, Snapshot.outcome c (w.disk.fileAt (c.path.below e.root)))⟩, ⟨d', w.snapshots⟩) := by
    rw [Snapshot.restoreId, exec_bind, exec_query, hload]
    dsimp only
    rw [exec_zoom, hrestore]
    have hreport : (Snapshot.sorted cs).map (fun c => (c.path, Snapshot.outcome c (d.fileAt (c.path.below e.root)))) =
        (Snapshot.sorted cs).map fun c => (c.path, Snapshot.outcome c (w.disk.fileAt (c.path.below e.root))) :=
      List.map_congr_left fun c hc => by rw [fileAt_congr (hsame c (Snapshot.mem_sorted.mp hc))]
    rw [hreport]
  refine ⟨{ w with disk := d' }, ?_, fun c hc => (hundone c hc).congr (hsame c hc).symm rfl, fun m hm hcs => ?_,
    fun m x hx hcs => ?_, ?_, ?_, rfl, rfl, fun k => ?_⟩
  · rw [Engine.restore, exec_locking, hlock]
    dsimp only
    rw [Workspace.exec_onSnapshots, hrun]
    simp only [List.erase_cons_head]
    rfl
  · rw [hother m hcs, hupkept.outside hm]
  · rw [fileAt_congr (hother m hcs), hfiles m x hx]
  · refine ⟨hidle.edits, ⟨hidle.placed.trust, hidle.placed.history, hidle.placed.attestations, hidle.placed.snapshots⟩,
      fun m name => ?_, hidle.ascending⟩
    rw [hother _ fun c hc => hready.below_ne_temporary hc m name, hupkept.clean hidle.clean m name]
  · refine hupkept.firm.trans (Layout.firm_of_dirs fun m => ?_)
    by_cases hm : ∃ c ∈ cs, m = c.path.below e.root
    · obtain ⟨c, hc, rfl⟩ := hm
      have hleaf := (hready.slot c hc).not_dir
      exact ⟨fun hdir => absurd hdir ((hundone c hc).not_dir hleaf), fun hdir => absurd hdir hleaf⟩
    · rw [hother m fun c hc heq => hm ⟨c, hc, heq⟩]
  · rw [hother _ fun c hc => (h.captured.ne hc (prefix_locationOf _ _)).symm, hupkept.snapshot]

end Engine
end Mend
