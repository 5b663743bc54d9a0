import Mend.Proofs.Engine.Turn

/-!
# The upkeep of the ledger

What the ledger writes while a cycle holds the lock are files of the state directory itself: directories stay as they
are, no temporary file is left, and everything else on the disk is the same (`Upkept`), as long as no write fails.
So are surveying and ending a cycle that ended well (`yields_survey_upkept`, `yields_finishLearned_upkept`) if nobody
else is there.
-/

namespace Mend

open Fs Fs.Disk Ledger
open Action
open Function (update)

namespace Ledger.Layout

variable {l : Layout} {d d' d'' : Disk}

/-- At most files of the state directory itself have changed, and none of them is a temporary one. -/
structure Upkept (l : Layout) (d d' : Disk) : Prop where
  dirs : ∀ m, d'.node? m = some .dir ↔ d.node? m = some .dir
  clean : NoTemporary d → NoTemporary d'
  other : ∀ m, (∀ s, m ≠ l.location ++ [s]) → d'.node? m = d.node? m

namespace Upkept

theorem refl (l : Layout) (d : Disk) : l.Upkept d d := ⟨fun _ => Iff.rfl, fun h => h, fun _ _ => rfl⟩

theorem trans (h : l.Upkept d d') (h' : l.Upkept d' d'') : l.Upkept d d'' where
  dirs m := (h'.dirs m).trans (h.dirs m)
  clean hclean := h'.clean (h.clean hclean)
  other m hm := (h'.other m hm).trans (h.other m hm)

theorem there (h : l.Upkept d d') (hthere : l.There d) : l.There d' := hthere.mono fun m => (h.dirs m).mpr

theorem slot (h : l.Upkept d d') {steps m : Location} (hslot : Slot d steps m) : Slot d' steps m :=
  hslot.mono (fun m => (h.dirs m).mpr) fun hdir => hslot.not_dir ((h.dirs _).mp hdir)

theorem outside (h : l.Upkept d d') {m : Location} (hm : ¬ l.location <+: m) : d'.node? m = d.node? m :=
  h.other m fun _ heq => hm (heq ▸ List.prefix_append _ _)

theorem snapshot (h : l.Upkept d d') (id : CycleId) :
    d'.node? (Snapshot.locationOf l.snapshots id) = d.node? (Snapshot.locationOf l.snapshots id) :=
  h.other _ fun name => locationOf_ne_child l id name

/-- A file of the state directory got another content. -/
theorem of_update {s : String} {content : ByteArray} {mode : Nat} (hs : s.toList.getLast? ≠ some 'p')
    (hleaf : d.node? (l.location ++ [s]) ≠ some .dir)
    (hview : d'.node? = update d.node? (l.location ++ [s]) (some (.file content mode))) : l.Upkept d d' where
  dirs := Workspace.dir_iff_of_update hview hleaf nofun
  clean hclean := hclean.update (fun name => (Snapshot.append_temporarySuffix_ne_of_getLast hs name).symm) hview
  other m hm := by rw [hview, Function.update_of_ne (hm s)]

end Upkept

section

variable (h : l.There d) {name : String} (hname : RelPath.Name name) (hlast : name.toList.getLast? ≠ some 'p')
include h hname hlast

theorem There.upkept_appendLine {line : String}
    (hrun : (appendLine (l.root.child name) line).exec d = (.ok (), d')) : l.Upkept d d' := by
  obtain ⟨d₁, mode, hmake, hslot, hview⟩ := appendLine_ok hrun
  rw [h.exec_makeParent hname] at hmake
  obtain rfl := (Prod.mk.inj hmake).2
  rw [resolve_child hname] at hslot hview
  exact .of_update hlast hslot.not_dir hview

theorem There.upkept_openLock (hrun : (openLock (l.root.child name)).exec d = (.ok (), d')) : l.Upkept d d' := by
  obtain ⟨d₁, content, mode, hmake, hslot, hview⟩ := openLock_ok hrun
  rw [h.exec_makeParent hname] at hmake
  obtain rfl := (Prod.mk.inj hmake).2
  rw [resolve_child hname] at hslot hview
  exact .of_update hlast hslot.not_dir hview

theorem There.upkept_atomicWrite {content : ByteArray}
    (hrun : (atomicWrite (l.root.child name) content).exec d = (.ok (), d')) : l.Upkept d d' := by
  obtain ⟨-, hclean, hother⟩ := h.atomicWrite_ok hname
    (fun n => (Snapshot.append_temporarySuffix_ne_of_getLast hlast n).symm) hrun
  obtain ⟨d₁, k, m, mode, hmake, htemporary, hslot, hne, hview⟩ := Ledger.atomicWrite_ok hrun
  rw [h.exec_makeParent hname] at hmake
  obtain rfl := (Prod.mk.inj hmake).2
  refine ⟨fun n => ?_, hclean, hother⟩
  -- the temporary file comes and goes before the file is there
  have hgone := Workspace.dir_iff_of_update (rfl : update d.node? k none = _) htemporary.not_dir nofun
  refine (Workspace.dir_iff_of_update hview ?_ nofun n).trans (hgone n)
  rw [Function.update_of_ne (Ne.symm hne)]
  exact hslot.not_dir

end

end Ledger.Layout

/-! ## Steps -/

namespace Workspace

variable {l : Layout} {w₀ w : Workspace}

/-- At most the ledger was kept up since then. -/
structure Upkept (l : Layout) (w₀ w : Workspace) : Prop where
  disk : l.Upkept w₀.disk w.disk
  around : w.around = w₀.around
  snapshots : w.snapshots = w₀.snapshots
  held : w.held = w₀.held
  placed : w.Placed l

theorem Upkept.refl (h : w.Placed l) : Upkept l w w := ⟨.refl l _, rfl, rfl, rfl, h⟩

theorem yields_openTrust_upkept : Yields (Upkept l w₀) openTrust fun _ => Upkept l w₀ := by
  rintro w ⟨⟩ w' h hrun
  rw [openTrust, exec_bind_ok (exec_get w)] at hrun
  cases hfile : w.trust.file with
  | none =>
    rw [hfile] at hrun
    obtain ⟨-, rfl⟩ := Prod.mk.inj hrun
    exact h
  | some p =>
    rw [hfile] at hrun
    dsimp only at hrun
    rw [exec_update] at hrun
    cases hopen : Trust.Store.open p w.disk with
    | error cause =>
      rw [hopen] at hrun
      cases (Prod.mk.inj hrun).1
    | ok store =>
      rw [hopen] at hrun
      obtain ⟨-, rfl⟩ := Prod.mk.inj hrun
      refine ⟨h.disk, h.around, h.snapshots, h.held, ⟨fun q hq => ?_, h.placed.history, h.placed.attestations,
        h.placed.snapshots⟩⟩
      have hp := Trust.Store.file_of_open hopen
      exact h.placed.trust q (hfile.trans (hp.symm.trans hq))

variable (hthere : l.There w₀.disk)
include hthere

theorem yields_commit_upkept (change : Trust.Table → Trust.Table) :
    Yields (Upkept l w₀) (onTrust (Trust.commit change)) fun _ => Upkept l w₀ := by
  rintro w ⟨⟩ w' h hrun
  rw [exec_onTrust] at hrun
  obtain ⟨hok, rfl⟩ := Prod.mk.inj hrun
  replace hok := ok_of_mapError hok
  rw [Trust.commit, exec_ofFun] at hok ⊢
  cases hfile : w.trust.file with
  | none =>
    exact ⟨h.disk, h.around, h.snapshots, h.held,
      ⟨fun q hq => absurd (hfile.symm.trans hq) (Option.some_ne_none q).symm, h.placed.history, h.placed.attestations, h.placed.snapshots⟩⟩
  | some p =>
    obtain rfl := h.placed.trust p hfile
    rw [hfile] at hok
    rcases hwrite : (atomicWrite l.trust (Stored.page (change w.trust.table))).exec w.disk with ⟨r, d⟩
    simp only [hwrite] at hok ⊢
    subst hok
    have hwritten := (h.disk.there hthere).upkept_atomicWrite (by decide) (by decide) hwrite
    exact ⟨h.disk.trans hwritten, h.around, h.snapshots, h.held,
      ⟨fun q hq => h.placed.trust q (hfile ▸ hq), h.placed.history, h.placed.attestations, h.placed.snapshots⟩⟩

theorem yields_ensure_upkept (recipe : String) :
    Yields (Upkept l w₀) (onTrust (Trust.ensure recipe)) fun _ => Upkept l w₀ := by
  intro w x w' h hrun
  by_cases hknown : Ordered.contains w.trust.table recipe
  · rw [exec_onTrust, Trust.ensure, exec_bind_ok (exec_get _), if_pos hknown] at hrun
    obtain ⟨-, rfl⟩ := Prod.mk.inj hrun
    exact h
  · apply yields_commit_upkept hthere (fun t => Trust.Table.ensure t recipe) w x w' h
    rw [exec_onTrust] at hrun ⊢
    rwa [Trust.ensure, exec_bind_ok (exec_get _), if_neg hknown] at hrun

theorem yields_append_upkept (es : List History.Entry) :
    Yields (Upkept l w₀) (onHistory (History.append es)) fun _ => Upkept l w₀ := by
  rintro w ⟨⟩ w' h hrun
  rw [exec_onHistory] at hrun
  obtain ⟨hok, rfl⟩ := Prod.mk.inj hrun
  replace hok := ok_of_mapError hok
  rw [History.append, exec_bind_ok (exec_get _)] at hok ⊢
  cases hstore : w.history with
  | memory old =>
    refine ⟨h.disk, h.around, h.snapshots, h.held,
      ⟨h.placed.trust, fun q hq => ?_, h.placed.attestations, h.placed.snapshots⟩⟩
    cases hq
  | file p =>
    obtain rfl := h.placed.history p hstore
    rw [hstore] at hok
    have hline (entry : History.Entry) : Yields
        (fun s : History.Session => s.store = .file l.history ∧ l.Upkept w₀.disk s.disk)
        ((Ledger.appendLine l.history (Stored.line entry)).zoom History.Session.disk fun d s => { s with disk := d })
        fun _ s => s.store = .file l.history ∧ l.Upkept w₀.disk s.disk := by
      rintro s ⟨⟩ s' ⟨hs, hkept⟩ hrun
      rw [exec_zoom] at hrun
      obtain ⟨hok, rfl⟩ := Prod.mk.inj hrun
      exact ⟨hs, hkept.trans ((hkept.there hthere).upkept_appendLine (by decide) (by decide) (Prod.ext hok rfl))⟩
    obtain ⟨hs, hkept⟩ := Yields.forM (fun entry (_ : entry ∈ es) => hline entry) ⟨w.disk, .file l.history⟩ ⟨⟩ _
      ⟨rfl, h.disk⟩ (Prod.ext hok rfl)
    refine ⟨hkept, h.around, h.snapshots, h.held, ⟨h.placed.trust, fun q hq => ?_, h.placed.attestations,
      h.placed.snapshots⟩⟩
    exact (History.Store.file.inj (hs.symm.trans hq)).symm

theorem yields_attest_upkept (draft : Attestation.Draft) :
    Yields (Upkept l w₀) (onAttestations (Attestation.record draft)) fun _ => Upkept l w₀ := by
  intro w x w' h hrun
  rw [exec_onAttestations] at hrun
  obtain ⟨hok, rfl⟩ := Prod.mk.inj hrun
  replace hok := ok_of_mapError hok
  have hline (line : String) : Yields (fun s : Attestation.Session => (∀ p, s.store = .file p → p = l.attestations) ∧
      l.Upkept w₀.disk s.disk) (Attestation.appendLine line) fun _ s =>
      (∀ p, s.store = .file p → p = l.attestations) ∧ l.Upkept w₀.disk s.disk := by
    rintro ⟨d, store⟩ ⟨⟩ s' ⟨hs, hkept⟩ hrun
    rw [Attestation.appendLine, exec_bind_ok (exec_get _)] at hrun
    cases store with
    | memory log =>
      obtain ⟨-, rfl⟩ := Prod.mk.inj hrun
      refine ⟨fun p hp => ?_, hkept⟩
      cases hp
    | file p =>
      obtain rfl := hs p rfl
      dsimp only at hrun
      rw [exec_zoom] at hrun
      obtain ⟨hok, rfl⟩ := Prod.mk.inj hrun
      exact ⟨hs, hkept.trans ((hkept.there hthere).upkept_appendLine (by decide) (by decide) (Prod.ext hok rfl))⟩
  have hrecord : Yields (fun s : Attestation.Session => (∀ p, s.store = .file p → p = l.attestations) ∧
      l.Upkept w₀.disk s.disk) (Attestation.record draft) fun _ s =>
      (∀ p, s.store = .file p → p = l.attestations) ∧ l.Upkept w₀.disk s.disk :=
    (keeps_query _).yields.bind fun _ => (hline _).bind fun _ => yields_pure fun _ hs => hs
  obtain ⟨hs, hkept⟩ := hrecord ⟨w.disk, w.attestations⟩ x _ ⟨h.placed.attestations, h.disk⟩ (Prod.ext hok rfl)
  exact ⟨hkept, h.around, h.snapshots, h.held, ⟨h.placed.trust, h.placed.history, hs, h.placed.snapshots⟩⟩

end Workspace

namespace Engine

variable {e : Engine} {l : Layout} {now : Time} {w₀ : Workspace}

theorem Quiet.pause_upkept (h : e.Quiet w₀) (p : Point) :
    Keeps (Workspace.Upkept l w₀) (Workspace.pause p) := by
  intro w hw
  have hedit : w.around.edit w.pauses p w.disk = w.disk := by rw [hw.around, h.edits]
  refine ⟨?_, hw.around, hw.snapshots, hw.held, ⟨hw.placed.trust, hw.placed.history, hw.placed.attestations,
    hw.placed.snapshots⟩⟩
  rw [Workspace.exec_pause, hedit]
  exact hw.disk

theorem Quiet.analyze_upkept (h : e.Quiet w₀) : Keeps (Workspace.Upkept l w₀) e.analyze := by
  intro w hw
  refine ⟨?_, hw.around, hw.snapshots, hw.held, ⟨hw.placed.trust, hw.placed.history, hw.placed.attestations,
    hw.placed.snapshots⟩⟩
  rw [show ((e.analyze).exec w).2.disk = (e.tools.analyze w.analyses w.disk).disk from rfl, h.analyze]
  exact hw.disk

variable (hthere : l.There w₀.disk)
include hthere

/-- A survey that succeeds writes no file but the table of trust. -/
theorem Quiet.yields_survey_upkept (h : e.Quiet w₀) (now : Time) :
    Yields (fun r => Workspace.Upkept l w₀ r.workspace) (e.survey now) fun _ r => Workspace.Upkept l w₀ r.workspace := by
  refine (Run.keeps_onWorkspace (keeps_observe h.pause_upkept h.analyze_upkept now)).yields.bind fun report => ?_
  refine (Run.yields_onWorkspace Workspace.yields_openTrust_upkept).bind fun _ => ?_
  refine (Yields.forM fun id _ => Run.yields_onWorkspace (Workspace.yields_ensure_upkept hthere id)).bind fun _ => ?_
  refine (Run.keeps_enter .decide).yields.bind fun _ => ?_
  exact (Run.keeps_onWorkspace (keeps_decide h.pause_upkept report)).yields.bind fun _ => yields_pure fun _ hr => hr

/-- A cycle that ended well is recorded, and no other file is written. -/
theorem yields_finishLearned_upkept (report : Report) (v : Verification) :
    Yields (fun r => Workspace.Upkept l w₀ r.workspace) (e.finishLearned report v now) fun _ r =>
      Workspace.Upkept l w₀ r.workspace := by
  have hscore (lesson : Lesson) : Yields (Workspace.Upkept l w₀) (lesson.score e.config.learningRate now) fun _ =>
      Workspace.Upkept l w₀ := by
    refine Yields.bind (Q := fun _ => Workspace.Upkept l w₀) ?_ fun _ => yields_pure fun _ hw => hw
    intro w record w' hw hrun
    rw [Workspace.exec_onTrust, Trust.recordOutcome] at hrun
    rcases hcommit : (Trust.commit fun t => t.observe lesson.recipe lesson.outcome e.config.learningRate now).exec
      ⟨w.disk, w.trust⟩ with ⟨cause | ⟨⟩, x⟩
    · rw [exec_bind_error hcommit] at hrun
      cases (Prod.mk.inj hrun).1
    rw [exec_bind_ok hcommit] at hrun
    obtain ⟨-, rfl⟩ := Prod.mk.inj hrun
    refine Workspace.yields_commit_upkept hthere
      (fun t => t.observe lesson.recipe lesson.outcome e.config.learningRate now) w ⟨⟩ _ hw ?_
    rw [Workspace.exec_onTrust, hcommit]
    rfl
  have hlearn (ls : List Lesson) : Yields (fun r => Workspace.Upkept l w₀ r.workspace)
      (e.learn ls report (some v) now) fun _ r => Workspace.Upkept l w₀ r.workspace := by
    refine keeps_get.yields.bind fun r => (Run.yields_onWorkspace ?_).bind fun _ => yields_pure fun _ hr => hr
    exact (Workspace.yields_append_upkept hthere _).bind fun _ => Yields.mapM fun lesson _ => hscore lesson
  have hattest : Yields (fun r => Workspace.Upkept l w₀ r.workspace) (attest v.before v.after v.verdict now) fun _ r =>
      Workspace.Upkept l w₀ r.workspace :=
    keeps_get.yields.bind fun _ => (Run.yields_onWorkspace (Workspace.yields_attest_upkept hthere _)).bind fun _ =>
      yields_pure fun _ hr => hr
  refine (Run.keeps_enter .learn).yields.bind fun _ => keeps_get.yields.bind fun r => (hlearn _).bind fun _ => ?_
  refine hattest.bind fun _ => (Run.keeps_enter .done).yields.bind fun _ => ?_
  exact (keeps_result_of _ _ _ _ _).yields

end Engine
end Mend
