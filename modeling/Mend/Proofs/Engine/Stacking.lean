import Mend.Proofs.Engine.Undo
import Mend.Proofs.Text.Lines

/-!
# A cycle on top of others

A cycle that ends well in a workspace that nobody else uses leaves its snapshot on top of those of earlier cycles: what its
files held before and hold after it is what the snapshot captured, no other file changed outside of the state directory,
and the files of an earlier snapshot can still be restored if the store retains it (`Advanced`).
-/

namespace Mend

open Fs Fs.Disk Ledger
open Action
open Function (update)

/-- No step to the state directory is the name of a temporary file, or of the snapshot of the cycle. -/
def Ledger.Layout.Named (l : Layout) (id : CycleId) : Prop :=
  ∀ s ∈ l.root.location, s ≠ id.toText ++ ".json" ∧ ∀ name, s ≠ name ++ temporarySuffix

namespace Workspace

/-- What a cycle that ends well makes of a workspace that nobody uses. -/
structure Advanced (root : Place) (l : Layout) (id : CycleId) (now : Time) (cs : List Snapshot.Capture)
    (w w' : Workspace) : Prop where
  before : ∀ c ∈ cs, ∃ before, c.before = some before ∧ w.disk.fileAt (c.path.below root) = some before.toUTF8
  after : ∀ c ∈ cs, w'.disk.fileAt (c.path.below root) = some c.after.toUTF8
  other : ∀ m, ¬ l.location <+: m → (∀ c ∈ cs, m ≠ c.path.below root) → w'.disk.fileAt m = w.disk.fileAt m
  idle : w'.Idle l
  unlocked : w'.Unlocked l
  stacked : w'.Stacked root l id cs now
  fresh : ∀ k ≠ id, l.Named k → Fresh l k w.snapshots w.disk → Fresh l k w'.snapshots w'.disk
  earlier : ∀ k ≠ id, ∀ cs' now', w.Unlocked l → w.Stacked root l k cs' now' →
    (Snapshot.Session.mk w'.disk w'.snapshots).load k ≠ .error (.snapshotNotFound k) → w'.Stacked root l k cs' now'
  place : w'.snapshots = .directory l.snapshots → w.snapshots = .directory l.snapshots

end Workspace

namespace Engine

variable {e : Engine} {id : CycleId} {now : Time} {w w' : Workspace}

/-- The engine is one of the workspace. -/
def IsOf (e : Engine) (root : Place) (l : Layout) : Prop := e.root = root ∧ e.layout = l

/-- The engine is one of the workspace, its tools change no file, and no issue that its analyzer finds is in the state
directory. -/
structure Serves (e : Engine) (root : Place) (l : Layout) : Prop where
  isOf : e.IsOf root l
  analyze : ∀ n d, (e.tools.analyze n d).disk = d
  build : ∀ d, (e.tools.build d).disk = d
  paths : ∀ p, e.Target p → RelPath.parse p.text = .ok p
  apart : ∀ p, e.Target p → ¬ l.location <+: p.below root

/-- The cycle ends as done, and with a success or a part of it. -/
def EndsWell (e : Engine) (id : CycleId) (now : Time) (w : Workspace) : Prop :=
  ∃ res, ((e.runCycle id now).exec w).1 = .ok res ∧ res.phase = .done ∧
    (res.verdict = .success ∨ res.verdict = .partly)

/-! ## Before it acts -/

theorem acquire_of_onLocks {p : Place} {k : Location} {locked : Workspace}
    (h : (Workspace.onLocks (acquire p)).exec w = (.ok k, locked)) :
    ∃ s, (acquire p).exec ⟨w.disk, w.held⟩ = (.ok k, s) ∧ locked = { w with disk := s.disk, held := s.held } := by
  rw [Workspace.exec_onLocks] at h
  obtain ⟨hok, rfl⟩ := Prod.mk.inj h
  exact ⟨_, Prod.ext (ok_of_mapError hok) rfl, rfl⟩

/-- A cycle that starts to act has the lock, and has changed the ledger at most. -/
structure Begun (e : Engine) (w u : Workspace) : Prop where
  around : u.around = w.around
  snapshots : u.snapshots = w.snapshots
  held : u.held = resolve [] e.layout.lock.location :: w.held
  free : resolve [] e.layout.lock.location ∉ w.held
  lock : Slot u.disk e.layout.lock.location (resolve [] e.layout.lock.location)
  fresh : NoTemporary w.disk → ∀ k, e.Named k → Fresh e.layout k w.snapshots w.disk →
    Fresh e.layout k u.snapshots u.disk
  upkept : e.layout.There w.disk → e.layout.Upkept w.disk u.disk

theorem Quiet.begun (h : e.Quiet w) (hplaced : w.Placed e.layout) {a : Acting} (ha : e.acting? id now w = some a) :
    e.Begun w a.run.workspace := by
  obtain ⟨k, locked, hlock, hsurvey, -, -⟩ := acting_of_some ha
  obtain ⟨s, hacquire, rfl⟩ := acquire_of_onLocks hlock
  obtain ⟨rfl, hfree, hheld⟩ := acquire_ok hacquire
  have hopen := openLock_of_acquire hacquire
  have hthere : e.layout.There s.disk := there_of_openLock hopen
  obtain ⟨d, content, mode, -, hslot, hview⟩ := openLock_ok hopen
  have hquiet : e.Quiet { w with disk := s.disk, held := s.held } := ⟨h.edits, h.analyze, h.build⟩
  have hlocked : Workspace.Placed e.layout { w with disk := s.disk, held := s.held } :=
    ⟨hplaced.trust, hplaced.history, hplaced.attestations, hplaced.snapshots⟩
  have hsurveyed := hquiet.yields_survey_upkept hthere now _ _ _ (.refl hlocked) hsurvey
  refine ⟨hsurveyed.around, hsurveyed.snapshots, hsurveyed.held.trans hheld, hfree, ?_, fun hclean k hnamed hfresh => ?_,
    fun hw => ?_⟩
  · exact hsurveyed.disk.slot (hslot.of_update hview)
  · have hsteady := yields_acquire hnamed w _ _ ⟨fun n p d => by rw [h.edits]; exact .refl e d, hplaced, hfresh, hclean⟩
      hlock
    rw [hsurveyed.snapshots]
    exact hsteady.fresh.congr (hsurveyed.disk.snapshot k)
  · exact (hw.upkept_openLock (by decide) (by decide) hopen).trans hsurveyed.disk

/-! ## When it has acted -/

/-- Nobody can tell an engine of the workspace from one that is alone. -/
theorem Serves.setting (h : e.Serves e.root e.layout) (hidle : w.Idle e.layout) (hnamed : e.Named id)
    (hfresh : Fresh e.layout id w.snapshots w.disk) (hnone : e.failure? id now w = none) : e.Setting id now w where
  paths := h.paths
  named := hnamed
  tools := ⟨fun n d => by rw [h.analyze]; exact .refl e d, fun d => by rw [h.build]; exact .refl e d⟩
  edits n p d := by rw [hidle.edits]; exact .refl e d
  clean := hidle.clean
  placed := hidle.placed
  fresh := hfresh
  readable c hc := by
    rw [hnone] at hc
    cases hc

/-- All files of a batch that was written are files, before and after. -/
theorem firm_of_wrote {l : Layout} {b : Batch} {as : List Applied} {d d' : Disk} (h : Batch.Wrote e.root b as d d')
    (hall : as.map Applied.file = b.map Prepared.file) (hfile : ∀ p ∈ b, (d.fileAt (p.file.below e.root)).isSome) :
    l.Firm d d' := by
  refine Layout.firm_of_dirs fun m => ?_
  by_cases hm : ∃ p ∈ b, m = p.file.below e.root
  · obtain ⟨p, hp, rfl⟩ := hm
    have hleaf {v : Disk} (hv : (v.fileAt (p.file.below e.root)).isSome) : v.node? (p.file.below e.root) ≠ some .dir := by
      intro hdir
      rw [fileAt, hdir] at hv
      cases hv
    have hwritten := h.written p hp (hall ▸ List.mem_map_of_mem hp)
    exact ⟨fun hdir => absurd hdir (hleaf (by rw [hwritten]; rfl)), fun hdir => absurd hdir (hleaf (hfile p hp))⟩
  · rw [h.other m fun p hp _ heq => hm ⟨p, hp, heq⟩]

theorem held_of_act {a : Acting} {res : Except Engine.Error Verification} {r : Run}
    (hrun : (e.act a.report a.decision.selected now).exec a.run = (res, r)) :
    r.workspace.held = a.run.workspace.held :=
  kept_act (P := fun w => w.held = a.run.workspace.held) (fun _ _ hw => hw) (fun _ hw => hw) (fun _ hw => hw)
    (fun _ _ hw => hw) (fun _ _ _ hw => hw) rfl hrun

section

variable {a : Acting} {r : Run}

/-- What acting and verifying make of the snapshots in the store. -/
theorem Acted.taken (h : Acted e id now a r) (hserves : e.Serves e.root e.layout) (hquiet : e.Quiet a.run.workspace)
    (hsteady : e.Steady id a.run.workspace)
    (hascending : ∀ t lost, a.run.workspace.snapshots = .memory t lost → Ordered.Ascending t)
    (hwalk : r.cycle.walk.current = .verify) :
    Snapshot.Taken e.layout id a.run.workspace.snapshots a.run.workspace.disk
      ⟨r.workspace.disk, r.workspace.snapshots⟩ := by
  obtain ⟨-, x, htake, houtside, hstore, hbefore, hwrote⟩ := h.quiet hquiet
  have hapart : ∀ p ∈ a.batch e, ¬ e.layout.location <+: p.file.below e.root := fun p hp =>
    hserves.apart _ (h.sound.target p hp)
  have hfirm : e.layout.Firm x.disk r.workspace.disk := firm_of_wrote hwrote (h.whole hwalk) fun p hp => by
    rw [houtside _ (hapart p hp), hbefore p hp]
    rfl
  rw [hstore]
  refine (Snapshot.taken_of_take hsteady.there hsteady.fresh hascending htake).after hfirm (fun _ => h.armed.clean)
    fun k => hwrote.other _ fun p hp _ heq => ?_
  exact hapart p hp (heq ▸ prefix_locationOf e.layout k)

theorem Acted.captured (h : Acted e id now a r) (hserves : e.Serves e.root e.layout)
    (hwalk : r.cycle.walk.current = .verify) :
    Snapshot.Captured e.root e.layout (List.map Prepared.capture (a.batch e)) where
  proper := by
    intro c hc
    obtain ⟨p, hp, rfl⟩ := List.mem_map.mp hc
    exact ⟨_, hserves.paths _ (h.sound.target p hp)⟩
  nodup := by
    rw [List.map_map]
    exact h.sound.nodup
  named := by
    intro c hc
    obtain ⟨p, hp, rfl⟩ := List.mem_map.mp hc
    exact h.sound.named p hp
  fits := by
    intro c hc
    obtain ⟨p, hp, rfl⟩ := List.mem_map.mp hc
    -- a file that was written had room
    have hwritten : p.file ∈ r.cycle.applied.map Applied.file := h.whole hwalk ▸ List.mem_map_of_mem hp
    obtain ⟨q, hq, hfile⟩ := List.mem_map.mp hwritten
    obtain ⟨p', -, hfile', hfits⟩ := h.fits q hq
    rwa [← hfile', hfile] at hfits
  apart := by
    intro c hc
    obtain ⟨p, hp, rfl⟩ := List.mem_map.mp hc
    exact hserves.apart _ (h.sound.target p hp)

theorem Acted.has (h : Acted e id now a r) (hserves : e.Serves e.root e.layout)
    (hstorable : r.workspace.snapshots = .directory e.layout.snapshots →
      now.Storable ∧ ∀ p ∈ a.batch e, (Text.lines p.after).length < UInt64.size) :
    Snapshot.Has e.layout (Snapshot.capture id (List.map Prepared.capture (a.batch e)) now) r.workspace.snapshots
      r.workspace.disk := by
  refine h.armed.holds.imp_right fun ⟨hstore, hslot, hfile, _⟩ => ⟨hstore, hslot, _, hfile, ?_⟩
  obtain ⟨htime, hlines⟩ := hstorable hstore
  refine Snapshot.ofBytes?_page (Snapshot.forall_mem_files fun c hc => ?_) htime
  obtain ⟨p, hp, rfl⟩ := List.mem_map.mp hc
  exact Snapshot.storable_ofCapture (hserves.paths _ (h.sound.target p hp)) (hlines p hp)

end

/-! ## When it has learned -/

/-- A cycle acted in a workspace that nobody else uses, verified what it did, and has kept the ledger up since then. -/
structure Learned (e : Engine) (id : CycleId) (now : Time) (w : Workspace) (a : Acting) (r : Run) (w' : Workspace) :
    Prop where
  begun : e.Begun w a.run.workspace
  quiet : e.Quiet a.run.workspace
  outside : e.layout.Outside w.disk a.run.workspace.disk
  acted : Acted e id now a r
  verified : r.cycle.walk.current = .verify
  there : e.layout.There r.workspace.disk
  upkept : e.layout.Upkept r.workspace.disk w'.disk
  placed : w'.Placed e.layout
  around : w'.around = w.around
  held : w'.held = w.held
  snapshots : w'.snapshots = r.workspace.snapshots
  taken : Snapshot.Taken e.layout id w.snapshots a.run.workspace.disk ⟨w'.disk, w'.snapshots⟩

theorem Serves.learned (h : e.Serves e.root e.layout) (hidle : w.Idle e.layout) (hnamed : e.Named id)
    (hfresh : Fresh e.layout id w.snapshots w.disk) (hends : e.EndsWell id now w) :
    ∃ a r, e.Learned id now w a r ((e.runCycle id now).exec w).2 := by
  obtain ⟨res, hres, -, hverdict⟩ := hends
  rcases hrun : (e.runCycle id now).exec w with ⟨x, w'⟩
  rw [hrun] at hres
  obtain rfl := hres
  obtain ⟨k, locked, a, v, r, r', hlock, ha, hact, hwalk, -, hpassed, hfinish, rfl⟩ := learned_of_runCycle hrun hverdict
  have hverified : r.cycle.walk.current = .verify := by rw [hwalk.walk]; rfl
  have hnone : e.failure? id now w = none := by
    rw [failure?, ha, Option.bind_some, hact]
    simp only [hpassed, Option.map_none]
  have hsetting := h.setting hidle hnamed hfresh hnone
  have hquiet : e.Quiet w := ⟨hidle.edits, h.analyze, h.build⟩
  have hbegun := hquiet.begun hidle.placed ha
  have hquiet' : e.Quiet a.run.workspace := hquiet.congr hbegun.around
  obtain ⟨hsteady, htarget, hcycle⟩ := hsetting.acting ha
  have hacted : Acted e id now a r := by
    rcases act_cases hsetting.tools hsetting.proper hsteady htarget hcycle hact with ⟨⟨_, herror⟩, -⟩ | hacted
    · cases herror
    · exact hacted
  have htaken := hacted.taken h hquiet' hsteady (hbegun.snapshots ▸ hidle.ascending) hverified
  have hthere : e.layout.There r.workspace.disk := htaken.firm.there hsteady.there
  have hupkept := yields_finishLearned_upkept hthere a.report v _ _ _ (Workspace.Upkept.refl hacted.armed.placed) hfinish
  refine ⟨a, r, hbegun, hquiet', (hquiet.acting hidle.placed ha).outside, hacted, hverified, hthere, hupkept.disk,
    ⟨hupkept.placed.trust, hupkept.placed.history, hupkept.placed.attestations, hupkept.placed.snapshots⟩,
    hupkept.around.trans ((hacted.quiet hquiet').1.trans hbegun.around), ?_, hupkept.snapshots, ?_⟩
  · obtain ⟨s, hacquire, -⟩ := acquire_of_onLocks hlock
    obtain ⟨rfl, -, -⟩ := acquire_ok hacquire
    dsimp only
    rw [hupkept.held, held_of_act hact, hbegun.held, List.erase_cons_head]
  · have hall := htaken.after hupkept.disk.firm hupkept.disk.clean hupkept.disk.snapshot
    rwa [← hupkept.snapshots, hbegun.snapshots] at hall

namespace Learned

variable {a : Acting} {r : Run}

theorem before (h : e.Learned id now w a r w') (hserves : e.Serves e.root e.layout) :
    ∀ p ∈ a.batch e, w.disk.fileAt (p.file.below e.root) = some p.before.toUTF8 := by
  obtain ⟨-, x, -, -, -, hbefore, -⟩ := h.acted.quiet h.quiet
  intro p hp
  rw [← h.outside _ (hserves.apart _ (h.acted.sound.target p hp)), hbefore p hp]

theorem after (h : e.Learned id now w a r w') (hserves : e.Serves e.root e.layout) :
    ∀ p ∈ a.batch e, w'.disk.fileAt (p.file.below e.root) = some p.after.toUTF8 := by
  obtain ⟨-, x, -, -, -, -, hwrote⟩ := h.acted.quiet h.quiet
  intro p hp
  have hwritten : p.file ∈ r.cycle.applied.map Applied.file := h.acted.whole h.verified ▸ List.mem_map_of_mem hp
  rw [fileAt_congr (h.upkept.outside (hserves.apart _ (h.acted.sound.target p hp))), hwrote.written p hp hwritten]

theorem other (h : e.Learned id now w a r w') {m : Location} (hm : ¬ e.layout.location <+: m)
    (hbatch : ∀ p ∈ a.batch e, m ≠ p.file.below e.root) : w'.disk.fileAt m = w.disk.fileAt m := by
  obtain ⟨-, x, -, houtside, -, -, hwrote⟩ := h.acted.quiet h.quiet
  rw [fileAt_congr (h.upkept.outside hm), fileAt_congr (hwrote.other m fun p hp _ => hbatch p hp), houtside m hm,
    h.outside m hm]

theorem idle (h : e.Learned id now w a r w') (hidle : w.Idle e.layout) : w'.Idle e.layout where
  edits n p d := h.around ▸ hidle.edits n p d
  placed := h.placed
  clean := h.upkept.clean h.acted.armed.clean
  ascending := h.taken.ascending

theorem unlocked (h : e.Learned id now w a r w') : w'.Unlocked e.layout where
  there := h.upkept.there h.there
  slot := h.taken.firm.slot h.begun.lock (Workspace.lock_ne_snapshots _)
  free := h.held ▸ h.begun.free

theorem stacked (h : e.Learned id now w a r w') (hserves : e.Serves e.root e.layout)
    (hstorable : w.snapshots = .directory e.layout.snapshots → now.Storable ∧
      ∀ m x, w'.disk.fileAt m = some x → x.size < UInt64.size) :
    w'.Stacked e.root e.layout id ((a.batch e).map Prepared.capture) now where
  captured := h.acted.captured hserves h.verified
  slot c hc := by
    obtain ⟨p, hp, rfl⟩ := List.mem_map.mp hc
    exact h.upkept.slot (h.acted.armed.slot p hp)
  has := by
    have hhas := h.acted.has hserves fun hdir => by
      obtain ⟨htime, hsmall⟩ := hstorable (h.taken.place (h.snapshots.trans hdir))
      exact ⟨htime, fun p hp => (Text.length_lines_le p.after).trans_lt (hsmall _ _ (h.after hserves p hp))⟩
    rw [← h.snapshots] at hhas
    exact hhas.congr h.upkept.firm (h.upkept.snapshot id)

/-- The store has the snapshot of an earlier cycle as it was, or none. -/
theorem earlier (h : e.Learned id now w a r w') {k : CycleId} (hk : k ≠ id) {cs : List Snapshot.Capture} {past : Time}
    (hunlocked : w.Unlocked e.layout) (hstacked : w.Stacked e.root e.layout k cs past)
    (hfound : (Snapshot.Session.mk w'.disk w'.snapshots).load k ≠ .error (.snapshotNotFound k)) :
    w'.Stacked e.root e.layout k cs past := by
  have hupkept := h.begun.upkept hunlocked.there
  have hearlier : Snapshot.Has e.layout (Snapshot.capture k cs past) w.snapshots a.run.workspace.disk :=
    hstacked.has.congr hupkept.firm (hupkept.snapshot k)
  refine hstacked.firm (hupkept.firm.trans h.taken.firm) ((h.taken.has _ hk hearlier).resolve_right fun hgone => ?_)
  refine hfound (Snapshot.load_of_fresh hgone fun hdir => ?_)
  exact h.taken.firm.slot (hearlier.slot (h.taken.place hdir)) (Layout.locationOf_ne_child _ _ _)

theorem advanced (h : e.Learned id now w a r w') (hserves : e.Serves e.root e.layout) (hidle : w.Idle e.layout)
    (hstorable : w.snapshots = .directory e.layout.snapshots → now.Storable ∧
      ∀ m x, w'.disk.fileAt m = some x → x.size < UInt64.size) :
    Workspace.Advanced e.root e.layout id now ((a.batch e).map Prepared.capture) w w' where
  before c hc := by
    obtain ⟨p, hp, rfl⟩ := List.mem_map.mp hc
    exact ⟨p.before, rfl, h.before hserves p hp⟩
  after c hc := by
    obtain ⟨p, hp, rfl⟩ := List.mem_map.mp hc
    exact h.after hserves p hp
  other m hm hcs := h.other hm fun p hp => hcs _ (List.mem_map_of_mem hp)
  idle := h.idle hidle
  unlocked := h.unlocked
  stacked := h.stacked hserves hstorable
  fresh k hk hnamed hfresh := by
    have hbegun := h.begun.fresh hidle.clean k hnamed hfresh
    rw [h.begun.snapshots] at hbegun
    exact h.taken.fresh k hk hbegun
  earlier k hk _ _ := h.earlier hk
  place := h.taken.place

end Learned

/-- **A cycle that ends well stacks its snapshot** on those of the earlier cycles. -/
theorem Serves.advanced {root : Place} {l : Layout} (hserves : e.Serves root l) (hidle : w.Idle l) (hnamed : l.Named id)
    (hfresh : Fresh l id w.snapshots w.disk) (hends : e.EndsWell id now w)
    (hstorable : w.snapshots = .directory l.snapshots → now.Storable ∧
      ∀ m x, ((e.runCycle id now).exec w).2.disk.fileAt m = some x → x.size < UInt64.size) :
    ∃ cs, Workspace.Advanced root l id now cs w ((e.runCycle id now).exec w).2 := by
  obtain ⟨rfl, rfl⟩ := hserves.isOf
  obtain ⟨a, r, hlearned⟩ := hserves.learned hidle hnamed hfresh hends
  exact ⟨_, hlearned.advanced hserves hidle hstorable⟩

end Engine
end Mend
