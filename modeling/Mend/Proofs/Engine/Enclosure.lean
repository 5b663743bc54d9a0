import Mend.Proofs.Engine.Turn
import Mend.Proofs.Ledger.StatePlace

/-!
# A cycle stays in its workspace

What every step keeps is kept by a whole cycle (`keeps_drive`). The steps write files of the workspace by their paths
below it, and files in the state directory. A path that was read from a document is one of ordinary names
(`Json.ensures_snapshot`, `Json.ensures_report`), and so leads below the workspace; so that where the state directory is
in the workspace as well, a cycle changes no file outside (`sameOutside_runCycle`), however it ends.
-/

namespace Mend

open Fs Fs.Disk Ledger
open Action

/-! ## Paths from documents -/

namespace Json

variable {α : Type} {read : Json → Option α} {P : α → Prop}

/-- All that is read has a property. -/
def Ensures (read : Json → Option α) (P : α → Prop) : Prop := ∀ j a, read j = some a → P a

theorem Ensures.list (h : Ensures read P) : Ensures (Json.list? read) fun as => ∀ a ∈ as, P a := by
  intro j as hread
  cases j with
  | arr items =>
    replace hread : items.mapM read = some as := hread
    induction items generalizing as with
    | nil =>
      obtain rfl : [] = as := by simpa using hread
      exact fun a ha => nomatch ha
    | cons item items ih =>
      rw [List.mapM_cons, Option.bind_eq_bind, Option.bind_eq_some_iff] at hread
      obtain ⟨a, ha, hrest⟩ := hread
      rw [Option.bind_eq_bind, Option.bind_eq_some_iff] at hrest
      obtain ⟨rest, hrest, has⟩ := hrest
      obtain rfl : a :: rest = as := Option.some.inj has
      intro b hb
      rcases List.mem_cons.mp hb with rfl | hb
      · exact h item b ha
      · exact ih rest hrest b hb
  | _ => cases hread

theorem Ensures.required (h : Ensures read P) {s : Slot} {a : α} (hread : s.required read = some a) : P a := by
  cases s with
  | given j => exact h j a hread
  | _ => cases hread

theorem ensures_path : Ensures Json.path? RelPath.Proper := by
  intro j p hread
  cases j with
  | str s =>
    have hvalue : value? (RelPath.parse s) = some p := hread
    cases hparse : RelPath.parse s with
    | error e =>
      rw [hparse] at hvalue
      cases hvalue
    | ok q =>
      rw [hparse] at hvalue
      obtain rfl : q = p := Option.some.inj hvalue
      exact ⟨s, hparse⟩
  | _ => cases hread

theorem ensures_entry : Ensures Snapshot.Entry.ofJson? fun f => f.path.Proper := by
  intro j f hread
  rw [Snapshot.Entry.ofJson?] at hread
  simp only [Option.bind_eq_bind, Option.bind_eq_some_iff] at hread
  obtain ⟨slots, -, hread⟩ := hread
  split at hread
  · simp only [Option.bind_eq_some_iff] at hread
    obtain ⟨path, hpath, _, -, _, -, _, -, hf⟩ := hread
    obtain rfl := Option.some.inj hf
    exact ensures_path.required hpath
  · cases hread

theorem ensures_snapshot : Ensures Snapshot.ofJson? fun s => ∀ f ∈ s.files, f.path.Proper := by
  intro j s hread
  rw [Snapshot.ofJson?] at hread
  simp only [Option.bind_eq_bind, Option.bind_eq_some_iff] at hread
  obtain ⟨slots, -, hread⟩ := hread
  split at hread
  · simp only [Option.bind_eq_some_iff] at hread
    obtain ⟨_, -, files, hfiles, _, -, _, -, hs⟩ := hread
    obtain rfl := Option.some.inj hs
    exact ensures_entry.list.required hfiles
  · cases hread

theorem ensures_issue : Ensures Issue.ofJson? fun i => i.file.Proper := by
  intro j i hread
  rw [Issue.ofJson?] at hread
  simp only [Option.bind_eq_bind, Option.bind_eq_some_iff] at hread
  obtain ⟨slots, -, hread⟩ := hread
  split at hread
  · simp only [Option.bind_eq_some_iff] at hread
    obtain ⟨_, -, file, hfile, _, -, _, -, _, -, _, -, _, -, _, -, _, -, hi⟩ := hread
    obtain rfl := Option.some.inj hi
    exact ensures_path.required hfile
  · cases hread

theorem ensures_report : Ensures Report.ofJson? fun r => ∀ i ∈ r.issues, i.file.Proper := by
  intro j r hread
  rw [Report.ofJson?] at hread
  simp only [Option.bind_eq_bind, Option.bind_eq_some_iff] at hread
  obtain ⟨slots, -, hread⟩ := hread
  split at hread
  · simp only [Option.bind_eq_some_iff] at hread
    obtain ⟨_, -, _, -, issues, hissues, hr⟩ := hread
    obtain rfl := Option.some.inj hr
    exact ensures_issue.list.required hissues
  · cases hread

end Json

/-! ## Files outside of a directory -/

namespace Fs.Disk

/-- No file differs that is not below the directory at the place. -/
def SameOutside (root : Place) (d d' : Disk) : Prop :=
  ∀ m, ¬ resolve [] root.location <+: m → d'.fileAt m = d.fileAt m

variable {root : Place} {d d' d'' : Disk}

theorem SameOutside.refl (root : Place) (d : Disk) : SameOutside root d d := fun _ _ => rfl

theorem SameOutside.trans (h : SameOutside root d d') (h' : SameOutside root d' d'') : SameOutside root d d'' :=
  fun m hm => (h' m hm).trans (h m hm)

theorem location_temporary_congr {p q : Place} (h : p.location = q.location) :
    (temporary p).location = (temporary q).location := by
  rw [temporary, temporary, Place.suffixed, Place.suffixed, Place.name?, Place.name?, h]
  split <;> simp [Place.child, Place.parent, h]

/-- The file of a path below the directory, and the temporary file beside it, are in the directory. -/
theorem avoids_file {p : RelPath} (hp : p.Proper) :
    Avoids (fun m => ¬ resolve [] root.location <+: m) (root.file p) := by
  obtain ⟨init, name, hsegments⟩ : ∃ init name, p.segments = init ++ [name] :=
    ⟨_, _, (List.dropLast_concat_getLast hp.ne_nil).symm⟩
  let dir : Place := ⟨root.location ++ init, root.shown⟩
  have hdir : resolve [] dir.location = resolve [] root.location ++ init := by
    rw [resolve_append, resolve_names fun s hs => hp.name s (by simp [hsegments, hs])]
  have hfile : (root.file p).location = (dir.child name).location := by
    rw [Place.file, hsegments, Place.child, List.append_assoc]
  -- The two places differ in how they are shown, which does not matter for where they are.
  have hchild : Avoids (fun m => ¬ resolve [] root.location <+: m) (dir.child name) := by
    refine avoids_child (fun s hs => hs ?_) (hp.name name (by simp [hsegments]))
    rw [hdir, List.append_assoc]
    exact List.prefix_append _ _
  refine ⟨?_, ?_⟩
  · rw [hfile]
    exact hchild.file
  · rw [location_temporary_congr hfile]
    exact hchild.beside

end Fs.Disk

/-! ## Snapshots of files in the workspace -/

namespace Snapshot

/-- The snapshots that are kept here have paths of ordinary names. -/
def Store.Proper : Store → Prop
  | .memory t _ => ∀ x ∈ t, ∀ f ∈ x.2.files, f.path.Proper
  | .directory _ => True

/-- So has a snapshot that is loaded, wherever it is kept. -/
theorem Store.Proper.load {x : Session} (h : x.store.Proper) {id : CycleId} {s : Snapshot} (hload : x.load id = .ok s) :
    ∀ f ∈ s.files, f.path.Proper := by
  obtain ⟨d, store⟩ := x
  rw [Session.load] at hload
  cases store with
  | memory t lost =>
    cases lost with
    | true => cases hload
    | false =>
      dsimp only at hload
      split at hload
      · next u hget =>
        obtain rfl := Except.ok.inj hload
        obtain ⟨x, hx, rfl⟩ := Ordered.exists_of_get? hget
        exact h x hx
      · cases hload
  | directory dir =>
    dsimp only at hload
    split at hload
    · cases hload
    · cases hload
    · next content _ =>
      split at hload
      · next u hread =>
        obtain rfl := Except.ok.inj hload
        obtain ⟨j, -, hj⟩ := Option.bind_eq_some_iff.mp hread
        exact Json.ensures_snapshot j _ hj
      · cases hload

theorem keeps_proper_save {s : Snapshot} (hs : ∀ f ∈ s.files, f.path.Proper) :
    Keeps (fun x : Session => x.store.Proper) (save s) := by
  rintro ⟨d, store⟩ h
  rw [save, exec_bind_ok (exec_get _)]
  cases store with
  | memory t lost =>
    dsimp only
    split
    · exact h
    · intro x hx
      rcases Ordered.mem_insert hx with rfl | hx
      · exact hs
      · exact h x hx
  | directory dir =>
    dsimp only
    rw [exec_bind_ok (exec_get _)]
    split
    · exact h
    · exact h

theorem keeps_proper_prune (r : Retention) (id : CycleId) (now : Time) :
    Keeps (fun x : Session => x.store.Proper) (prune r id now) := by
  intro x hx
  obtain ⟨x', hrun, hx'⟩ := exec_prune (R := fun x => x.store.Proper) r now (by
    rintro k - ⟨d, store⟩ h
    cases store with
    | memory t lost => exact fun x hx => h x ((Ordered.erase_sublist t k).subset hx)
    | directory dir =>
      obtain ⟨hstore, -⟩ := exec_remove_directory (x := ⟨d, .directory dir⟩) rfl k
      rw [hstore]
      trivial) hx
  rw [hrun]
  exact hx'

theorem keeps_proper_take (id : CycleId) {cs : List Capture} (hcs : ∀ c ∈ cs, c.path.Proper) (r : Retention)
    (now : Time) : Keeps (fun x : Session => x.store.Proper) (take id cs r now) := by
  refine (keeps_proper_save fun f hf => ?_).bind fun _ => keeps_proper_prune r id now
  obtain ⟨c, hc, rfl⟩ := List.mem_map.mp (List.mem_mergeSort.mp hf)
  exact hcs c hc

section

variable {root : Place} {d : Disk} {store : Store}

theorem Store.Proper.keeps_restoreId (h : store.Proper) (id : CycleId) :
    Keeps (fun x : Session => x.store = store ∧ SameOutside root d x.disk) (restoreId id root) := by
  rintro x ⟨hstore, hdisk⟩
  rw [restoreId, exec_bind, exec_query]
  cases hload : x.load id with
  | error cause => exact ⟨hstore, hdisk⟩
  | ok s =>
    dsimp only
    rw [exec_zoom]
    have hproper : ∀ f ∈ s.files, f.path.Proper := by
      subst hstore
      exact h.load hload
    have hspared : Spares (fun m => ¬ resolve [] root.location <+: m) x.disk ((s.restore root).exec x.disk).2 :=
      keeps_restore (fun f hf => avoids_file (hproper f hf)) x.disk (.refl _ _)
    refine ⟨hstore, ?_⟩
    dsimp only
    exact hdisk.trans hspared.files

theorem Store.Proper.keeps_restoreLatest (h : store.Proper) :
    Keeps (fun x : Session => x.store = store ∧ SameOutside root d x.disk) (restoreLatest root) := by
  refine (keeps_query _).bind fun ids => ?_
  cases ids with
  | nil => exact keeps_throw _
  | cons id rest => exact h.keeps_restoreId id

end

end Snapshot

/-! ## What a whole cycle keeps -/

/-- What is kept under a lock is kept by asking for the lock before that and giving it back after. -/
theorem Workspace.keeps_locking {P : Workspace → Prop} {α : Type} {p : Place} {act : Workspace.Step α}
    (hacquire : Keeps P (Workspace.onLocks (acquire p))) (hrelease : ∀ w held, P w → P { w with held := held })
    (hact : Keeps P act) : Keeps P (Workspace.locking p act) := by
  intro w hw
  rw [Engine.exec_locking]
  have hlocked := hacquire w hw
  rcases hrun : (Workspace.onLocks (acquire p)).exec w with ⟨error | k, locked⟩
  · rwa [hrun] at hlocked
  · rw [hrun] at hlocked
    exact hrelease _ _ (hact locked hlocked)

namespace Engine

variable {e : Engine} {id : CycleId} {now : Time} {P : Workspace → Prop}

/-- Every step of a cycle keeps the property, if the paths that it works on are of ordinary names. -/
structure Invariant (e : Engine) (P : Workspace → Prop) : Prop where
  acquire : Keeps P (Workspace.onLocks (acquire e.layout.lock))
  release : ∀ w held, P w → P { w with held := held }
  pause : ∀ p, Keeps P (Workspace.pause p)
  analyze : Keeps P e.analyze
  build : Keeps P e.build
  openTrust : Keeps P Workspace.openTrust
  ensure : ∀ recipe, Keeps P (Workspace.onTrust (Trust.ensure recipe))
  score : ∀ rate now (l : Lesson), Keeps P (l.score rate now)
  append : ∀ es, Keeps P (Workspace.onHistory (History.append es))
  record : ∀ draft, Keeps P (Workspace.onAttestations (Attestation.record draft))
  take : ∀ id (b : Batch) now, (∀ p ∈ b, p.file.Proper) → Keeps P (Workspace.onSnapshots
    (Snapshot.take id (List.map Prepared.capture b) e.config.retention now))
  write : ∀ p : Prepared, p.file.Proper → Keeps P (Workspace.onFiles (Batch.writeFile e.root p))
  restore : ∀ id, Keeps P (Workspace.onSnapshots (Snapshot.restoreId id e.root))

namespace Invariant

theorem keeps_act (h : e.Invariant P) (hproper : ∀ p, e.Target p → p.Proper) (report : Report) {d : Decision Score}
    (hd : ∀ f ∈ d.selected, e.Target f.issue.file) :
    Keeps (fun r => P r.workspace) (e.act report d.selected now) := by
  intro r hr
  let a : Acting := ⟨report, d, r⟩
  have hbatch : ∀ p ∈ a.batch e, p.file.Proper := by
    intro p hp
    obtain ⟨⟨f, hf, hfile⟩, -⟩ := mem_batch hp
    exact hfile ▸ hproper _ (hd f hf)
  exact kept_act (a := a) h.pause h.analyze h.build (fun id => h.take id _ now hbatch)
    (fun p hp => h.write p (hbatch p hp)) hr (Prod.ext rfl rfl)

theorem keeps_restoreCycle (h : e.Invariant P) : Keeps (fun r => P r.workspace) e.restoreCycle := by
  refine (Run.keeps_onWorkspace (h.pause .restoring)).bind fun _ => keeps_get.bind fun r => ?_
  dsimp only
  split
  · exact keeps_pure _
  · next id _ =>
    have hrestore : Keeps P (Workspace.onSnapshots (Snapshot.restoreId id e.root).outcome) := by
      intro w hw
      have hkept := h.restore id w hw
      rw [Workspace.exec_onSnapshots] at hkept ⊢
      exact hkept
    refine (Run.keeps_onWorkspace hrestore).bind fun report => ?_
    cases report with
    | error cause => exact keeps_pure _
    | ok report => exact keeps_pure _

theorem keeps_rollBack (h : e.Invariant P) (report : Report) (v : Option Verification) (error : Engine.Error)
    (now : Time) : Keeps (fun r => P r.workspace) (e.rollBack report v error now) := by
  refine h.keeps_restoreCycle.bind fun unrestored => keeps_get.bind fun r => ?_
  refine (keeps_learn_of h.append h.score _ _ _ _).bind fun _ => ?_
  refine (keeps_attest_of h.record _ _ _ _).bind fun digest => ?_
  cases unrestored with
  | some cause => exact keeps_throw _
  | none => exact (Run.keeps_enter .rolledBack).bind fun _ => keeps_result_of _ _ _ _ _

theorem keeps_conclude (h : e.Invariant P) (report : Report) (now : Time) (r : Except Engine.Error Verification) :
    Keeps (fun r => P r.workspace) (e.conclude report now r) := by
  unfold conclude
  split
  · exact h.keeps_rollBack _ _ _ _
  · split
    · exact h.keeps_rollBack _ _ _ _
    · exact keeps_finishLearned_of h.append h.score h.record _ _ _

/-- What every step of a cycle keeps, the cycle keeps. -/
theorem keeps_drive (h : e.Invariant P) (hproper : ∀ p, e.Target p → p.Proper) (now : Time) :
    Keeps (fun r => P r.workspace) (e.drive now) := by
  intro r hr
  rw [drive_eq, exec_bind]
  have hsurveyed := keeps_survey h.pause h.analyze h.openTrust h.ensure now r hr
  rcases hsurvey : (e.survey now).exec r with ⟨error | x, r₁⟩
  · rwa [hsurvey] at hsurveyed
  rw [hsurvey] at hsurveyed
  -- Only files of the report are acted on, so that their paths are of ordinary names.
  have htarget := yields_survey_target now r x r₁ trivial hsurvey
  have hrest : Keeps (fun r : Run => P r.workspace) (do
      if x.2.selected.isEmpty then finishIdle x.1 now
      else do
        turn x.2
        let r : Except Engine.Error Verification ← (e.act x.1 x.2.selected now).outcome
        e.conclude x.1 now r) := by
    split
    · exact keeps_finishIdle_of h.record _ _
    · refine Keeps.bind (Keeps.bind (fun r hr => hr) fun _ => Run.keeps_enter .act) fun _ => ?_
      exact (h.keeps_act hproper x.1 htarget).outcome.bind fun r => h.keeps_conclude _ _ _
  exact hrest r₁ hsurveyed

theorem keeps_runCycle (h : e.Invariant P) (hproper : ∀ p, e.Target p → p.Proper) (id : CycleId) (now : Time) :
    Keeps P (e.runCycle id now) := by
  refine Workspace.keeps_locking h.acquire h.release fun w hw => ?_
  rw [exec_zoom]
  exact h.keeps_drive hproper now ⟨{ id := id }, w⟩ hw

end Invariant
end Engine

/-! ## Stores in the workspace -/

/-- What happens in the state directory happens in the directory that it is in. -/
theorem Ledger.Layout.Outside.sameOutside {l : Layout} {root : Place} {d d' : Disk} (h : l.Outside d d')
    (hl : resolve [] root.location <+: l.location) : SameOutside root d d' :=
  fun m hm => h m fun hbelow => hm (hl.trans hbelow)

namespace Workspace

/-- No file outside of the directory differs from those of a disk, and none will: the stores are in their places, the
snapshots that are kept here have paths of ordinary names, and the others keep to the directory. -/
structure Enclosed (root : Place) (l : Layout) (d₀ : Disk) (w : Workspace) : Prop where
  placed : w.Placed l
  proper : w.snapshots.Proper
  edits : ∀ n p d, SameOutside root d (w.around.edit n p d)
  files : SameOutside root d₀ w.disk

variable {root : Place} {l : Layout} {d₀ : Disk} {w w' : Workspace} {α : Type}

namespace Enclosed

/-- A step that leaves the stores where they are. -/
theorem work (h : Enclosed root l d₀ w) (hdisk : SameOutside root w.disk w'.disk) (haround : w'.around = w.around)
    (hplaced : w'.Placed l) (hsnapshots : w'.snapshots = w.snapshots) : Enclosed root l d₀ w' where
  placed := hplaced
  proper := hsnapshots ▸ h.proper
  edits := haround ▸ h.edits
  files := h.files.trans hdisk

/-- A step that leaves the stores as they are. -/
theorem stores (h : Enclosed root l d₀ w) {d : Disk} (hdisk : SameOutside root w.disk d) (held : List Location)
    (pauses clock analyses : Nat) : Enclosed root l d₀
      { w with disk := d, held := held, pauses := pauses, clock := clock, analyses := analyses } :=
  h.work hdisk rfl ⟨h.placed.trust, h.placed.history, h.placed.attestations, h.placed.snapshots⟩ rfl

theorem keeps_pause (p : Point) : Keeps (Enclosed root l d₀) (pause p) := fun w h =>
  h.stores (h.edits w.pauses p w.disk) _ _ _ _

theorem keeps_onFiles {act : DiskAction Engine.Error α} (hact : ∀ d, Keeps (SameOutside root d) act) :
    Keeps (Enclosed root l d₀) (onFiles act) := by
  intro w h
  rw [exec_onFiles]
  exact h.stores (hact w.disk w.disk (.refl _ _)) _ _ _ _

section

variable (hl : resolve [] root.location <+: l.location)
include hl

/-- What stays in the state directory and leaves the snapshots alone. -/
theorem keeps_of_untouched {act : Step α} (hact : ∀ w₀, Keeps (Untouched l w₀) act)
    (hsnapshots : ∀ w, (act.exec w).2.snapshots = w.snapshots) : Keeps (Enclosed root l d₀) act := by
  intro w h
  have hw := hact w w ⟨rfl, h.placed, .refl _ _⟩
  exact h.work (hw.outside.sameOutside hl) hw.around hw.placed (hsnapshots w)

theorem keeps_acquire : Keeps (Enclosed root l d₀) (onLocks (acquire l.lock)) :=
  keeps_of_untouched hl (fun _ => Workspace.keeps_acquire) fun w => by rw [exec_onLocks]

theorem keeps_openTrust : Keeps (Enclosed root l d₀) openTrust := by
  refine keeps_of_untouched hl (fun _ => Workspace.keeps_openTrust) fun w => ?_
  rw [openTrust, exec_bind_ok (exec_get w)]
  cases hfile : w.trust.file with
  | none => rfl
  | some p =>
    dsimp only
    rw [exec_update]
    cases hopen : Trust.Store.open p w.disk with
    | error e => rfl
    | ok store => rfl

theorem keeps_onTrust {act : Action Trust.Session Ledger.Error α} (hact : ∀ d, Keeps (Trust.Confined l d) act) :
    Keeps (Enclosed root l d₀) (onTrust act) :=
  keeps_of_untouched hl (fun _ => Workspace.keeps_onTrust hact) fun w => by rw [exec_onTrust]

theorem keeps_onHistory {act : Action History.Session Ledger.Error α} (hact : ∀ d, Keeps (History.Confined l d) act) :
    Keeps (Enclosed root l d₀) (onHistory act) :=
  keeps_of_untouched hl (fun _ => Workspace.keeps_onHistory hact) fun w => by rw [exec_onHistory]

theorem keeps_onAttestations {act : Action Attestation.Session Ledger.Error α}
    (hact : ∀ d, Keeps (Attestation.Confined l d) act) : Keeps (Enclosed root l d₀) (onAttestations act) :=
  keeps_of_untouched hl (fun _ => Workspace.keeps_onAttestations hact) fun w => by rw [exec_onAttestations]

theorem keeps_take (id : CycleId) {cs : List Snapshot.Capture} (hcs : ∀ c ∈ cs, c.path.Proper)
    (r : Snapshot.Retention) (now : Time) : Keeps (Enclosed root l d₀) (onSnapshots (Snapshot.take id cs r now)) := by
  intro w h
  have hw := Workspace.keeps_onSnapshots (fun _ => Snapshot.keeps_take id cs r now) w
    (⟨rfl, h.placed, .refl _ _⟩ : Untouched l w w)
  refine ⟨hw.placed, ?_, hw.around ▸ h.edits, h.files.trans (hw.outside.sameOutside hl)⟩
  rw [exec_onSnapshots]
  exact Snapshot.keeps_proper_take id hcs r now ⟨w.disk, w.snapshots⟩ h.proper

theorem keeps_locking {act : Step α} (hact : Keeps (Enclosed root l d₀) act) :
    Keeps (Enclosed root l d₀) (locking l.lock act) :=
  Workspace.keeps_locking (keeps_acquire hl) (fun _ _ h => h.stores (.refl _ _) _ _ _ _) hact

end

/-- Restoring snapshots changes files in the directory only. -/
theorem keeps_onSnapshots {act : Action Snapshot.Session Ledger.Error α}
    (hact : ∀ d store, store.Proper → Keeps (fun x => x.store = store ∧ SameOutside root d x.disk) act) :
    Keeps (Enclosed root l d₀) (onSnapshots act) := by
  intro w h
  obtain ⟨hstore, hdisk⟩ := hact w.disk w.snapshots h.proper ⟨w.disk, w.snapshots⟩ ⟨rfl, .refl _ _⟩
  rw [exec_onSnapshots]
  refine h.work hdisk rfl ⟨h.placed.trust, h.placed.history, h.placed.attestations, ?_⟩ hstore
  rw [hstore]
  exact h.placed.snapshots

end Enclosed
end Workspace

/-- The tools keep to the workspace. -/
structure Tools.Inside (t : Tools) (root : Place) : Prop where
  analyze : ∀ n d, SameOutside root d (t.analyze n d).disk
  build : ∀ d, SameOutside root d (t.build d).disk

namespace Engine

/-- The stores are in their places, the analyzer reports paths of ordinary names, and it keeps to the workspace like the
build and all others. -/
structure Housed (e : Engine) (w : Workspace) : Prop where
  target : ∀ p, e.Target p → p.Proper
  tools : e.tools.Inside e.root
  edits : ∀ n p d, SameOutside e.root d (w.around.edit n p d)
  placed : w.Placed e.layout
  snapshots : w.snapshots.Proper

variable {e : Engine} {id : CycleId} {now : Time} {w : Workspace}

/-- Where the state directory is in the workspace and the tools keep to it, every step of a cycle does. -/
theorem invariant_enclosed (hl : resolve [] e.root.location <+: e.layout.location) (ht : e.tools.Inside e.root)
    (d₀ : Disk) : e.Invariant (Workspace.Enclosed e.root e.layout d₀) where
  acquire := Workspace.Enclosed.keeps_acquire hl
  release w held h := h.stores (.refl _ _) _ _ _ _
  pause := Workspace.Enclosed.keeps_pause
  analyze w h := h.stores (ht.analyze w.analyses w.disk) _ _ _ _
  build w h := h.stores (ht.build w.disk) _ _ _ _
  openTrust := Workspace.Enclosed.keeps_openTrust hl
  ensure recipe := Workspace.Enclosed.keeps_onTrust hl fun _ => Trust.keeps_ensure recipe
  score rate now lesson :=
    (Workspace.Enclosed.keeps_onTrust hl fun _ => Trust.keeps_recordOutcome _ _ _ _).bind fun _ => keeps_pure _
  append es := Workspace.Enclosed.keeps_onHistory hl fun _ => History.keeps_append es
  record draft := Workspace.Enclosed.keeps_onAttestations hl fun _ => Attestation.keeps_record draft
  take id b now hb := by
    refine Workspace.Enclosed.keeps_take hl id (fun c hc => ?_) _ now
    obtain ⟨p, hp, rfl⟩ := List.mem_map.mp hc
    exact hb p hp
  write p hp := Workspace.Enclosed.keeps_onFiles fun d d' hd =>
    hd.trans (keeps_writeFile_spares (avoids_file hp) d' (.refl _ _)).files
  restore id := Workspace.Enclosed.keeps_onSnapshots fun _ _ hstore => hstore.keeps_restoreId id

/-- **However a cycle ends, it changes no file outside of its workspace.** -/
theorem sameOutside_runCycle (h : e.Housed w) (hl : ∀ p ∈ e.layout.places, p.Below e.root) :
    SameOutside e.root w.disk ((e.runCycle id now).exec w).2.disk :=
  ((invariant_enclosed (Layout.below_iff.mp hl) h.tools w.disk).keeps_runCycle h.target id now w
    ⟨h.placed, h.snapshots, h.edits, .refl _ _⟩).files

end Engine
end Mend
