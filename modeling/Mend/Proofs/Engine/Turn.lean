import Mend.Proofs.Engine.Accounting
import Mend.Proofs.Engine.Sharing

/-!
# A cycle among the processes

A cycle takes the lock at most once, and all that it does to trust it does while it holds the lock: it reads the table
after it was given the lock, and writes no table that it has read before (`takesTurn_runCycle`).
-/

namespace Mend

open Fs Fs.Disk Ledger
open Action
open Function (update)
open Trust (Site Holding Step Steps Update)

namespace Trust

variable {ι : Type} [DecidableEq ι] {l : Layout} {i : ι} {s : Site ι} {k : Location} {opened : Prop} {w w' : Workspace}

/-- A process that has not begun goes through a section with the updates, or through none, and leaves the locks. -/
def TakesTurn (l : Layout) (i : ι) (s : Site ι) (us : Option (List Update)) (x : Locks) : Prop :=
  ∃ s', Steps l s s' ∧ s'.locks = x ∧ s'.holding = s.holding ∧ s'.done = s.done ++ (us.map fun us => (i, us)).toList

/-- A process is in its section, and has the table of its store if it was opened. -/
structure Underway (l : Layout) (i : ι) (s : Site ι) (k : Location) (opened : Prop) (w : Workspace) : Prop where
  placed : w.Placed l
  file : w.trust.file = some l.trust
  edits : ∀ n p d, l.Passes d (w.around.edit n p d)
  path : ∃ s' g, Steps l s s' ∧ s'.locks = ⟨w.disk, w.held⟩ ∧ s'.holding = update s.holding i (some g) ∧
    s'.done = s.done ∧ g.lock = k ∧ (opened → g.store = some w.trust)

/-- A process that was given the lock is in its section. -/
theorem underway_of_acquire (hlocks : s.locks = ⟨w.disk, w.held⟩) (hi : s.holding i = none) (hplaced : w.Placed l)
    (hfile : w.trust.file = some l.trust) (hedits : ∀ n p d, l.Passes d (w.around.edit n p d)) {x : Locks}
    (hacquire : (acquire l.lock).exec ⟨w.disk, w.held⟩ = (.ok k, x)) :
    Underway l i s k False { w with disk := x.disk, held := x.held } where
  placed := ⟨hplaced.trust, hplaced.history, hplaced.attestations, hplaced.snapshots⟩
  file := hfile
  edits := hedits
  path := ⟨_, { lock := k }, .single (.take hi (hlocks ▸ hacquire)), rfl, rfl, rfl, rfl, False.elim⟩

/-- What does not touch the file of trust. -/
theorem Underway.work (h : Underway l i s k opened w) (hdisk : l.Passes w.disk w'.disk) (htrust : w'.trust = w.trust)
    (hheld : w'.held = w.held) (haround : w'.around = w.around) (hplaced : w'.Placed l) :
    Underway l i s k opened w' where
  placed := hplaced
  file := htrust ▸ h.file
  edits := haround ▸ h.edits
  path := by
    obtain ⟨s', g, hsteps, hlocks, hholding, hdone, hk, hstore⟩ := h.path
    have hpasses : l.Passes s'.locks.disk w'.disk := by rwa [hlocks]
    exact ⟨_, g, hsteps.tail (.work hpasses), by rw [hlocks, hheld], hholding, hdone, hk, by rwa [htrust]⟩

theorem Underway.disk (h : Underway l i s k opened w) {d : Disk} (hd : l.Passes w.disk d) :
    Underway l i s k opened { w with disk := d } :=
  h.work hd rfl rfl rfl ⟨h.placed.trust, h.placed.history, h.placed.attestations, h.placed.snapshots⟩

/-- The table is read in the section. -/
theorem Underway.openTrust (h : Underway l i s k False w) {r : Except Engine.Error Unit}
    (hrun : Workspace.openTrust.exec w = (r, w')) :
    r = .ok () ∧ Underway l i s k True w' ∨ (∃ cause, r = .error cause) ∧ Underway l i s k False w' := by
  rw [Workspace.openTrust, exec_bind_ok (exec_get w), h.file] at hrun
  dsimp only at hrun
  rw [exec_update] at hrun
  cases hopen : Store.open l.trust w.disk with
  | error cause =>
    rw [hopen] at hrun
    obtain ⟨rfl, rfl⟩ := Prod.mk.inj hrun
    exact .inr ⟨⟨_, rfl⟩, h⟩
  | ok store =>
    rw [hopen] at hrun
    obtain ⟨rfl, rfl⟩ := Prod.mk.inj hrun
    obtain ⟨s', g, hsteps, hlocks, hholding, hdone, hk, -⟩ := h.path
    have hfile := Store.file_of_open hopen
    have hhere : s'.holding i = some g := by rw [hholding, Function.update_self]
    refine .inl ⟨rfl, ⟨?_, h.placed.history, h.placed.attestations, h.placed.snapshots⟩, hfile, h.edits, _,
      { g with store := some store, pending := [] }, hsteps.tail (.read hhere (by rw [hlocks]; exact hopen)), hlocks, ?_, hdone, hk, fun _ => rfl⟩
    · rintro p hp
      exact (Option.some.inj (hp.symm.trans hfile))
    · dsimp only
      rw [hholding, Function.update_idem]

/-- An update is written through in the section, or fails there. -/
theorem Underway.commit (h : Underway l i s k True w) {u : Update} {r : Except Ledger.Error Unit} {x : Session}
    (hrun : (commit fun t => u.apply t).exec ⟨w.disk, w.trust⟩ = (r, x)) :
    Underway l i s k True { w with disk := x.disk, trust := x.store } := by
  obtain ⟨s', g, hsteps, hlocks, hholding, hdone, hk, hstore⟩ := h.path
  obtain ⟨hstore', -, -, -⟩ := exec_commit h.file hrun
  have hhere : s'.holding i = some g := by rw [hholding, Function.update_self]
  have hwrite : (Trust.commit fun t => u.apply t).exec ⟨s'.locks.disk, w.trust⟩ = (r, x) := by rwa [hlocks]
  refine ⟨⟨?_, h.placed.history, h.placed.attestations, h.placed.snapshots⟩, by rw [hstore'], h.edits, ?_⟩
  · intro p hp
    rw [hstore'] at hp
    exact (Option.some.inj hp).symm
  cases r with
  | ok =>
    refine ⟨_, { g with store := some x.store, made := g.made ++ (g.pending ++ [u]), pending := [] },
      hsteps.tail (.write hhere (hstore trivial) hwrite), ?_, ?_, hdone, hk, fun _ => rfl⟩
    · dsimp only
      rw [hlocks]
    · dsimp only
      rw [hholding, Function.update_idem]
  | error cause =>
    refine ⟨_, { g with store := some x.store, pending := g.pending ++ [u] },
      hsteps.tail (.fail hhere (hstore trivial) hwrite), ?_, ?_, hdone, hk, fun _ => rfl⟩
    · dsimp only
      rw [hlocks]
    · dsimp only
      rw [hholding, Function.update_idem]

theorem Underway.weaken (h : Underway l i s k True w) : Underway l i s k False w := by
  obtain ⟨hplaced, hfile, hedits, s', g, hsteps, hlocks, hholding, hdone, hk, -⟩ := h
  exact ⟨hplaced, hfile, hedits, s', g, hsteps, hlocks, hholding, hdone, hk, False.elim⟩

/-- A section ends when the lock is given back. -/
theorem Underway.leave (h : Underway l i s k opened w) (hi : s.holding i = none) :
    ∃ us, TakesTurn l i s (some us) ⟨w.disk, w.held.erase k⟩ := by
  obtain ⟨s', g, hsteps, hlocks, hholding, hdone, rfl, -⟩ := h.path
  have hhere : s'.holding i = some g := by rw [hholding, Function.update_self]
  refine ⟨g.made, _, hsteps.tail (.leave hhere), ?_, ?_, ?_⟩
  · rw [hlocks]
    rfl
  · rw [hholding, Function.update_idem, ← hi, Function.update_eq_self]
  · rw [hdone]
    rfl

/-- A process that is refused the lock does nothing to trust. -/
theorem takesTurn_refused (hlocks : s.locks = ⟨w.disk, w.held⟩) {cause : Ledger.Error} {x : Locks}
    (hacquire : (acquire l.lock).exec ⟨w.disk, w.held⟩ = (.error cause, x)) : TakesTurn l i s none x := by
  have hpasses := passes_acquire (l := l) ⟨w.disk, w.held⟩
  rw [hacquire] at hpasses
  refine ⟨{ s with locks := ⟨x.disk, s.locks.held⟩ }, .single (.work (by rw [hlocks]; exact hpasses)), ?_, rfl, ?_⟩
  · rw [hlocks, ← acquire_error hacquire]
  · exact (List.append_nil _).symm

/-- Whatever is done in the locked workspace that keeps the process in its section is a turn. -/
theorem takesTurn_locking {α : Type} {act : Workspace.Step α} (hlocks : s.locks = ⟨w.disk, w.held⟩)
    (hi : s.holding i = none) (hplaced : w.Placed l) (hfile : w.trust.file = some l.trust)
    (hedits : ∀ n p d, l.Passes d (w.around.edit n p d))
    (hact : ∀ k locked, (Workspace.onLocks (acquire l.lock)).exec w = (.ok k, locked) →
      Underway l i s k False locked → Underway l i s k False (act.exec locked).2) :
    ∃ us, TakesTurn l i s us
      ⟨((Workspace.locking l.lock act).exec w).2.disk, ((Workspace.locking l.lock act).exec w).2.held⟩ := by
  rw [Engine.exec_locking]
  rcases hacquire : (acquire l.lock).exec ⟨w.disk, w.held⟩ with ⟨cause | k, x⟩
  · refine ⟨none, ?_⟩
    rw [Workspace.exec_onLocks, hacquire]
    exact takesTurn_refused hlocks hacquire
  · have hlock : (Workspace.onLocks (acquire l.lock)).exec w = (.ok k, { w with disk := x.disk, held := x.held }) := by
      rw [Workspace.exec_onLocks, hacquire]
      rfl
    obtain ⟨us, hturn⟩ := (hact k _ hlock (underway_of_acquire hlocks hi hplaced hfile hedits hacquire)).leave hi
    rw [hlock]
    exact ⟨some us, hturn⟩

/-! ## Steps in a section -/

theorem Underway.keeps_pause (p : Point) : Keeps (Underway l i s k opened) (Workspace.pause p) := fun w hw =>
  hw.work (hw.edits w.pauses p w.disk) rfl rfl rfl
    ⟨hw.placed.trust, hw.placed.history, hw.placed.attestations, hw.placed.snapshots⟩

theorem Underway.keeps_writeFile {root : Place} {p : Prepared} (h : ¬ l.OnPage (resolve [] (root.file p.file).location)) :
    Keeps (Underway l i s k opened) (Workspace.onFiles (Batch.writeFile root p)) := by
  intro w hw
  rw [Workspace.exec_onFiles]
  exact hw.disk (Layout.passes_of_spares
    (Engine.keeps_writeFile_spares ((Layout.lasting_onPage l).avoids h) w.disk (.refl _ _)))

theorem Underway.keeps_take (id : CycleId) (cs : List Snapshot.Capture) (r : Snapshot.Retention) (now : Time) :
    Keeps (Underway l i s k opened) (Workspace.onSnapshots (Snapshot.take id cs r now)) := by
  intro w hw
  have hapart (name : String) : ¬ l.OnPage (resolve [] l.snapshots.location ++ [name]) := by
    rw [Layout.snapshots, resolve_child (by decide)]
    intro heq
    simpa [Layout.location] using congrArg List.length heq
  obtain ⟨hsnapshots, hspared⟩ := Snapshot.keeps_take_spares hapart id cs r now
    ⟨w.disk, w.snapshots⟩ ⟨hw.placed.snapshots, .refl _ w.disk⟩
  rw [Workspace.exec_onSnapshots]
  exact hw.work (Layout.passes_of_spares hspared) rfl rfl rfl
    ⟨hw.placed.trust, hw.placed.history, hw.placed.attestations, hsnapshots⟩

theorem Underway.keeps_append (es : List History.Entry) :
    Keeps (Underway l i s k opened) (Workspace.onHistory (History.append es)) := by
  intro w hw
  have hline (line : String) : Keeps (Spares l.OnPage w.disk) (appendLine l.history line) :=
    keeps_appendLine (Layout.not_onPage_child (by decide) (by decide)) line
  obtain ⟨hhistory, hspared⟩ := History.keeps_append_of hline es ⟨w.disk, w.history⟩ ⟨hw.placed.history, .refl _ _⟩
  rw [Workspace.exec_onHistory]
  exact hw.work (Layout.passes_of_spares hspared) rfl rfl rfl
    ⟨hw.placed.trust, hhistory, hw.placed.attestations, hw.placed.snapshots⟩

theorem Underway.keeps_record (draft : Attestation.Draft) :
    Keeps (Underway l i s k opened) (Workspace.onAttestations (Attestation.record draft)) := by
  intro w hw
  have hline (line : String) : Keeps (Spares l.OnPage w.disk) (appendLine l.attestations line) :=
    keeps_appendLine (Layout.not_onPage_child (by decide) (by decide)) line
  obtain ⟨hlog, hspared⟩ := Attestation.keeps_record_of hline draft ⟨w.disk, w.attestations⟩
    ⟨hw.placed.attestations, .refl _ _⟩
  rw [Workspace.exec_onAttestations]
  exact hw.work (Layout.passes_of_spares hspared) rfl rfl rfl
    ⟨hw.placed.trust, hw.placed.history, hlog, hw.placed.snapshots⟩

/-- An update is made in the section. -/
theorem Underway.keeps_write (u : Update) : Keeps (Underway l i s k True) (Workspace.onTrust u.write) := by
  intro w hw
  rw [Workspace.exec_onTrust]
  rcases hwrite : u.write.exec ⟨w.disk, w.trust⟩ with ⟨r, x⟩
  rcases exec_write hwrite with ⟨-, rfl, -⟩ | hcommit
  · exact hw
  · exact hw.commit hcommit

theorem Underway.keeps_score (rate : Float) (now : Time) (lesson : Lesson) :
    Keeps (Underway l i s k True) (lesson.score rate now) := by
  refine Keeps.bind (fun w hw => ?_) fun _ => keeps_pure _
  have hkept := Underway.keeps_write (.observe lesson.recipe lesson.outcome rate now) w hw
  rw [Workspace.exec_onTrust] at hkept ⊢
  have hstate : ((Update.observe lesson.recipe lesson.outcome rate now).write.exec ⟨w.disk, w.trust⟩).2 =
      ((recordOutcome lesson.recipe lesson.outcome rate now).exec ⟨w.disk, w.trust⟩).2 := by
    rw [Update.write, exec_bind]
    split
    · next hrun => rw [hrun]; rfl
    · next hrun => rw [hrun]
  rwa [hstate] at hkept

end Trust

namespace Engine

open Trust (TakesTurn Underway)

variable {ι : Type} [DecidableEq ι] {e : Engine} {id : CycleId} {now : Time} {i : ι} {s : Site ι} {k : Location}
  {opened : Prop} {w : Workspace}

/-! ## The parts of a cycle -/

theorem keeps_analyze_underway (h : ∀ n d, e.layout.Passes d (e.tools.analyze n d).disk) :
    Keeps (Underway e.layout i s k opened) e.analyze := fun w hw =>
  hw.work (h w.analyses w.disk) rfl rfl rfl
    ⟨hw.placed.trust, hw.placed.history, hw.placed.attestations, hw.placed.snapshots⟩

theorem keeps_build_underway (h : ∀ d, e.layout.Passes d (e.tools.build d).disk) :
    Keeps (Underway e.layout i s k opened) e.build := fun w hw =>
  hw.work (h w.disk) rfl rfl rfl ⟨hw.placed.trust, hw.placed.history, hw.placed.attestations, hw.placed.snapshots⟩

variable {P : Workspace → Prop}

theorem keeps_attest_of (h : ∀ draft, Keeps P (Workspace.onAttestations (Attestation.record draft)))
    (before after : Count) (verdict : Verdict) (now : Time) :
    Keeps (fun r => P r.workspace) (attest before after verdict now) :=
  keeps_get.bind fun _ => (Run.keeps_onWorkspace (h _)).bind fun _ => keeps_pure _

theorem keeps_learn_of (hhistory : ∀ es, Keeps P (Workspace.onHistory (History.append es)))
    (hscore : ∀ rate now (l : Lesson), Keeps P (l.score rate now)) (lessons : List Lesson) (report : Report)
    (v : Option Verification) (now : Time) : Keeps (fun r => P r.workspace) (e.learn lessons report v now) := by
  refine keeps_get.bind fun r => (Run.keeps_onWorkspace ?_).bind fun _ => keeps_pure _
  exact (hhistory _).bind fun _ => Keeps.mapM fun l _ => hscore _ _ l

theorem keeps_result_of (verdict : Verdict) (before after : Count) (error : Option Engine.Error) (digest : Digest) :
    Keeps (fun r => P r.workspace) (result verdict before after error digest) :=
  keeps_get.bind fun _ => keeps_pure _

theorem keeps_finishIdle_of (hrecord : ∀ draft, Keeps P (Workspace.onAttestations (Attestation.record draft)))
    (report : Report) (now : Time) : Keeps (fun r => P r.workspace) (finishIdle report now) :=
  (Run.keeps_enter .done).bind fun _ => (keeps_attest_of hrecord _ _ _ _).bind fun _ => keeps_result_of _ _ _ _ _

theorem keeps_finishLearned_of (hhistory : ∀ es, Keeps P (Workspace.onHistory (History.append es)))
    (hscore : ∀ rate now (l : Lesson), Keeps P (l.score rate now))
    (hrecord : ∀ draft, Keeps P (Workspace.onAttestations (Attestation.record draft))) (report : Report)
    (v : Verification) (now : Time) : Keeps (fun r => P r.workspace) (e.finishLearned report v now) := by
  refine (Run.keeps_enter .learn).bind fun _ => keeps_get.bind fun r => ?_
  refine (keeps_learn_of hhistory hscore _ _ _ _).bind fun _ => (keeps_attest_of hrecord _ _ _ _).bind fun _ => ?_
  exact (Run.keeps_enter .done).bind fun _ => keeps_result_of _ _ _ _ _

/-- A survey reads the table in the section, after the lock was taken. -/
theorem underway_survey (hanalyze : ∀ n d, e.layout.Passes d (e.tools.analyze n d).disk) (now : Time) {r : Run}
    (h : Underway e.layout i s k False r.workspace) {x : Except Engine.Error (Report × Decision Score)} {r' : Run}
    (hrun : (e.survey now).exec r = (x, r')) :
    (∃ a, x = .ok a) ∧ Underway e.layout i s k True r'.workspace ∨
      (∃ cause, x = .error cause) ∧ Underway e.layout i s k False r'.workspace := by
  rw [survey, exec_bind] at hrun
  have hobserved := Run.keeps_onWorkspace (keeps_observe Underway.keeps_pause (keeps_analyze_underway hanalyze) now) r h
  rcases hobserve : (Run.onWorkspace (e.observe now)).exec r with ⟨cause | report, r₁⟩
  · rw [hobserve] at hrun hobserved
    obtain ⟨rfl, rfl⟩ := Prod.mk.inj hrun
    exact .inr ⟨⟨_, rfl⟩, hobserved⟩
  rw [hobserve] at hrun hobserved
  dsimp only at hrun
  rw [exec_bind, Run.exec_onWorkspace] at hrun
  rcases hopen : Workspace.openTrust.exec r₁.workspace with ⟨cause | ⟨⟩, v⟩
  · rw [hopen] at hrun
    obtain ⟨rfl, rfl⟩ := Prod.mk.inj hrun
    rcases hobserved.openTrust hopen with ⟨hok, -⟩ | ⟨-, hv⟩
    · cases hok
    · exact .inr ⟨⟨_, rfl⟩, hv⟩
  rw [hopen] at hrun
  rcases hobserved.openTrust hopen with ⟨-, hv⟩ | ⟨⟨cause, herror⟩, -⟩
  swap
  · cases herror
  have hrest : Keeps (fun r : Run => Underway e.layout i s k True r.workspace) (do
      (Ordered.keys e.registry).forM fun id => Run.onWorkspace (Workspace.onTrust (Trust.ensure id))
      Run.enter .decide
      let decision ← Run.onWorkspace (e.decide report)
      return (report, decision)) := by
    refine (Keeps.forM fun recipe _ => Run.keeps_onWorkspace (Underway.keeps_write (.ensure recipe))).bind fun _ => ?_
    refine (Run.keeps_enter .decide).bind fun _ => ?_
    exact (Run.keeps_onWorkspace (keeps_decide Underway.keeps_pause report)).bind fun _ => keeps_pure _
  have hkept := hrest ⟨r₁.cycle, v⟩ hv
  dsimp only at hrun
  rw [hrun] at hkept
  cases x with
  | ok a => exact .inl ⟨⟨a, rfl⟩, hkept⟩
  | error cause => exact .inr ⟨⟨cause, rfl⟩, hkept.weaken⟩

/-- Nobody touches the file of trust who touches none of the books. -/
theorem passes_of_leaves (hfile : w.trust.file = some e.layout.trust) {d d' : Disk} (h : e.Leaves w.books d d') :
    e.layout.Passes d d' where
  page := by rw [Layout.page, Layout.page, h.files e.layout.trust (.inl hfile)]
  there := h.there ⟨_, .inl hfile⟩

theorem not_onPage_of_not_covers (hfile : w.trust.file = some e.layout.trust) {m : Location} (h : ¬ w.books.Covers m) :
    ¬ e.layout.OnPage m := by
  intro hm
  refine h ⟨e.layout.trust, .inl hfile, ?_⟩
  rw [Layout.onPage_trust]
  exact hm

/-- A cycle that failed stays in its section until it is rolled back. -/
theorem underway_rollBack (h : e.Undisturbed id now w) (hfile : w.trust.file = some e.layout.trust) {c : Failure}
    (hc : c ∈ e.failure? id now w) (hrun : Underway e.layout i s k True c.run.workspace) :
    Underway e.layout i s k True
      ((e.rollBack c.acting.report c.verification c.error now).exec c.run).2.workspace := by
  have hrestored : Underway e.layout i s k True (c.restored e).workspace := by
    obtain ⟨d, hspared, hrestored⟩ := spares_restored fun id hid snapshot hload f hf =>
      (Layout.lasting_onPage e.layout).avoids
        (not_onPage_of_not_covers hfile (h.snapshot c hc id hid snapshot hload f hf))
    rw [hrestored]
    exact (Underway.keeps_pause .restoring _ hrun).disk (Layout.passes_of_spares hspared)
  obtain ⟨told, d, htold, -⟩ := restoreCycle_cases e c
  have hback : e.restoreCycle.exec c.run = (.ok told, c.restored e) := by rw [Failure.restored, htold]
  rw [rollBack_eq, exec_bind_ok hback]
  refine Keeps.bind (P := fun r : Run => Underway e.layout i s k True r.workspace) ?_ (fun digest => ?_) _ hrestored
  · refine keeps_get.bind fun r => ?_
    exact (keeps_learn_of Underway.keeps_append Underway.keeps_score _ _ _ _).bind fun _ =>
      keeps_attest_of Underway.keeps_record _ _ _ _
  · cases told with
    | some cause => exact keeps_throw _
    | none => exact (Run.keeps_enter .rolledBack).bind fun _ => keeps_result_of _ _ _ _ _

/-- **A cycle is one of the processes.** It takes the lock at most once. While it has the lock it reads the table before it
writes it, and it touches the file of trust at no other time. -/
theorem takesTurn_runCycle (h : e.Undisturbed id now w) (hfile : w.trust.file = some e.layout.trust)
    (hlocks : s.locks = ⟨w.disk, w.held⟩) (hi : s.holding i = none) :
    ∃ us, TakesTurn e.layout i s us
      ⟨((e.runCycle id now).exec w).2.disk, ((e.runCycle id now).exec w).2.held⟩ := by
  have hanalyze (n : Nat) (d : Disk) := passes_of_leaves hfile (h.tools.analyze n d)
  have hbuild (d : Disk) := passes_of_leaves hfile (h.tools.build d)
  rw [runCycle]
  refine Trust.takesTurn_locking hlocks hi h.placed hfile (fun n p d => passes_of_leaves hfile (h.edits n p d)) ?_
  intro k locked hlock hlocked
  rw [exec_zoom]
  rcases hdrive : (e.drive now).exec ⟨{ id := id }, locked⟩ with ⟨res, r'⟩
  rcases drive_cases hlock hdrive with
    ⟨-, ⟨error, hsurvey, -⟩ | ⟨x, r, hsurvey, hidle⟩⟩ | ⟨a, ha, r, hact, hconclude⟩
  · rcases underway_survey hanalyze now hlocked hsurvey with ⟨⟨x, hok⟩, -⟩ | ⟨-, hr'⟩
    · cases hok
    · exact hr'
  · rcases underway_survey hanalyze now hlocked hsurvey with ⟨-, hr⟩ | ⟨⟨cause, herror⟩, -⟩
    · have hkept := keeps_finishIdle_of Underway.keeps_record x.1 now r hr
      rw [hidle] at hkept
      exact hkept.weaken
    · cases herror
  obtain ⟨k', locked', hlock', hsurvey, -, -⟩ := acting_of_some ha
  obtain ⟨-, rfl⟩ := Prod.mk.inj (hlock.symm.trans hlock')
  have hacting : Underway e.layout i s k True a.run.workspace := by
    rcases underway_survey hanalyze now hlocked hsurvey with ⟨-, hr⟩ | ⟨⟨cause, herror⟩, -⟩
    · exact hr
    · cases herror
  have hacted : Underway e.layout i s k True r.2.workspace :=
    kept_act Underway.keeps_pause (keeps_analyze_underway hanalyze) (keeps_build_underway hbuild)
      (fun id => Underway.keeps_take id _ e.config.retention now)
      (fun p hp => Underway.keeps_writeFile (not_onPage_of_not_covers hfile (h.batch a ha p hp))) hacting hact
  have hended : Underway e.layout i s k True ((e.conclude a.report now r.1).exec r.2).2.workspace := by
    obtain ⟨x, r⟩ := r
    cases x with
    | error error =>
      have hfailure : e.failure? id now w = some ⟨a, r, none, error⟩ := by
        rw [failure?, ha, Option.bind_some, hact]
      have hback := underway_rollBack h hfile hfailure hacted
      rwa [conclude]
    | ok v =>
      have hfailure : e.failure? id now w = v.failure?.map fun error => ⟨a, r, some v, error⟩ := by
        rw [failure?, ha, Option.bind_some, hact]
      rw [conclude]
      cases hv : v.failure? with
      | some error =>
        rw [hv, Option.map_some] at hfailure
        have hback := underway_rollBack h hfile hfailure hacted
        exact hback
      | none =>
        exact keeps_finishLearned_of Underway.keeps_append Underway.keeps_score Underway.keeps_record _ _ _ r hacted
  rw [hconclude] at hended
  exact hended.weaken

end Engine
end Mend
