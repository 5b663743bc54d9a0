import Mend.Proofs.Engine.Course

/-!
# What a cycle puts into the books

However a cycle ends, its end tells all that it has put into the books (`Accounts`): one record, an entry for each of
its recipes, and one count for each recipe that the end counts for (`Summary.Counts`). Nothing else moves
(**`accounted`**).
-/

namespace Mend

open Fs Fs.Disk Ledger
open Action

namespace Engine

variable {e : Engine} {b b' : Books} {id : CycleId} {now : Time} {w w' : Workspace} {a : Acting} {c : Failure}
  {t : Trust.Table} {k : Cycle}

theorem Leaves.congr {d d' : Disk} (h : e.Leaves b d d') (hbooked : b'.Booked = b.Booked) : e.Leaves b' d d' :=
  ⟨by rw [hbooked]; exact h.files, by rw [hbooked]; exact h.there⟩

theorem Leaves.refl (e : Engine) (b : Books) (d : Disk) : e.Leaves b d d := leaves_of_spares (.refl _ d)

/-- The tools leave the books alone. -/
structure Considerate (e : Engine) (b : Books) : Prop where
  analyze : ∀ n d, e.Leaves b d (e.tools.analyze n d).disk
  build : ∀ d, e.Leaves b d (e.tools.build d).disk

theorem Considerate.congr (h : e.Considerate b) (hbooked : b'.Booked = b.Booked) : e.Considerate b' :=
  ⟨fun n d => (h.analyze n d).congr hbooked, fun d => (h.build d).congr hbooked⟩

theorem Considerate.keeps_analyze (h : e.Considerate b) : Keeps (e.Tended b) e.analyze := fun w hw =>
  hw.congr (h.analyze w.analyses w.disk) rfl rfl rfl hw.placed.snapshots rfl

theorem Considerate.keeps_build (h : e.Considerate b) : Keeps (e.Tended b) e.build := fun w hw =>
  hw.congr (h.build w.disk) rfl rfl rfl hw.placed.snapshots rfl

/-! ## Surveying -/

theorem yields_ensure_tended (recipe : String) :
    Yields (fun w => ∃ b', b.Surveyed t b' ∧ e.Tended b' w) (Workspace.onTrust (Trust.ensure recipe)) fun _ w =>
      ∃ b', b.Surveyed t b' ∧ e.Tended b' w := by
  rintro w ⟨⟩ w' ⟨b', hsurveyed, hw⟩ hrun
  by_cases hknown : Ordered.contains w.trust.table recipe
  · rw [Workspace.exec_onTrust, Trust.ensure, exec_bind_ok (exec_get _), if_pos hknown] at hrun
    obtain ⟨-, rfl⟩ := Prod.mk.inj hrun
    exact ⟨b', hsurveyed, hw⟩
  · refine ⟨_, hsurveyed.ensure recipe, ?_⟩
    apply yields_commit_tended (fun t => Trust.Table.ensure t recipe) w ⟨⟩ w' hw
    rw [Workspace.exec_onTrust] at hrun ⊢
    rwa [Trust.ensure, exec_bind_ok (exec_get _), if_neg hknown] at hrun

/-- A survey reads the table of trust. Of the books it changes no more than recipes that were never seen. -/
theorem yields_survey_tended (h : e.Considerate b) (now : Time) :
    Yields (fun r => e.Tended b r.workspace) (e.survey now) fun _ r =>
      ∃ t, b.table? = some t ∧ ∃ b', b.Surveyed t b' ∧ e.Tended b' r.workspace := by
  refine (Run.yields_onWorkspace (keeps_observe keeps_pause_tended h.keeps_analyze now).yields).bind fun report => ?_
  refine (Run.yields_onWorkspace yields_openTrust).bind fun _ r x r' hr hrun => ?_
  obtain ⟨t, htable, hr⟩ := hr
  refine ⟨t, htable, ?_⟩
  have hrest : Yields (fun r : Run => ∃ b', b.Surveyed t b' ∧ e.Tended b' r.workspace) (do
      (Ordered.keys e.registry).forM fun id => Run.onWorkspace (Workspace.onTrust (Trust.ensure id))
      Run.enter .decide
      let decision ← Run.onWorkspace (e.decide report)
      return (report, decision)) fun _ r => ∃ b', b.Surveyed t b' ∧ e.Tended b' r.workspace := by
    refine (Yields.forM fun recipe _ => Run.yields_onWorkspace (yields_ensure_tended recipe)).bind fun _ => ?_
    refine (Run.keeps_enter (P := fun w => ∃ b', b.Surveyed t b' ∧ e.Tended b' w) .decide).yields.bind fun _ => ?_
    have hdecide : Keeps (fun w => ∃ b', b.Surveyed t b' ∧ e.Tended b' w) (e.decide report) := by
      refine keeps_decide (fun p => ?_) report
      rintro w ⟨b', hsurveyed, hw⟩
      exact ⟨b', hsurveyed, keeps_pause_tended p w hw⟩
    exact (Run.yields_onWorkspace hdecide.yields).bind fun decision => yields_pure fun _ hr => hr
  exact hrest r x r' ⟨_, b.surveyed_withTable t, hr⟩ hrun

/-! ## Acting -/

theorem keeps_writeEach {P : Workspace → Prop} (hpause : Keeps P (Workspace.pause .written)) {limit : Option Deadline}
    {onward : Bool} {batch : Batch} (h : ∀ p ∈ batch, Keeps P (Workspace.onFiles (Batch.writeFile e.root p))) :
    Keeps P (Batch.writeEach e.root limit onward batch) := by
  induction batch with
  | nil => exact keeps_pure _
  | cons p rest ih =>
    have hrest := ih fun q hq => h q (List.mem_cons_of_mem _ hq)
    have hone : Keeps P (Batch.writeInTime e.root limit p) := by
      refine Keeps.bind (((keeps_query _).bind fun _ => h p List.mem_cons_self).outcome) fun _ => ?_
      exact hpause.bind fun _ => keeps_pure _
    refine hone.bind fun r => ?_
    cases r with
    | ok x => exact hrest.bind fun _ => keeps_pure _
    | error err =>
      dsimp only
      split
      · exact hrest.bind fun _ => keeps_pure _
      · exact keeps_pure _

/-- Writing a file of the batch spares all others. -/
theorem keeps_writeFile_spares {L : Location → Prop} {d₀ : Disk} {root : Place} {p : Prepared}
    (h : Avoids L (root.file p.file)) : Keeps (Spares L d₀) (Batch.writeFile root p) := by
  refine (keeps_query _).bind fun content => ?_
  dsimp only
  split
  · exact keeps_throw _
  · exact (((keeps_atomicWrite h _).mapError _).bind fun _ => keeps_pure _)

theorem keeps_writeFile_tended {p : Prepared} (h : ¬ b.Covers (resolve [] (e.root.file p.file).location)) :
    Keeps (e.Tended b) (Workspace.onFiles (Batch.writeFile e.root p)) := by
  intro w hw
  rw [Workspace.exec_onFiles]
  exact hw.disk (leaves_of_spares (keeps_writeFile_spares (hw.lasting.avoids h) w.disk (.refl _ _)))

theorem keeps_take_tended (id : CycleId) (cs : List Snapshot.Capture) (r : Snapshot.Retention) (now : Time) :
    Keeps (e.Tended b) (Workspace.onSnapshots (Snapshot.take id cs r now)) := by
  intro w hw
  have hcovers : ∀ s, ¬ b.Covers (resolve [] e.layout.snapshots.location ++ [s]) :=
    fun s => hw.books ▸ hw.placed.not_covers_snapshot s
  obtain ⟨hsnapshots, hspared⟩ := Snapshot.keeps_take_spares hcovers id cs r now ⟨w.disk, w.snapshots⟩
    ⟨hw.placed.snapshots, .refl _ w.disk⟩
  rw [Workspace.exec_onSnapshots]
  exact hw.congr (leaves_of_spares hspared) rfl rfl rfl hsnapshots rfl

/-- What every step of acting and verifying keeps holds after them. -/
theorem kept_act {P : Workspace → Prop} (hpause : ∀ p, Keeps P (Workspace.pause p)) (hanalyze : Keeps P e.analyze)
    (hbuild : Keeps P e.build)
    (htake : ∀ id, Keeps P (Workspace.onSnapshots
      (Snapshot.take id (List.map Prepared.capture (a.batch e)) e.config.retention now)))
    (hwrite : ∀ p ∈ a.batch e, Keeps P (Workspace.onFiles (Batch.writeFile e.root p))) (ha : P a.run.workspace)
    {res : Except Engine.Error Verification} {r : Run}
    (hrun : (e.act a.report a.decision.selected now).exec a.run = (res, r)) : P r.workspace := by
  rw [act, exec_bind_ok (exec_get _)] at hrun
  dsimp only at hrun
  rw [exec_bind] at hrun
  rcases hprepare : (e.prepare a.decision.selected (e.deadline a.run.workspace.clock) now).exec a.run with ⟨res₁, r₁⟩
  rw [show (e.config.timeouts.limit? .act).map (fun s => Deadline.after .act s a.run.workspace.clock) =
    e.deadline a.run.workspace.clock from rfl, hprepare] at hrun
  have hprepared : P r₁.workspace ∧ ∀ batch, res₁ = .ok batch → batch = a.batch e := by
    have hkept := keeps_prepareBatch (e := e) (hpause .prepared)
      (e.deadline a.run.workspace.clock) a.decision.selected a.run.workspace ha
    rcases prepare_cases hprepare with ⟨error, hmade, rfl, -⟩ | ⟨made, v, hmade, v', hcase⟩
    · rw [hmade] at hkept
      exact ⟨hkept, fun _ hbatch => by cases hbatch⟩
    rw [hmade] at hkept
    have hbatch : a.batch e = made := by
      rw [Acting.batch]
      simp only [hmade]
    have htaken := htake a.run.cycle.id v hkept
    rw [hbatch] at htaken
    rcases hcase with ⟨⟨error, htake, rfl⟩, rfl⟩ | ⟨htake, hres, rfl⟩
    · rw [htake] at htaken
      exact ⟨htaken, fun _ hbatch => by cases hbatch⟩
    · rw [htake] at htaken
      refine ⟨hpause .saved v' htaken, ?_⟩
      rintro batch rfl
      rw [hbatch]
      rcases hres with hres | ⟨error, hres⟩
      · exact Except.ok.inj hres
      · cases hres
  obtain ⟨hr₁, hres₁⟩ := hprepared
  cases res₁ with
  | error err =>
    obtain ⟨-, rfl⟩ := Prod.mk.inj hrun
    exact hr₁
  | ok batch =>
    obtain rfl := hres₁ batch rfl
    have hwrites : Keeps P (Batch.write e.root e.config.parallel (e.deadline a.run.workspace.clock) (a.batch e)) :=
      keeps_writeEach (hpause .written) hwrite
    obtain rfl : _ = r := congrArg Prod.snd hrun
    -- the batch is written, and then it is verified unless a file could not be written
    refine (Run.keeps_onWorkspace hwrites).bind (fun written => ?_) r₁ hr₁
    obtain ⟨applied, failed⟩ := written
    refine Keeps.bind (fun r hr => hr) fun _ => ?_
    cases failed with
    | some err => exact keeps_throw _
    | none =>
      exact (Run.keeps_enter .verify).bind fun _ => Run.keeps_onWorkspace (keeps_verify hanalyze hbuild _ _)

/-- Acting and verifying leave the books alone, if no file of the batch is one of theirs. -/
theorem tended_act (h : e.Considerate b) (hbatch : ∀ p ∈ a.batch e, ¬ b.Covers (resolve [] (e.root.file p.file).location))
    (ha : e.Tended b a.run.workspace) {res : Except Engine.Error Verification} {r : Run}
    (hrun : (e.act a.report a.decision.selected now).exec a.run = (res, r)) : e.Tended b r.workspace :=
  kept_act keeps_pause_tended h.keeps_analyze h.keeps_build (fun id => keeps_take_tended id _ e.config.retention now)
    (fun p hp => keeps_writeFile_tended (hbatch p hp)) ha hrun

/-- Acting and verifying leave the stores where they are. -/
theorem placed_act (ha : a.run.workspace.Placed e.layout) {res : Except Engine.Error Verification} {r : Run}
    (hrun : (e.act a.report a.decision.selected now).exec a.run = (res, r)) :
    r.workspace.Placed e.layout ∧ r.workspace.around = a.run.workspace.around := by
  refine kept_act (P := fun w => w.Placed e.layout ∧ w.around = a.run.workspace.around) ?_ ?_ ?_ ?_ ?_ ⟨ha, rfl⟩ hrun
  · exact fun p w hw => ⟨⟨hw.1.trust, hw.1.history, hw.1.attestations, hw.1.snapshots⟩, hw.2⟩
  · exact fun w hw => ⟨⟨hw.1.trust, hw.1.history, hw.1.attestations, hw.1.snapshots⟩, hw.2⟩
  · exact fun w hw => ⟨⟨hw.1.trust, hw.1.history, hw.1.attestations, hw.1.snapshots⟩, hw.2⟩
  · intro id w hw
    rw [Workspace.exec_onSnapshots]
    have hkept := Snapshot.keeps_take (l := e.layout) (d := w.disk) id (List.map Prepared.capture (a.batch e)) e.config.retention now ⟨w.disk, w.snapshots⟩
      ⟨hw.1.snapshots, .refl _ _⟩
    exact ⟨⟨hw.1.trust, hw.1.history, hw.1.attestations, hkept.1⟩, hw.2⟩
  · intro p hp w hw
    rw [Workspace.exec_onFiles]
    exact ⟨⟨hw.1.trust, hw.1.history, hw.1.attestations, hw.1.snapshots⟩, hw.2⟩

/-! ## Restoring -/

/-- Restoring spares files that no restored snapshot has. -/
theorem spares_restored {L : Location → Prop}
    (hsnapshot : ∀ id ∈ c.run.cycle.snapshot, ∀ s,
      (⟨c.restoring.disk, c.restoring.snapshots⟩ : Snapshot.Session).load id = .ok s →
        ∀ f ∈ s.files, Avoids L (e.root.file f.path)) :
    ∃ d, Spares L c.restoring.disk d ∧ (c.restored e).workspace = { c.restoring with disk := d } := by
  obtain ⟨told, d, hrun, hd⟩ := restoreCycle_cases e c
  refine ⟨d, ?_, by rw [Failure.restored, hrun]⟩
  rcases hd with hd | ⟨id, hid, s, hload, hd⟩
  · rw [hd]
    exact .refl _ _
  · rw [hd]
    have hkept : Keeps (Spares L c.restoring.disk) (s.restore e.root) :=
      Snapshot.keeps_restore (hsnapshot id hid s hload)
    exact hkept c.restoring.disk (.refl _ _)

theorem tended_restoreCycle (hsnapshot : ∀ id ∈ c.run.cycle.snapshot, ∀ s,
      (⟨c.restoring.disk, c.restoring.snapshots⟩ : Snapshot.Session).load id = .ok s →
        ∀ f ∈ s.files, ¬ b.Covers (resolve [] (e.root.file f.path).location))
    (h : e.Tended b c.run.workspace) : e.Tended b (c.restored e).workspace := by
  have hrestoring : e.Tended b c.restoring := keeps_pause_tended .restoring _ h
  obtain ⟨d, hspared, hrestored⟩ := spares_restored fun id hid s hload f hf =>
    hrestoring.lasting.avoids (hsnapshot id hid s hload f hf)
  rw [hrestored]
  exact hrestoring.disk (leaves_of_spares hspared)

/-! ## The whole -/

/-- Nobody but the ledger touches the books of a workspace: others and the tools leave them alone, no file of the batch is
one of theirs, and no snapshot that is restored has one. -/
structure Undisturbed (e : Engine) (id : CycleId) (now : Time) (w : Workspace) : Prop where
  placed : w.Placed e.layout
  edits : ∀ n p d, e.Leaves w.books d (w.around.edit n p d)
  tools : e.Considerate w.books
  batch : ∀ a ∈ e.acting? id now w, ∀ p ∈ a.batch e, ¬ w.books.Covers (resolve [] (e.root.file p.file).location)
  snapshot : ∀ c ∈ e.failure? id now w, ∀ k ∈ c.run.cycle.snapshot, ∀ s,
    (⟨c.restoring.disk, c.restoring.snapshots⟩ : Snapshot.Session).load k = .ok s →
      ∀ f ∈ s.files, ¬ w.books.Covers (resolve [] (e.root.file f.path).location)

/-- Nobody can touch a ledger that is kept in memory. -/
theorem undisturbed_of_memory (hplaced : w.Placed e.layout) (htrust : w.trust.file = none)
    (hhistory : ∃ es, w.history = .memory es) (hlog : ∃ log, w.attestations = .memory log) :
    e.Undisturbed id now w := by
  obtain ⟨es, hhistory⟩ := hhistory
  obtain ⟨log, hlog⟩ := hlog
  have hnone (p : Place) : ¬ w.books.Booked p := by
    rintro (hp | hp | hp)
    · exact Option.some_ne_none p (hp.symm.trans htrust)
    · exact History.Store.noConfusion (hp.symm.trans hhistory)
    · exact Attestation.Store.noConfusion (hp.symm.trans hlog)
  have hcovers (m : Location) : ¬ w.books.Covers m := fun ⟨p, hp, _⟩ => hnone p hp
  have hleaves (d d' : Disk) : e.Leaves w.books d d' :=
    ⟨fun p hp => absurd hp (hnone p), fun ⟨p, hp⟩ => absurd hp (hnone p)⟩
  exact ⟨hplaced, fun _ _ _ => hleaves _ _, ⟨fun _ _ => hleaves _ _, fun _ => hleaves _ _⟩,
    fun _ _ _ _ => hcovers _, fun _ _ _ _ _ _ _ _ => hcovers _⟩

/-- What the survey has made of the books when a cycle starts to act, or ends because it has nothing to do. -/
theorem Undisturbed.surveyed (h : e.Undisturbed id now w) {l : Location} {locked : Workspace}
    (hlock : (Workspace.onLocks (acquire e.layout.lock)).exec w = (.ok l, locked)) {x : Report × Decision Score} {r : Run}
    (hrun : (e.survey now).exec ⟨{ id := id }, locked⟩ = (.ok x, r)) :
    ∃ t, w.books.table? = some t ∧ ∃ b, w.books.Surveyed t b ∧ e.Tended b r.workspace :=
  yields_survey_tended h.tools now _ x r (yields_acquire_tended w l locked ⟨rfl, h.placed, h.edits⟩ hlock) hrun

theorem penalizesRecipes_iff (err : Engine.Error) :
    err.penalizesRecipes = true ↔ err.kind = .buildFailedAfterApply ∨ err.kind = .regressionDetected := by
  have hledger (cause : Ledger.Error) :
      Kind.ofLedger cause ≠ .buildFailedAfterApply ∧ Kind.ofLedger cause ≠ .regressionDetected := by
    cases cause <;> exact ⟨nofun, nofun⟩
  cases err with
  | ledger cause => simp [Error.penalizesRecipes, Error.kind, hledger cause]
  | rollbackFailed cause => simp [Error.penalizesRecipes, Error.kind, hledger cause]
  | _ => simp [Error.penalizesRecipes, Error.kind]

theorem scored_lessonOf (err : Engine.Error) (r : String) : (lessonOf err r).scored = true ↔
    (err.kind = .buildFailedAfterApply ∨ err.kind = .regressionDetected) ∨ ∃ i cause, err = .patchGeneration r i cause := by
  rw [← penalizesRecipes_iff]
  cases err with
  | patchGeneration q i cause => simp [lessonOf, Error.penalizesRecipes]
  | _ => simp [lessonOf]

/-- A recipe that the failure names is one of those that were applied. -/
theorem Failure.Blamed.mem (h : c.Blamed id) {q i : String} {cause : Patch.Error}
    (herror : c.error = .patchGeneration q i cause) : q ∈ c.run.cycle.recipes := by
  rcases h.error with ⟨-, hwithin⟩ | ⟨v, -, -, hfailure⟩
  · exact hwithin.2.1 q i cause herror
  · rw [herror, Verification.failure?] at hfailure
    split at hfailure
    · cases hfailure
    · split at hfailure <;> cases hfailure

theorem counts_failed (h : c.Blamed id) (q : String) (o : Outcome) : (c.summary now).Counts q o ↔
    ∃ l ∈ c.lessons.filter Lesson.scored, l.recipe = q ∧ l.outcome = o := by
  constructor
  · rintro (⟨hdone, -⟩ | ⟨-, rfl, error, herror, hcase⟩)
    · cases hdone
    obtain rfl := Option.some.inj herror
    have hq : q ∈ c.run.cycle.recipes := by
      rcases hcase with ⟨-, hq⟩ | ⟨i, cause, hpatch⟩
      · exact hq
      · exact h.mem hpatch
    refine ⟨lessonOf c.error q, List.mem_filter.mpr ⟨List.mem_map_of_mem hq, ?_⟩, rfl, rfl⟩
    exact (scored_lessonOf _ _).mpr (hcase.imp_left And.left)
  · rintro ⟨l, hl, rfl, rfl⟩
    obtain ⟨hl, hscored⟩ := List.mem_filter.mp hl
    obtain ⟨r, hr, rfl⟩ := List.mem_map.mp hl
    exact .inr ⟨rfl, rfl, c.error, rfl, ((scored_lessonOf _ _).mp hscored).imp_left fun hkind => ⟨hkind, hr⟩⟩

theorem passed_failed (h : c.Blamed id) : (c.summary now).passed = c.verification.map fun v => v.build.passed := by
  rcases h.error with ⟨hnone, hwithin, -⟩ | ⟨v, hsome, -, hfailure⟩
  · rw [hnone, Option.map_none]
    cases herror : c.error with
    | buildFailed code => rw [herror] at hwithin; cases hwithin
    | regression before after => rw [herror] at hwithin; cases hwithin
    | _ => simp [Failure.summary, Summary.passed, herror]
  · rw [hsome, Option.map_some]
    rw [Verification.failure?] at hfailure
    split at hfailure
    · cases hfailure
    split at hfailure
    · next hbuild =>
      have herror : c.error = .buildFailed v.build.exitCode := (Option.some.inj hfailure).symm
      have hfailed : v.build.passed = false := by simpa using hbuild
      rw [hfailed, Failure.summary, Summary.passed, herror]
    · next hbuild =>
      have herror : c.error = .regression v.before v.after := (Option.some.inj hfailure).symm
      have hpassed : v.build.passed = true := by simpa using hbuild
      rw [hpassed, Failure.summary, Summary.passed, herror]

theorem entries_failed (h : c.Blamed id) : (c.summary now).entries =
    c.lessons.map (Lesson.entry c.run.cycle.id (effect c.run.cycle c.acting.report c.verification) now) := by
  have hdelta : (c.summary now).delta = effect c.run.cycle c.acting.report c.verification := by
    rw [Summary.delta, passed_failed h, effect]
    congr 2
    exact List.length_map _
  rw [Summary.entries, hdelta, Failure.lessons, List.map_map]
  rfl

/-- What is booked of a failed cycle is what its end tells. -/
theorem accounts_failed {t : Trust.Table} {b₁ : Books} (hblame : c.Blamed id) (htable : b.table? = some t)
    (h : b.Surveyed t b₁) : Accounts b (c.booked e b₁ now) (c.summary now) := by
  have hnodup : ((c.lessons.filter Lesson.scored).map Lesson.recipe).Nodup := by
    have hrecipes : c.lessons.map Lesson.recipe = c.run.cycle.recipes := by
      rw [Failure.lessons, List.map_map]
      exact List.map_id _
    exact (hrecipes ▸ hblame.nodup).sublist (List.filter_sublist.map _)
  rw [Failure.booked, learned, ← entries_failed hblame]
  exact Accounts.of_surveyed htable h hnodup (counts_failed hblame)

/-- A cycle that has nothing to do is attested, and that is all. -/
theorem accounts_idle {t : Trust.Table} {b₁ : Books} (htable : b.table? = some t) (h : b.Surveyed t b₁) (count : Count)
    {x : Summary} (hx : x = ⟨drafted (decided id) count count .noop now, .done, some .noApplicableRecipe⟩) :
    Accounts b (b₁.attest x.draft) x := by
  subst hx
  have haccounts : ∀ x : Summary, x.entries = [] → (∀ q o, ¬ x.Counts q o) → Accounts b (b₁.attest x.draft) x := by
    intro x hentries hno
    have hbooked : Accounts b (((b₁.append x.entries).score 0 now []).attest x.draft) x :=
      .of_surveyed htable h .nil fun q o => ⟨fun hq => absurd hq (hno q o), nofun⟩
    rwa [hentries, Books.append_nil] at hbooked
  refine haccounts _ rfl ?_
  rintro q o (⟨-, hnone, -⟩ | ⟨hphase, -⟩)
  · cases hnone
  · cases hphase

/-- What is booked of a cycle that ended well is what its end tells. -/
theorem accounts_learned (now : Time) {t : Trust.Table} {b₁ : Books} (htable : b.table? = some t) (h : b.Surveyed t b₁)
    (hnodup : k.recipes.Nodup) {report : Report} {after : Count} {build : Build} {v : Verification}
    (hv : v = .of report.count after build e.config.marginalImprovement) (hnone : v.failure? = none) :
    Accounts b ((e.learned b₁ k (lessons k v) report (some v) now).attest (drafted k v.before v.after v.verdict now))
      ⟨drafted k v.before v.after v.verdict now, .done, none⟩ := by
  have hverdict := verdict_ne_failure hnone
  have hpassed : v.build.passed = true := by
    by_contra hfailed
    refine hverdict ?_
    rw [hv] at hfailed ⊢
    simp only [Verification.of] at hfailed ⊢
    simp [Verdict.judge, hfailed]
  have hoc : ∃ o, v.verdict.outcome? = some o := by
    have hnoop : v.verdict ≠ .noop := by
      rw [hv]
      exact Verdict.judge_ne_noop _ _ _ _
    cases hverdict' : v.verdict with
    | success => exact ⟨_, rfl⟩
    | partly => exact ⟨_, rfl⟩
    | failure => exact absurd hverdict' hverdict
    | noop => exact absurd hverdict' hnoop
  obtain ⟨o, ho⟩ := hoc
  have hlessons : lessons k v = k.recipes.map fun r => ⟨r, o, true⟩ := by rw [lessons, ho, Option.getD_some]
  have hscored : (lessons k v).filter Lesson.scored = lessons k v := by
    rw [hlessons]
    exact List.filter_eq_self.mpr fun l hl => by
      obtain ⟨r, -, rfl⟩ := List.mem_map.mp hl
      rfl
  have hentries : (lessons k v).map (Lesson.entry k.id (effect k report (some v)) now) =
      Summary.entries ⟨drafted k v.before v.after v.verdict now, .done, none⟩ := by
    have hdelta : effect k report (some v) =
        Summary.delta ⟨drafted k v.before v.after v.verdict now, .done, none⟩ := by
      have hbefore : v.before = report.count := by
        rw [hv]
        rfl
      rw [effect, Summary.delta, Option.map_some, hpassed, ← hbefore]
      congr 2
      exact (List.length_map _).symm
    have hoc : (drafted k v.before v.after v.verdict now).verdict.outcome? = some o := ho
    rw [Summary.entries, hoc, hlessons, List.map_map, hdelta]
    rfl
  rw [learned, hscored, hentries]
  refine Accounts.of_surveyed htable h ?_ fun q x => ?_
  · rw [hlessons, List.map_map]
    exact (List.map_id _).symm ▸ hnodup
  · rw [hlessons]
    constructor
    · rintro (⟨-, hx, hq⟩ | ⟨hphase, -⟩)
      · exact ⟨_, List.mem_map_of_mem hq, rfl, Option.some.inj (ho.symm.trans hx)⟩
      · cases hphase
    · rintro ⟨l, hl, rfl, rfl⟩
      obtain ⟨r, hr, rfl⟩ := List.mem_map.mp hl
      exact .inl ⟨rfl, ho, hr⟩

/-- How a cycle ended that acted and did not fail. -/
theorem exec_runCycle_learned {a : Acting} (ha : e.acting? id now w = some a) (hnone : e.failure? id now w = none)
    {res : Except Engine.Error CycleResult} (hrun : (e.runCycle id now).exec w = (res, w')) :
    ∃ v r r', (e.act a.report a.decision.selected now).exec a.run = (.ok v, r) ∧ v.failure? = none ∧
      (e.finishLearned a.report v now).exec r = (res, r') ∧ ∃ held, w' = { r'.workspace with held := held } := by
  rcases runCycle_cases hrun with ⟨hno, -⟩ | ⟨a', ha', ⟨x, r⟩, r', hact, hconclude, hheld⟩
  · rw [hno] at ha
    cases ha
  obtain rfl := Option.some.inj (ha'.symm.trans ha)
  rw [failure?, ha] at hnone
  simp only [Option.bind_some, hact] at hnone
  cases x with
  | error error => cases hnone
  | ok v =>
    have hv := Option.map_eq_none_iff.mp hnone
    simp only [conclude, hv] at hconclude
    exact ⟨v, r, r', hact, hv, hconclude, hheld⟩

/-- When a cycle starts to act, others have left the books alone, and still do. -/
theorem Undisturbed.acting (h : e.Undisturbed id now w) {a : Acting} (ha : e.acting? id now w = some a) :
    ∃ t, w.books.table? = some t ∧ ∃ b, w.books.Surveyed t b ∧ e.Considerate b ∧ e.Tended b a.run.workspace ∧
      ∀ res r, (e.act a.report a.decision.selected now).exec a.run = (res, r) → e.Tended b r.workspace := by
  obtain ⟨l, locked, hlock, hsurvey, -, -⟩ := acting_of_some ha
  obtain ⟨t, htable, b, hsurveyed, hacting⟩ := h.surveyed hlock hsurvey
  have htools := h.tools.congr hsurveyed.booked
  refine ⟨t, htable, b, hsurveyed, htools, hacting, fun res r hact => ?_⟩
  refine tended_act htools ?_ hacting hact
  rw [hsurveyed.covers]
  exact h.batch a ha

/-- What is booked of a cycle that failed, however it ends. -/
theorem Undisturbed.failed (h : e.Undisturbed id now w) (hc : c ∈ e.failure? id now w)
    {res : Except Engine.Error CycleResult} (hrun : (e.runCycle id now).exec w = (res, w')) :
    (∃ error, c.recorded e now = .error error ∧ res = .error error) ∨
      Accounts w.books w'.books (c.summary now) ∧ ∃ told, (e.restoreCycle.exec c.run).1 = .ok told ∧
        ((∃ cause, told = some cause ∧ res = .error (.rollbackFailed cause)) ∨
          told = none ∧ ∃ result, res = .ok result ∧ result.summary now = c.summary now ∧
            result.attestation = (Attestation.nextRecord w.books.bytes (c.summary now).draft).own) := by
  have hblame := failure_blame hc
  obtain ⟨ha, res', hact, -⟩ := failure_of_some hc
  obtain ⟨t, htable, b, hsurveyed, -, -, hacted⟩ := h.acting ha
  have hrestored : e.Tended b (c.restored e).workspace := by
    refine tended_restoreCycle ?_ (hacted _ _ hact)
    rw [hsurveyed.covers]
    exact h.snapshot c hc
  have hbytes : b.bytes = w.books.bytes := Books.bytes_congr hsurveyed.attestations hsurveyed.log
  obtain ⟨hres, held, hheld⟩ := runCycle_failure hc
  rw [hrun] at hres hheld
  rcases hback : (e.rollBack c.acting.report c.verification c.error now).exec c.run with ⟨x, r⟩
  rw [hback] at hres hheld
  dsimp only at hres hheld
  subst hres hheld
  rcases rollBack_tended hblame.walk hrestored hback with hfailed | ⟨-, hbooks, htold⟩
  · exact .inl hfailed
  · rw [hbytes] at htold
    have haccounts : Accounts w.books (c.booked e b now) (c.summary now) := accounts_failed hblame htable hsurveyed
    rw [← hbooks.books] at haccounts
    exact .inr ⟨haccounts, htold⟩

/-- A cycle that does not come to act has nothing to do if it ends well. -/
theorem Undisturbed.idle (h : e.Undisturbed id now w) (ha : e.acting? id now w = none) {res : CycleResult}
    (hrun : (e.runCycle id now).exec w = (.ok res, w')) :
    (res.summary now).Sound id ∧
      res.attestation = (Attestation.nextRecord w.books.bytes (res.summary now).draft).own ∧
      Accounts w.books w'.books (res.summary now) := by
  rcases runCycle_cases hrun with ⟨-, hidle⟩ | ⟨a, ha', -⟩
  swap
  · rw [ha] at ha'
    cases ha'
  rcases hidle with ⟨_, -, herror⟩ | ⟨l, locked, hlock, ⟨_, _, -, herror, -⟩ | ⟨x, r, r', hsurvey, hfinish, held, rfl⟩⟩
  · cases herror
  · cases herror
  obtain ⟨t, htable, b, hsurveyed, hbooks⟩ := h.surveyed hlock hsurvey
  have hcycle : r.cycle = decided id := cycle_survey now _ _ _ rfl hsurvey
  obtain ⟨hsummary, hattestation, hbooks'⟩ := yields_finishIdle_tended x.1 r res r' ⟨hcycle, hbooks⟩ hfinish
  refine ⟨?_, ?_, ?_⟩
  · rw [hsummary]
    exact ⟨rfl, .nil, .inl ⟨rfl, nofun⟩⟩
  · rw [hattestation, Books.bytes_congr hsurveyed.attestations hsurveyed.log, hsummary]
  · have haccounts := accounts_idle htable hsurveyed x.1.count hsummary
    rw [hsummary] at haccounts ⊢
    dsimp only at haccounts
    rw [← hbooks'.books] at haccounts
    exact haccounts

/-- What is booked of a cycle that acted and did not fail. -/
theorem Undisturbed.learned (h : e.Undisturbed id now w) {a : Acting} (ha : e.acting? id now w = some a)
    (hnone : e.failure? id now w = none) {res : CycleResult} (hrun : (e.runCycle id now).exec w = (.ok res, w')) :
    (res.summary now).Sound id ∧
      res.attestation = (Attestation.nextRecord w.books.bytes (res.summary now).draft).own ∧
      Accounts w.books w'.books (res.summary now) := by
  obtain ⟨v, r, r', hact, hv, hlearned, held, rfl⟩ := exec_runCycle_learned ha hnone hrun
  obtain ⟨t, htable, b, hsurveyed, -, -, hacted⟩ := h.acting ha
  have hbooks := hacted _ _ hact
  obtain ⟨hworks, hfixes⟩ := acting_works ha
  obtain ⟨⟨rs, hr⟩, after, build, hjudged⟩ := (act_blame hfixes a.report).yields _ _ _ hworks hact
  have hnodup : r.cycle.recipes.Nodup := hr.recipes ▸ hr.nodup
  obtain ⟨hsummary, hattestation, hbooks'⟩ := yields_finishLearned_tended hr.walk a.report v r res r' ⟨rfl, hbooks⟩ hlearned
  have haccounts := accounts_learned now htable hsurveyed hnodup hjudged hv
  refine ⟨?_, ?_, ?_⟩
  · rw [hsummary]
    exact ⟨hr.id, hnodup, .inl ⟨rfl, verdict_ne_failure hv⟩⟩
  · rw [hattestation, Books.bytes_congr hsurveyed.attestations hsurveyed.log, hsummary]
  · rw [hsummary]
    rw [← hbooks'.books] at haccounts
    exact haccounts

/-- **What a cycle puts into the books.** If nobody but the ledger touches the books meanwhile, a cycle that ends with a
result has added to them what the result tells: one record to the log, an entry for each of its recipes to the history,
in their order, and one count for each recipe that the result counts for. If the files of a failed cycle cannot be
brought back, all this happens as well before the cycle tells why, unless it cannot be recorded. -/
theorem accounted (h : e.Undisturbed id now w) :
    (∀ res w', (e.runCycle id now).exec w = (.ok res, w') →
      (res.summary now).Sound id ∧
        res.attestation = (Attestation.nextRecord w.books.bytes (res.summary now).draft).own ∧
        Accounts w.books w'.books (res.summary now)) ∧
    ∀ c ∈ e.failure? id now w, ∀ cause, (e.restoreCycle.exec c.run).1 = .ok (some cause) →
      ∀ digest, c.recorded e now = .ok digest →
        ((e.runCycle id now).exec w).1 = .error (.rollbackFailed cause) ∧
          Accounts w.books ((e.runCycle id now).exec w).2.books (c.summary now) := by
  refine ⟨fun res w' hrun => ?_, fun c hc cause htold digest hdigest => ?_⟩
  · cases hfailure : e.failure? id now w with
    | some c =>
      have hblame := failure_blame hfailure
      rcases h.failed hfailure hrun with ⟨error, -, herror⟩ | ⟨haccounts, told, -, hcase⟩
      · cases herror
      rcases hcase with ⟨cause, -, herror⟩ | ⟨-, result, hres, hsummary, hattestation⟩
      · cases herror
      obtain rfl := Except.ok.inj hres
      rw [hsummary]
      exact ⟨⟨hblame.id, hblame.nodup, .inr ⟨rfl, rfl⟩⟩, hattestation, haccounts⟩
    | none =>
      cases hacting : e.acting? id now w with
      | none => exact h.idle hacting hrun
      | some a => exact h.learned hacting hfailure hrun
  · rcases hrun : (e.runCycle id now).exec w with ⟨res, w'⟩
    rcases h.failed hc hrun with ⟨error, herror, -⟩ | ⟨haccounts, told, htold', hcase⟩
    · rw [hdigest] at herror
      cases herror
    · obtain rfl : told = some cause := Except.ok.inj (htold'.symm.trans htold)
      rcases hcase with ⟨cause', hcause, hres⟩ | ⟨hnone, -⟩
      · obtain rfl := Option.some.inj hcause
        exact ⟨hres, haccounts⟩
      · cases hnone

/-! ### One folder -/

attribute [local instance] Text.decideBytes

/-- A folder with a file that ends in a blank, and with a history that has no entry yet, but an empty line. -/
def lined : Workspace :=
  { Workspace.inMemory [] ⟨[("w", .dir [("a", .file "x\n ".toUTF8 newMode),
      (".remedy", .dir [("history.jsonl", .file "\n".toUTF8 newMode)])])]⟩ with
    history := .file tidy.layout.history }

theorem placed_lined : lined.Placed tidy.layout :=
  ⟨nofun, fun _ hp => (History.Store.file.inj hp).symm, nofun, nofun⟩

set_option maxRecDepth 100000 in
theorem undisturbed_lined : passing.Undisturbed default default lined where
  placed := placed_lined
  edits _ _ d := .refl _ _ d
  tools := ⟨fun _ d => .refl _ _ d, fun d => .refl _ _ d⟩
  batch a ha p hp := by
    have hbatch : (passing.acting? default default lined).map (Acting.batch passing) = some [tidied] := by decide +kernel
    rw [ha, Option.map_some] at hbatch
    rw [Option.some.inj hbatch, List.mem_singleton] at hp
    subst hp
    rintro ⟨q, hq | hq | hq, heq⟩
    · cases hq
    · obtain rfl := History.Store.file.inj hq
      exact absurd heq (by decide)
    · cases hq
  snapshot c hc := by
    have hnone : (passing.failure? default default lined).isNone = true := by decide +kernel
    rw [Option.isNone_iff_eq_none.mp hnone] at hc
    cases hc

set_option maxRecDepth 100000 in
/-- A cycle that takes the blank away, and one that cannot bring the file back, which others overwrote. -/
theorem accounted_tidied :
    (∃ res w', (passing.runCycle default default).exec lined = (.ok res, w') ∧ res.verdict = .success ∧
      res.recipes = ["trailing-whitespace"] ∧ Accounts lined.books w'.books (res.summary default)) ∧
    ∃ c ∈ tidy.failure? default default (amid lostLine (.memory [])), ∃ cause,
      ((tidy.runCycle default default).exec (amid lostLine (.memory []))).1 = .error (.rollbackFailed cause) ∧
        Accounts (amid lostLine (.memory [])).books
          ((tidy.runCycle default default).exec (amid lostLine (.memory []))).2.books (c.summary default) := by
  constructor
  · have hglance : ((passing.runCycle default default).exec lined).1.toOption.map
        (fun res => (res.verdict, res.recipes)) = some (.success, ["trailing-whitespace"]) := by decide +kernel
    rcases hrun : (passing.runCycle default default).exec lined with ⟨err | res, w'⟩
    · rw [hrun] at hglance
      cases hglance
    rw [hrun] at hglance
    obtain ⟨hverdict, hrecipes⟩ := Prod.mk.inj (Option.some.inj hglance)
    exact ⟨res, w', rfl, hverdict, hrecipes, ((accounted undisturbed_lined).1 res w' hrun).2.2⟩
  · obtain ⟨hsetting, c, hc, hdistinct, ⟨digest, hrecorded⟩, hroom, hlost⟩ := exists_lostLine
    have hundisturbed : tidy.Undisturbed default default (amid lostLine (.memory [])) :=
      undisturbed_of_memory hsetting.placed rfl ⟨_, rfl⟩ ⟨_, rfl⟩
    obtain ⟨told, hrestore, ⟨lost, hnodup, hmem, rfl, -⟩ | ⟨hcramped, -⟩⟩ := hsetting.restore hc hdistinct
    · obtain rfl := hlost lost hnodup hmem
      exact ⟨c, hc, _, (accounted hundisturbed).2 c hc _ (by rw [hrestore]; rfl) digest hrecorded⟩
    · exact absurd hcramped hroom

/-- Puts an x into the empty line of the history, after which the analyzer finds nothing. The build passes. -/
def marking : Engine :=
  { passing with
    registry := [("mark", .substitution ⟨"mark", "x", Pattern.fixed "", "x", .line, [], 1⟩)]
    tools := ⟨fun n d => ⟨.ok { generatedAt := default, issues := if n = 0 then
        [{ blank with file := ⟨[".remedy", "history.jsonl"]⟩, line := 1, category := "x" }] else [] }, d, 0⟩,
      fun d => ⟨.ok ⟨true, some 0⟩, d, 0⟩⟩ }

/-- What is seen of the history and of its directory when the files were written and verified. -/
def seen (w : Workspace) : Bool × Option ByteArray × Except Fs.Error Location × Option Node :=
  (match w.history with
    | .file _ => true
    | .memory _ => false,
    w.fileAt marking.layout.history, w.disk.locate marking.layout.root.location, w.disk.node? marking.layout.location)

theorem parse?_marked : History.parse? "x\n".toUTF8 = none := by
  have hvalue : Json.parse "x" = none := by
    rw [Json.parse]
    split <;> rfl
  have hentry : (Stored.ofText? "x" : Option History.Entry) = none := by rw [Stored.ofText?, hvalue, Option.bind_none]
  show ["x"].mapM Stored.ofText? = none
  rw [List.mapM_cons, hentry]
  rfl

set_option maxRecDepth 100000 in
/-- A cycle whose batch has the file of the history ends well, and then the history cannot be read any more. -/
theorem history_unread_of_batch :
    ∃ res w', (marking.runCycle default default).exec lined = (.ok res, w') ∧ res.verdict = .success ∧
      res.recipes = ["mark"] ∧ lined.books.entries? = some [] ∧ w'.books.entries? = none := by
  have hglance : ((marking.runCycle default default).exec lined).1.toOption.map
      (fun res => (res.verdict, res.recipes)) = some (.success, ["mark"]) := by decide +kernel
  have hseen : (marking.acting? default default lined).map (fun a =>
      seen ((marking.act a.report a.decision.selected default).exec a.run).2.workspace) =
        some (true, some "x\n".toUTF8, .ok marking.layout.location, some .dir) := by decide +kernel
  have hnone : (marking.failure? default default lined).isNone = true := by decide +kernel
  obtain ⟨a, ha, hseen⟩ := Option.map_eq_some_iff.mp hseen
  rcases hrun : (marking.runCycle default default).exec lined with ⟨err | res, w'⟩
  · rw [hrun] at hglance
    cases hglance
  rw [hrun] at hglance
  obtain ⟨hverdict, hrecipes⟩ := Prod.mk.inj (Option.some.inj hglance)
  refine ⟨res, w', rfl, hverdict, hrecipes, ?_, ?_⟩
  · show History.parse? "\n".toUTF8 = some []
    rfl
  obtain ⟨v, r, r', hact, hv, hlearned, held, rfl⟩ :=
    exec_runCycle_learned ha (Option.isNone_iff_eq_none.mp hnone) hrun
  rw [hact] at hseen
  have hquiet : marking.Quiet lined := ⟨fun _ _ _ => rfl, fun _ _ => rfl, fun _ => rfl⟩
  have hacting := hquiet.acting placed_lined ha
  obtain ⟨hplaced, haround⟩ := placed_act hacting.placed hact
  have hbooks : marking.Tended r.workspace.books r.workspace := by
    refine ⟨rfl, hplaced, fun _ => ?_, fun n p d => ?_⟩
    · exact ⟨congrArg (fun x => x.2.2.1) hseen, congrArg (fun x => x.2.2.2) hseen⟩
    · rw [haround, hacting.around]
      exact .refl _ _ d
  have hpast : r.workspace.books.entries? = none ∧ r.workspace.books.Whole := by
    have hfile : r.workspace.fileAt marking.layout.history = some "x\n".toUTF8 := congrArg (fun x => x.2.1) hseen
    cases hhistory : r.workspace.history with
    | memory old => simp [seen, hhistory] at hseen
    | file p =>
      obtain rfl := hplaced.history p hhistory
      have hpast : r.workspace.books.past = some "x\n".toUTF8 := by
        simp only [Workspace.books, hhistory, hfile]
      have hstore : r.workspace.books.history = .file marking.layout.history := hhistory
      rw [Books.entries?, Books.Whole, hpast, hstore]
      refine ⟨?_, by decide⟩
      exact parse?_marked
  obtain ⟨hworks, hfixes⟩ := acting_works ha
  obtain ⟨⟨rs, hr⟩, -⟩ := (act_blame hfixes a.report).yields _ _ _ hworks hact
  obtain ⟨-, -, hbooks'⟩ := yields_finishLearned_tended hr.walk a.report v r res r' ⟨rfl, hbooks⟩ hlearned
  show r'.workspace.books.entries? = none
  rw [hbooks'.books, Books.entries?_attest, learned, Books.entries?_score, Books.entries?_append hpast.2, hpast.1]
  · rfl
  · intro x hx
    obtain ⟨l, -, rfl⟩ := List.mem_map.mp hx
    exact (⟨by decide, .inl (by decide)⟩ : (default : Time).Storable)

end Engine
end Mend
