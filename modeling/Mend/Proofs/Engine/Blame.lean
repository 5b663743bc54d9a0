import Mend.Proofs.Engine.Exactness

/-!
# Whom a failure speaks against

Once it acts a cycle knows each of its recipes once: those that were selected, and then those of the batch. If acting or
verifying fails, that speaks against the recipes of the cycle only if the build failed or issues came up, and a recipe
that failed on an issue is one of them (`act_blame`, `failure_blame`).
-/

namespace Mend

open Fs Fs.Disk Ledger
open Action

/-- What is no failure was built, and there are no more issues than before. -/
theorem Verdict.judge_ne_failure {before after : Count} {passed : Bool} {marginal : Float}
    (h : judge before after passed marginal ≠ .failure) : passed = true ∧ after ≤ before := by
  rw [judge] at h
  split at h
  · exact absurd rfl h
  · next hkept =>
    simp only [Bool.or_eq_true, Bool.not_eq_true', decide_eq_true_eq, not_or, Bool.not_eq_false, UInt32.not_lt] at hkept
    exact hkept

namespace Engine.Error

/-- The failure does not speak against the recipes of a cycle. If it names a recipe that failed, that is one of these.
It is not that of a phase that may not follow. -/
def Within (rs : List String) (err : Engine.Error) : Prop :=
  err.penalizesRecipes = false ∧ (∀ r i cause, err = .patchGeneration r i cause → r ∈ rs) ∧
    ∀ p q, err ≠ .illegalTransition p q

variable {rs rs' : List String} {err : Engine.Error}

theorem Within.mono (h : err.Within rs) (hsub : rs ⊆ rs') : err.Within rs' :=
  ⟨h.1, fun r i cause he => hsub (h.2.1 r i cause he), h.2.2⟩

theorem within_patch {r i : String} {cause : Patch.Error} (h : r ∈ rs) : (patchGeneration r i cause).Within rs := by
  refine ⟨rfl, fun r' i' cause' he => ?_, nofun⟩
  injection he with hr
  exact hr ▸ h

theorem within_ledger (rs : List String) (cause : Ledger.Error) : (ledger cause).Within rs := ⟨rfl, nofun, nofun⟩

theorem within_check {limit : Option Deadline} {clock : Nat} (h : checkDeadline limit clock = .error err) :
    err.Within rs := by
  cases limit with
  | none => cases h
  | some limit =>
    rw [checkDeadline, Deadline.check] at h
    split at h
    · obtain rfl := Except.error.inj h
      exact ⟨rfl, nofun, nofun⟩
    · cases h

end Engine.Error

/-! ## Preparing -/

namespace Batch

variable {σ : Type} {g : Registry} {file : RelPath} {files : Recipe.Files} {timely : Except Engine.Error Unit}
  {maxLines : Count} {root : Place} {limit : Option Deadline} {err : Engine.Error} {w w' : Workspace}

theorem mem_of_mem_byFile {fixes : List (Fix σ)} {x : RelPath × List (Fix σ)} (h : x ∈ byFile fixes) :
    x.2 ⊆ fixes := by
  suffices hall : ∀ (seen rest : List (Fix σ)) (t : Ordered RelPath (List (Fix σ))), (∀ y ∈ t, y.2 ⊆ seen) → ∀ y ∈
      rest.foldl (fun t f => Ordered.insert t f.issue.file ((Ordered.get? t f.issue.file).getD [] ++ [f])) t,
      y.2 ⊆ seen ++ rest by
    exact hall [] fixes [] nofun x h
  intro seen rest
  induction rest generalizing seen with
  | nil => simp
  | cons f rest ih =>
    intro t ht y hy
    have hstep := ih (seen ++ [f]) _ ?_ y hy
    · rwa [List.append_assoc, List.singleton_append] at hstep
    intro z hz
    rcases Ordered.mem_insert hz with rfl | hz
    · have hheld : (Ordered.get? t f.issue.file).getD [] ⊆ seen := by
        cases hget : Ordered.get? t f.issue.file with
        | none => simp
        | some fs =>
          obtain ⟨y, hy, rfl⟩ := Ordered.exists_of_get? hget
          exact ht y hy
      intro k hk
      rcases List.mem_append.mp hk with hk | hk
      · exact List.mem_append_left _ (hheld hk)
      · exact List.mem_append_right _ hk
    · exact fun k hk => List.mem_append_left _ (ht z hz hk)

theorem within_applyFix {content : String} {f : Fix σ} (h : applyFix g file files content f = .error err) :
    err.Within [f.recipe] := by
  rw [applyFix] at h
  dsimp only at h
  split at h
  · obtain rfl := Except.error.inj h
    exact Engine.Error.within_patch List.mem_cons_self
  split at h
  · obtain rfl := Except.error.inj h
    exact Engine.Error.within_patch List.mem_cons_self
  split at h
  · obtain rfl := Except.error.inj h
    exact Engine.Error.within_patch List.mem_cons_self
  · cases h

theorem within_chain (htimely : ∀ err rs, timely = .error err → err.Within rs) {fixes : List (Fix σ)} {content : String}
    (h : chain g file files timely fixes content = .error err) : err.Within (fixes.map Fix.recipe) := by
  induction fixes generalizing content with
  | nil => cases h
  | cons f rest ih =>
    rw [chain] at h
    cases timely with
    | error cause =>
      obtain rfl : cause = err := Except.error.inj h
      exact htimely cause _ rfl
    | ok =>
      cases hfix : applyFix g file files content f with
      | error cause =>
        rw [hfix] at h
        obtain rfl : cause = err := Except.error.inj h
        exact (within_applyFix hfix).mono (by simp)
      | ok content' =>
        rw [hfix] at h
        exact (ih h).mono (by simp)

/-- A file that cannot be prepared names one of the recipes that were to repair it, if any. -/
theorem within_prepareFile (htimely : ∀ err rs, timely = .error err → err.Within rs) {fixes : List (Fix σ)}
    (h : prepareFile g maxLines files timely file fixes = .error err) : err.Within (fixes.map Fix.recipe) := by
  have hsub : (fixes.mergeSort chainsBefore).map Fix.recipe ⊆ fixes.map Fix.recipe :=
    ((List.mergeSort_perm fixes chainsBefore).map Fix.recipe).subset
  rw [prepareFile] at h
  dsimp only at h
  split at h
  · cases h
  next first rest hordered =>
  split at h
  · obtain rfl := Except.error.inj h
    exact Engine.Error.within_patch (hsub (by simp [hordered]))
  split at h
  · next hchain =>
    obtain rfl := Except.error.inj h
    exact (within_chain htimely hchain).mono (hordered ▸ hsub)
  split at h
  · cases h
  split at h
  · obtain rfl := Except.error.inj h
    refine ⟨rfl, fun r i cause heq => ?_, fun p q heq => ?_⟩
    · cases heq
    · cases heq
  · cases h

theorem error_of_collect {rs : List (Except Engine.Error (Option Prepared))} (h : collect rs = .error err) :
    .error err ∈ rs := by
  induction rs with
  | nil => cases h
  | cons r rs ih =>
    rcases r with cause | (_ | q)
    · obtain rfl : cause = err := Except.error.inj h
      exact List.mem_cons_self
    · exact List.mem_cons_of_mem _ (ih h)
    · rw [collect] at h
      cases hrest : collect rs with
      | error cause =>
        rw [hrest] at h
        obtain rfl : cause = err := Except.error.inj h
        exact List.mem_cons_of_mem _ (ih hrest)
      | ok rest => rw [hrest] at h; cases h

theorem yields_prepareEach (fixes : List (RelPath × List (Fix σ))) :
    Yields (fun _ => True) (prepareEach g maxLines root limit fixes) fun rs _ =>
      ∀ err, .error err ∈ rs → ∃ x ∈ fixes, err.Within (x.2.map Fix.recipe) := by
  induction fixes with
  | nil => exact yields_pure fun _ _ _ herr => absurd herr List.not_mem_nil
  | cons x rest ih =>
    obtain ⟨file, fixes⟩ := x
    intro w rs w' _ hrun
    rw [exec_prepareEach_cons] at hrun
    rcases hrest : (prepareEach g maxLines root limit rest).exec ((Workspace.pause .prepared).exec w).2 with ⟨cause | rs', v⟩
    · rw [hrest] at hrun
      cases (Prod.mk.inj hrun).1
    rw [hrest] at hrun
    obtain ⟨hrs, rfl⟩ := Prod.mk.inj hrun
    obtain rfl := Except.ok.inj hrs
    intro err herr
    rcases List.mem_cons.mp herr with herr | herr
    · exact ⟨_, List.mem_cons_self, within_prepareFile (fun _ _ => Engine.Error.within_check) herr.symm⟩
    · obtain ⟨x, hx, hwithin⟩ := ih _ _ _ trivial hrest err herr
      exact ⟨x, List.mem_cons_of_mem _ hx, hwithin⟩

theorem throws_prepareEach {P : Workspace → Prop} {E : Engine.Error → Workspace → Prop}
    (fixes : List (RelPath × List (Fix σ))) : Throws P (prepareEach g maxLines root limit fixes) E := by
  induction fixes generalizing P with
  | nil => exact throws_pure _
  | cons x rest ih =>
    refine throws_get.bind yields_any fun w => (throws_modify _).bind yields_any fun _ => ih.bind yields_any fun _ => ?_
    exact throws_pure _

/-- A batch that cannot be prepared names one of the recipes that it was to be prepared with, if any. -/
theorem throws_prepare (fixes : List (Fix σ)) :
    Throws (fun _ => True) (prepare g maxLines root limit fixes) fun err _ => err.Within (fixes.map Fix.recipe) := by
  refine (throws_prepareEach _).bind (yields_prepareEach _) fun rs => throws_query fun w err hrs herr => ?_
  obtain ⟨x, hx, hwithin⟩ := hrs err (error_of_collect herr)
  exact hwithin.mono (List.map_subset _ (mem_of_mem_byFile hx))

/-! ## Writing -/

theorem throws_writeFile {P : Disk → Prop} (rs : List String) (p : Prepared) :
    Throws P (writeFile root p) fun err _ => err.Within rs := by
  refine Throws.bind (throws_query fun d err _ herr => ?_) yields_any fun content => ?_
  · split at herr
    · cases herr
    · obtain rfl := Except.error.inj herr
      exact ⟨rfl, nofun, nofun⟩
  · dsimp only
    split
    · exact throws_throw fun _ _ => ⟨rfl, nofun, nofun⟩
    exact (throws_mapError fun cause _ => Engine.Error.within_ledger rs cause).bind yields_any fun _ => throws_pure _

theorem within_writeInTime (rs : List String) (p : Prepared) :
    Yields (fun _ => True) (writeInTime root limit p) fun r _ => ∀ err, r = .error err → err.Within rs := by
  have hwrite : Throws (fun _ => True) (do
      Action.query fun w : Workspace => checkDeadline limit w.clock
      Workspace.onFiles (writeFile root p) : Workspace.Step Applied) fun err _ => err.Within rs := by
    refine Throws.bind (throws_query fun _ _ _ herr => Engine.Error.within_check herr) yields_any fun _ => ?_
    intro w err w' _ hrun
    rw [Workspace.exec_onFiles] at hrun
    obtain ⟨herr, -⟩ := Prod.mk.inj hrun
    exact throws_writeFile (P := fun _ => True) rs p w.disk err _ trivial (Prod.ext herr rfl)
  intro w r w' _ hrun err herr
  rw [writeInTime, exec_bind_ok (exec_outcome _ w), exec_bind_ok (Workspace.exec_pause .written _)] at hrun
  obtain ⟨hr, -⟩ := Prod.mk.inj hrun
  obtain rfl := Except.ok.inj hr
  exact hwrite w err _ trivial (Prod.ext herr rfl)

/-- If a file cannot be written, that speaks against no recipe. -/
theorem within_writeEach (rs : List String) (onward : Bool) (b : Batch) :
    Yields (fun _ => True) (writeEach root limit onward b) fun x _ => ∀ err ∈ x.2, err.Within rs := by
  induction b with
  | nil => exact yields_pure fun _ _ _ herr => nomatch herr
  | cons p rest ih =>
    let Q (x : List Applied × Option Engine.Error) (_ : Workspace) : Prop := ∀ err ∈ x.2, err.Within rs
    refine (within_writeInTime rs p).bind fun r w x w' hr hrun => ?_
    cases r with
    | ok a =>
      have hwritten : Yields (fun _ => True) (do
          let x ← writeEach root limit onward rest
          return (a :: x.1, x.2)) Q := ih.bind fun x => yields_pure fun _ hx => hx
      exact hwritten w x w' trivial hrun
    | error err =>
      have hfailed (as : List Applied) (v : Workspace) : Q (as, some err) v := by
        rintro err' herr
        obtain rfl := Option.some.inj herr
        exact hr err rfl
      dsimp only at hrun
      split at hrun
      · have hwritten : Yields (fun _ => True) (do
            let x ← writeEach root limit onward rest
            return (x.1, some err)) Q := ih.bind fun x => yields_pure fun v _ => hfailed x.1 v
        exact hwritten w x w' trivial hrun
      · exact yields_pure (P := fun _ => True) (Q := Q) (fun v _ => hfailed [] v) w x w' trivial hrun

/-- Writing goes on or ends, but does not fail itself. -/
theorem throws_writeEach {P : Workspace → Prop} {E : Engine.Error → Workspace → Prop} (onward : Bool) (b : Batch) :
    Throws P (writeEach root limit onward b) E := by
  induction b generalizing P with
  | nil => exact throws_pure _
  | cons p rest ih =>
    have hone : Throws P (writeInTime root limit p) E := fun _ _ _ _ hrun => nomatch (Prod.mk.inj hrun).1
    refine hone.bind yields_any fun r => ?_
    cases r with
    | ok a => exact ih.bind yields_any fun _ => throws_pure _
    | error err =>
      dsimp only
      split
      · exact ih.bind yields_any fun _ => throws_pure _
      · exact throws_pure _

end Batch

/-! ## The cycle -/

namespace Run

variable {α : Type} {P : Cycle → Prop} {F : Engine.Error → Prop} {act : Workspace.Step α}

/-- The cycle is not changed by what is done to the workspace. -/
theorem throws_onWorkspace (h : Throws (fun _ => True) act fun err _ => F err) :
    Throws (fun r => P r.cycle) (onWorkspace act) fun err r => P r.cycle ∧ F err := by
  intro r err r' hr hrun
  rw [exec_onWorkspace] at hrun
  obtain ⟨herr, rfl⟩ := Prod.mk.inj hrun
  exact ⟨hr, h r.workspace err _ trivial (Prod.ext herr rfl)⟩

theorem yields_onWorkspace_cycle {Q : α → Prop} (h : Yields (fun _ => True) act fun a _ => Q a) :
    Yields (fun r => P r.cycle) (onWorkspace act) fun a r => P r.cycle ∧ Q a := by
  intro r a r' hr hrun
  rw [exec_onWorkspace] at hrun
  obtain ⟨ha, rfl⟩ := Prod.mk.inj hrun
  exact ⟨hr, h r.workspace a _ trivial (Prod.ext ha rfl)⟩

end Run

namespace Engine

variable {e : Engine} {id : CycleId} {now : Time} {w w' : Workspace} {a : Acting}

theorem within_inTime {rs : List String} (phase : Phase) (limit : Option Nat) (millis : Nat) :
    Throws (fun _ => True) (inTime phase limit millis) fun err _ => err.Within rs := by
  refine throws_query fun w err _ herr => ?_
  cases limit with
  | none => cases herr
  | some l =>
    dsimp only at herr
    split at herr
    · obtain rfl := Except.error.inj herr
      exact ⟨rfl, nofun, nofun⟩
    · cases herr

theorem within_verify (rs : List String) (limit : Option Nat) (report : Report) :
    Throws (fun _ => True) (e.verify limit report) fun err _ => err.Within rs := by
  have hanalyze : Throws (fun _ => True) e.analyze fun err _ => err.Within rs :=
    fun _ _ _ _ hrun => nomatch (Prod.mk.inj hrun).1
  have hbuild : Throws (fun _ => True) e.build fun err _ => err.Within rs :=
    fun _ _ _ _ hrun => nomatch (Prod.mk.inj hrun).1
  refine hanalyze.bind yields_any fun ⟨after, analyzing⟩ => (within_inTime _ _ _).bind yields_any fun _ => ?_
  cases after with
  | error cause => exact throws_throw fun _ _ => ⟨rfl, nofun, nofun⟩
  | ok after =>
    refine hbuild.bind yields_any fun ⟨build, building⟩ => (within_inTime _ _ _).bind yields_any fun _ => ?_
    cases build with
    | error cause => exact throws_throw fun _ _ => ⟨rfl, nofun, nofun⟩
    | ok build => exact throws_pure _

/-- A cycle that works with some recipes, each of which it knows once. -/
structure Works (id : CycleId) (walk : Walk) (rs : List String) (c : Cycle) : Prop where
  id : c.id = id
  walk : c.walk = walk
  recipes : c.recipes = rs
  nodup : rs.Nodup

theorem works_begun (id : CycleId) (d : Decision Score) : Works id toAct d.recipes (begun id d) :=
  ⟨rfl, rfl, rfl, (Decision.distinct_spec _).1⟩

section

variable {rs : List String} {fixes : List (Fix Score)} {limit : Option Deadline}

/-- The recipes of a cycle that has its batch are those of the batch. -/
theorem yields_prepare : Yields (fun r => Works id toAct rs r.cycle) (e.prepare fixes limit now) fun b r =>
    Works id toAct b.recipes r.cycle := by
  intro r b r' hr hrun
  rcases prepare_cases hrun with ⟨error, -, hres, -⟩ | ⟨b', v, -, v', ⟨⟨error, -, hres⟩, -⟩ | ⟨-, hres, rfl⟩⟩
  · cases hres
  · cases hres
  · obtain rfl : b = b' := by
      rcases hres with hres | ⟨error, hres⟩
      · exact Except.ok.inj hres
      · cases hres
    exact ⟨hr.id, hr.walk, rfl, (Decision.distinct_spec _).1⟩

/-- A failure before the batch is complete may be that of a selected recipe. Later no single recipe can fail. -/
theorem throws_prepare (hfixes : fixes.map Fix.recipe ⊆ rs) :
    Throws (fun r => Works id toAct rs r.cycle) (e.prepare fixes limit now) fun err r =>
      ∃ rs', Works id toAct rs' r.cycle ∧ err.Within rs' := by
  have hbatch : Throws (fun r => Works id toAct rs r.cycle) (Run.onWorkspace (Batch.prepare e.registry e.config.maxLines
      e.root limit fixes)) fun err r => ∃ rs', Works id toAct rs' r.cycle ∧ err.Within rs' := by
    intro r err r' hr hrun
    obtain ⟨hr', herr⟩ := Run.throws_onWorkspace (Batch.throws_prepare fixes) r err r' hr hrun
    exact ⟨rs, hr', herr.mono hfixes⟩
  refine hbatch.bind (Run.keeps_cycle _).yields fun b => ?_
  have hchange : Yields (fun r => Works id toAct rs r.cycle) (Run.change fun c => { c with recipes := b.recipes })
      fun _ r => Works id toAct b.recipes r.cycle := by
    intro r _ r' hr hrun
    obtain ⟨-, rfl⟩ := Prod.mk.inj hrun
    exact ⟨hr.id, hr.walk, rfl, (Decision.distinct_spec _).1⟩
  refine (throws_modify _).bind hchange fun _ => throws_get.bind keeps_get.yields fun r => ?_
  have hstep {α : Type} {act : Workspace.Step α} (h : Throws (fun _ => True) act fun err _ => err.Within b.recipes) :
      Throws (fun r => Works id toAct b.recipes r.cycle) (Run.onWorkspace act) fun err r =>
        ∃ rs', Works id toAct rs' r.cycle ∧ err.Within rs' :=
    fun r err r' hr hrun => ⟨b.recipes, Run.throws_onWorkspace h r err r' hr hrun⟩
  have htake : Throws (fun _ => True) (Workspace.onSnapshots (Snapshot.take r.cycle.id (List.map Prepared.capture b)
      e.config.retention now)) fun err _ => err.Within b.recipes := by
    intro w err w' _ hrun
    obtain ⟨herr, -⟩ := Prod.mk.inj hrun
    exact throws_mapError (P := fun _ => True) (E := fun err _ => err.Within b.recipes)
      (fun cause _ => Error.within_ledger _ cause) _ err _ trivial (Prod.ext herr rfl)
  refine (hstep htake).bind (Run.keeps_cycle _).yields fun _ => ?_
  refine (throws_modify _).bind (Keeps.yields fun r hr => ⟨hr.id, hr.walk, hr.recipes, hr.nodup⟩) fun _ => ?_
  refine (hstep (throws_modify _)).bind (Run.keeps_cycle _).yields fun _ => ?_
  refine Throws.bind (throws_query fun r err hr herr => ?_) yields_any fun _ => throws_pure _
  exact ⟨b.recipes, hr, Error.within_check herr⟩

/-- **Whom a failure speaks against.** A cycle that acted knows each of its recipes once. If that failed, it speaks
against none of them, unless the failure names the one that failed. -/
theorem act_blame (hfixes : fixes.map Fix.recipe ⊆ rs) (report : Report) :
    Meets (fun r => Works id toAct rs r.cycle) (e.act report fixes now)
      (fun v r => (∃ rs', Works id toVerify rs' r.cycle) ∧
        ∃ after build, v = .of report.count after build e.config.marginalImprovement)
      (fun err r => ∃ walk rs', (walk = toAct ∨ walk = toVerify) ∧ Works id walk rs' r.cycle ∧ err.Within rs') := by
  let E (err : Engine.Error) (r : Run) : Prop :=
    ∃ walk rs', (walk = toAct ∨ walk = toVerify) ∧ Works id walk rs' r.cycle ∧ err.Within rs'
  have hprepare (limit : Option Deadline) : Meets (fun r => Works id toAct rs r.cycle) (e.prepare fixes limit now)
      (fun b r => Works id toAct b.recipes r.cycle) E := by
    refine ⟨yields_prepare, fun r err r' hr hrun => ?_⟩
    obtain ⟨rs', hr', herr⟩ := throws_prepare hfixes r err r' hr hrun
    exact ⟨toAct, rs', .inl rfl, hr', herr⟩
  have hwrite (b : Batch) (limit : Option Deadline) : Meets (fun r => Works id toAct b.recipes r.cycle)
      (Run.onWorkspace (Batch.write e.root e.config.parallel limit b))
      (fun x r => Works id toAct b.recipes r.cycle ∧ ∀ err ∈ x.2, err.Within b.recipes) E := by
    refine ⟨Run.yields_onWorkspace_cycle (Batch.within_writeEach b.recipes _ b), fun r err r' _ hrun => ?_⟩
    exact (Batch.throws_writeEach (P := fun _ => True) (E := fun _ _ => False) _ b _ err _ trivial
      (Prod.ext (Prod.mk.inj hrun).1 rfl)).elim
  have henter (rs' : List String) : Meets (fun r => Works id toAct rs' r.cycle) (Run.enter .verify)
      (fun _ r => Works id toVerify rs' r.cycle) E := by
    constructor
    · intro r _ r' hr hrun
      rw [Run.exec_enter (w := toVerify) (by rw [hr.walk]; rfl)] at hrun
      obtain ⟨-, rfl⟩ := Prod.mk.inj hrun
      exact ⟨hr.id, rfl, hr.recipes, hr.nodup⟩
    · intro r err r' hr hrun
      rw [Run.exec_enter (w := toVerify) (by rw [hr.walk]; rfl)] at hrun
      cases (Prod.mk.inj hrun).1
  have hverify (rs' : List String) : Meets (fun r => Works id toVerify rs' r.cycle)
      (Run.onWorkspace (e.verify (e.limit? .verify) report)) (fun v r => (∃ rs', Works id toVerify rs' r.cycle) ∧
        ∃ after build, v = .of report.count after build e.config.marginalImprovement) E := by
    constructor
    · intro r v r' hr hrun
      obtain ⟨hr', hv⟩ := Run.yields_onWorkspace_cycle (yields_verify _ _) r v r' hr hrun
      exact ⟨⟨rs', hr'⟩, hv⟩
    · intro r err r' hr hrun
      obtain ⟨hr', herr⟩ := Run.throws_onWorkspace (within_verify rs' _ report) r err r' hr hrun
      exact ⟨toVerify, rs', .inr rfl, hr', herr⟩
  refine meets_get.bind fun _ => (hprepare _).bind fun b => (hwrite b _).bind fun ⟨applied, failed⟩ => ?_
  cases failed with
  | some err =>
    refine (meets_modify fun r hr => ?_).bind fun _ => meets_throw fun r hr => ⟨toAct, b.recipes, .inl rfl, hr⟩
    exact ⟨⟨hr.1.id, hr.1.walk, hr.1.recipes, hr.1.nodup⟩, hr.2 err rfl⟩
  | none =>
    refine (meets_modify fun r hr => ?_).bind fun _ => (henter b.recipes).bind fun _ => hverify b.recipes
    exact ⟨hr.1.id, hr.1.walk, hr.1.recipes, hr.1.nodup⟩

end

theorem verdict_ne_failure {v : Verification} (h : v.failure? = none) : v.verdict ≠ .failure := by
  intro hfailure
  rw [Verification.failure?, if_neg (by simp [hfailure])] at h
  split at h <;> cases h

/-- What became of a cycle that failed: no recipe can be blamed but the one that its failure names, or verifying was not
passed, and then all of them are. -/
structure Failure.Blamed (c : Failure) (id : CycleId) : Prop where
  walk : c.run.cycle.walk = toAct ∨ c.run.cycle.walk = toVerify
  id : c.run.cycle.id = id
  nodup : c.run.cycle.recipes.Nodup
  error : c.verification = none ∧ c.error.Within c.run.cycle.recipes ∨
    ∃ v, c.verification = some v ∧ v.before = c.acting.report.count ∧ v.failure? = some c.error

/-- A cycle starts to act with the recipes that were selected. -/
theorem acting_works {a : Acting} (ha : e.acting? id now w = some a) :
    Works id toAct a.decision.recipes a.run.cycle ∧ a.decision.selected.map Fix.recipe ⊆ a.decision.recipes := by
  obtain ⟨l, locked, -, -, -, hcycle⟩ := acting_of_some ha
  exact ⟨hcycle ▸ works_begun id a.decision, fun r hr => ((Decision.distinct_spec _).2 r).mpr hr⟩

theorem failure_blame {c : Failure} (h : c ∈ e.failure? id now w) : c.Blamed id := by
  rw [failure?, Option.mem_def, Option.bind_eq_some_iff] at h
  obtain ⟨a, ha, h⟩ := h
  obtain ⟨hworks, hfixes⟩ := acting_works ha
  rcases hact : (e.act a.report a.decision.selected now).exec a.run with ⟨error | v, run⟩
  · simp only [hact] at h
    obtain rfl := Option.some.inj h
    obtain ⟨walk, rs, hwalk, hrun, herror⟩ := (act_blame hfixes a.report).throws _ _ _ hworks hact
    exact ⟨by rwa [hrun.walk], hrun.id, hrun.recipes ▸ hrun.nodup, .inl ⟨rfl, hrun.recipes ▸ herror⟩⟩
  · simp only [hact] at h
    obtain ⟨error, hfailure, rfl⟩ := Option.map_eq_some_iff.mp h
    obtain ⟨⟨rs, hrun⟩, after, build, rfl⟩ := (act_blame hfixes a.report).yields _ _ _ hworks hact
    exact ⟨.inr hrun.walk, hrun.id, hrun.recipes ▸ hrun.nodup, .inr ⟨_, rfl, rfl, hfailure⟩⟩

end Engine
end Mend
