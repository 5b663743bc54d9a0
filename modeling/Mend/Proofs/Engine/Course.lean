import Mend.Proofs.Engine.Blame

/-!
# The course of the phases

A phase only ever follows where it may, and so the phases of a cycle are the beginning of one of four courses
(`OnCourse.advance` for one phase, `meets_drive` for the whole cycle). A cycle never tries a phase that may not
follow: it knows where it stands when it ends, however acting and verifying have failed (`Failing`). What its result
tells fits the course that it took, and it only tells of an improvement that was verified (**`runCycle_course`**).
-/

namespace Mend

open Action Ledger

/-! ## Walks -/

namespace Walk

/-- The courses that a cycle can take. -/
def courses : List (List Phase) :=
  [[.observe, .decide, .done], [.observe, .decide, .act, .rolledBack],
    [.observe, .decide, .act, .verify, .rolledBack], [.observe, .decide, .act, .verify, .learn, .done]]

/-- The phases that were entered begin a course, and the current one is the last of them. -/
structure OnCourse (w : Walk) : Prop where
  begins : ∃ c ∈ courses, w.visited <+: c
  current : w.visited.getLast? = some w.current

theorem onCourse_start : start.OnCourse := ⟨⟨_, List.mem_cons_self, by decide⟩, rfl⟩

/-- A phase more is still on a course. -/
theorem OnCourse.advance {w w' : Walk} {p : Phase} (h : w.OnCourse) (hp : w.advance? p = some w') : w'.OnCourse := by
  -- a course has finitely many beginnings
  have hall : ∀ v ∈ courses.flatMap List.inits, ∀ q ∈ v.getLast?, ∀ p ∈ q.next, ∃ c ∈ courses, v ++ [p] <+: c := by
    decide
  rw [advance?] at hp
  split at hp
  swap
  · cases hp
  next hnext =>
  obtain rfl := Option.some.inj hp
  obtain ⟨c, hc, hbegins⟩ := h.begins
  refine ⟨hall w.visited ?_ _ h.current p (by simpa [Phase.leadsTo] using hnext), List.getLast?_concat⟩
  exact List.mem_flatMap.mpr ⟨c, hc, (List.mem_inits _ _).mpr hbegins⟩

end Walk

/-- The failure is not that of a phase that may not follow. -/
def Engine.Error.Legal (err : Engine.Error) : Prop := ∀ p q, err ≠ .illegalTransition p q

/-! ## Failures of the workspace -/

namespace Workspace

variable {α : Type} {P : Workspace → Prop}

/-- The action does not fail with a phase that may not follow. -/
abbrev Lawful (act : Step α) : Prop := Throws (fun _ => True) act fun err _ => err.Legal

theorem lawful_zoom {σ : Type} {get : Workspace → σ} {set : σ → Workspace → Workspace} (act : Action σ Ledger.Error α) :
    Lawful ((act.mapError Engine.Error.ledger).zoom get set) := by
  intro w err w' _ hrun
  obtain ⟨herr, -⟩ := Prod.mk.inj hrun
  exact throws_mapError (P := fun _ => True) (E := fun err _ => err.Legal) (fun _ _ => nofun) _ err _ trivial
    (Prod.ext herr rfl)

theorem lawful_onTrust (act : Action Trust.Session Ledger.Error α) : Lawful (onTrust act) := lawful_zoom act

theorem lawful_onHistory (act : Action History.Session Ledger.Error α) : Lawful (onHistory act) := lawful_zoom act

theorem lawful_onAttestations (act : Action Attestation.Session Ledger.Error α) : Lawful (onAttestations act) :=
  lawful_zoom act

theorem lawful_onSnapshots (act : Action Snapshot.Session Ledger.Error α) : Lawful (onSnapshots act) := lawful_zoom act

theorem lawful_onLocks (act : Action Ledger.Locks Ledger.Error α) : Lawful (onLocks act) := lawful_zoom act

theorem lawful_pause (p : Point) : Lawful (pause p) := throws_modify _

theorem lawful_openTrust : Lawful openTrust := by
  refine throws_get.bind yields_any fun w => ?_
  cases w.trust.file with
  | none => exact throws_pure _
  | some p =>
    intro w err w' _ hrun
    dsimp only at hrun
    rw [exec_update] at hrun
    cases hopen : Trust.Store.open p w.disk with
    | ok store => rw [hopen] at hrun; cases (Prod.mk.inj hrun).1
    | error cause =>
      rw [hopen] at hrun
      obtain rfl := Except.error.inj (Prod.mk.inj hrun).1
      nofun

theorem lawful_learn (id : CycleId) (ls : List Lesson) (delta : History.Delta) (rate : Float) (now : Time) :
    Lawful (Lesson.learn id ls delta rate now) := by
  refine (lawful_onHistory _).bind yields_any fun _ => Throws.mapM fun l _ => ?_
  exact (lawful_onTrust _).bind yields_any fun _ => throws_pure _

end Workspace

/-! ## Steps of a cycle -/

/-- The cycle has come that far, and it has a snapshot if it has written. -/
structure Cycle.At (walk : Walk) (c : Cycle) : Prop where
  walk : c.walk = walk
  backed : c.applied ≠ [] → c.snapshot ≠ none

namespace Run

variable {α : Type} {P Q F : Cycle → Prop} {walk walk' : Walk}

/-- What is known of a cycle that fails, and that it does not fail with a phase that may not follow. -/
def Halts (F : Cycle → Prop) (err : Engine.Error) (r : Run) : Prop := F r.cycle ∧ err.Legal

theorem meets_onWorkspace {act : Workspace.Step α} (hact : Workspace.Lawful act) (hP : ∀ c, P c → F c) :
    Meets (fun r => P r.cycle) (onWorkspace act) (fun _ r => P r.cycle) (Halts F) := by
  refine ⟨(keeps_cycle act).yields, fun r err r' hr hrun => ?_⟩
  obtain ⟨hr', herr⟩ := throws_onWorkspace (P := P) hact r err r' hr hrun
  exact ⟨hP _ hr', herr⟩

/-- A phase is entered that may follow. -/
theorem meets_enter {E : Engine.Error → Run → Prop} {p : Phase} (h : walk.advance? p = some walk') :
    Meets (fun r => r.cycle.At walk) (enter p) (fun _ r => r.cycle.At walk') E := by
  constructor
  · intro r _ r' hr hrun
    rw [exec_enter (hr.walk ▸ h)] at hrun
    obtain ⟨-, rfl⟩ := Prod.mk.inj hrun
    exact ⟨rfl, hr.backed⟩
  · intro r err r' hr hrun
    rw [exec_enter (hr.walk ▸ h)] at hrun
    cases (Prod.mk.inj hrun).1

end Run

/-- A failure is what was rolled back, and tells so. A success tells that things are not worse than before. What was
written has a snapshot. -/
structure CycleResult.Consistent (r : CycleResult) : Prop where
  done : r.phase = .done ↔ r.verdict = .success ∨ r.verdict = .partly ∨ r.verdict = .noop
  rolledBack : r.phase = .rolledBack ↔ r.verdict = .failure
  exitCode : r.exitCode = 1 ↔ r.phase = .rolledBack
  error : r.error = none ↔ r.verdict = .success ∨ r.verdict = .partly
  legal : ∀ err ∈ r.error, err.Legal
  snapshot : r.files ≠ [] → r.snapshot ≠ none
  improved : r.verdict = .success ∨ r.verdict = .partly → r.after ≤ r.before

namespace Engine

open Run

variable {e : Engine} {id : CycleId} {now : Time} {w w' : Workspace}

/-- Where a cycle decides. -/
def toDecide : Walk := ⟨.decide, [.observe, .decide]⟩

/-- Where a cycle learns. -/
def toLearn : Walk := ⟨.learn, [.observe, .decide, .act, .verify, .learn]⟩

/-- The cycle is on a course. -/
def Coursing (c : Cycle) : Prop := c.walk.OnCourse

theorem Coursing.of_at {walk : Walk} (hwalk : walk.OnCourse) (c : Cycle) (h : c.At walk) : Coursing c := by
  rw [Coursing, h.walk]
  exact hwalk

theorem onCourse_toDecide : toDecide.OnCourse := Walk.onCourse_start.advance (p := .decide) rfl

theorem onCourse_toAct : toAct.OnCourse := onCourse_toDecide.advance (p := .act) rfl

theorem onCourse_toVerify : toVerify.OnCourse := onCourse_toAct.advance (p := .verify) rfl

theorem onCourse_toLearn : toLearn.OnCourse := onCourse_toVerify.advance (p := .learn) rfl

/-! ### Surveying -/

theorem lawful_inTime (phase : Phase) (limit : Option Nat) (millis : Nat) :
    Workspace.Lawful (inTime phase limit millis) := by
  refine throws_query fun w err _ herr => ?_
  cases limit with
  | none => cases herr
  | some l =>
    dsimp only at herr
    split at herr
    · obtain rfl := Except.error.inj herr
      nofun
    · cases herr

theorem lawful_observe : Workspace.Lawful (e.observe now) := by
  have hanalyze : Workspace.Lawful e.analyze := fun _ _ _ _ hrun => nomatch (Prod.mk.inj hrun).1
  refine hanalyze.bind yields_any fun ⟨result, millis⟩ => (Workspace.lawful_pause _).bind yields_any fun _ =>
    (lawful_inTime _ _ _).bind yields_any fun _ => ?_
  cases result with
  | error cause => exact throws_throw fun _ _ => nofun
  | ok report =>
    dsimp only
    split
    · exact throws_throw fun _ _ => nofun
    · exact throws_pure _

theorem lawful_decide (report : Report) : Workspace.Lawful (e.decide report) :=
  throws_get.bind yields_any fun _ => (Workspace.lawful_pause _).bind yields_any fun _ =>
    throws_get.bind yields_any fun _ => (lawful_inTime _ _ _).bind yields_any fun _ => throws_pure _

theorem meets_survey : Meets (fun r => r.cycle.At .start) (e.survey now) (fun _ r => r.cycle.At toDecide)
    (Halts Coursing) := by
  have hstart {α : Type} {act : Workspace.Step α} (h : Workspace.Lawful act) :
      Meets (fun r => r.cycle.At .start) (onWorkspace act) (fun _ r => r.cycle.At .start) (Halts Coursing) :=
    meets_onWorkspace h (Coursing.of_at Walk.onCourse_start)
  have hdecide (report : Report) : Meets (fun r => r.cycle.At toDecide) (onWorkspace (e.decide report))
      (fun _ r => r.cycle.At toDecide) (Halts Coursing) :=
    meets_onWorkspace (lawful_decide report) (Coursing.of_at onCourse_toDecide)
  refine (hstart lawful_observe).bind fun report => (hstart Workspace.lawful_openTrust).bind fun _ => ?_
  refine (Meets.forM fun id _ => hstart (Workspace.lawful_onTrust _)).bind fun _ => ?_
  exact (meets_enter rfl).bind fun _ => (hdecide report).bind fun d => meets_pure fun _ hr => hr

/-! ### Acting -/

/-- Where a cycle fails that acts. -/
def Failing (c : Cycle) : Prop := c.At toAct ∨ c.At toVerify

/-- A cycle whose batch is prepared has a snapshot. -/
theorem meets_prepare (fixes : List (Fix Score)) (limit : Option Deadline) :
    Meets (fun r => r.cycle.At toAct) (e.prepare fixes limit now)
      (fun _ r => r.cycle.At toAct ∧ r.cycle.snapshot ≠ none) (Halts Failing) := by
  have hstep {α : Type} {act : Workspace.Step α} (h : Workspace.Lawful act) :
      Meets (fun r => r.cycle.At toAct) (onWorkspace act) (fun _ r => r.cycle.At toAct) (Halts Failing) :=
    meets_onWorkspace h fun _ => .inl
  have hbatch : Workspace.Lawful (Batch.prepare e.registry e.config.maxLines e.root limit fixes) :=
    fun w err w' hw hrun => (Batch.throws_prepare fixes w err w' hw hrun).2.2
  let Saved (c : Cycle) : Prop := c.At toAct ∧ c.snapshot ≠ none
  have hpause : Meets (fun r => Saved r.cycle) (onWorkspace (Workspace.pause .saved)) (fun _ r => Saved r.cycle)
      (Halts Failing) := meets_onWorkspace (Workspace.lawful_pause _) fun _ hc => .inl hc.1
  have hcheck : Meets (fun r => Saved r.cycle) (Action.query fun r : Run => checkDeadline limit r.workspace.clock)
      (fun _ r => Saved r.cycle) (Halts Failing) :=
    ⟨(keeps_query _).yields, throws_query fun r err hr herr =>
      ⟨.inl hr.1, (show err.Within [] from Error.within_check herr).2.2⟩⟩
  have hrecipes (rs : List String) : Meets (fun r => r.cycle.At toAct) (change fun c => { c with recipes := rs })
      (fun _ r => r.cycle.At toAct) (Halts Failing) := meets_modify fun r hr => ⟨hr.walk, hr.backed⟩
  have hsnapshot (id : CycleId) : Meets (fun r => r.cycle.At toAct) (change fun c => { c with snapshot := some id })
      (fun _ r => Saved r.cycle) (Halts Failing) := meets_modify fun r hr => ⟨⟨hr.walk, nofun⟩, nofun⟩
  refine (hstep hbatch).bind fun b => (hrecipes _).bind fun _ => meets_get.bind fun r => ?_
  refine (hstep (Workspace.lawful_onSnapshots _)).bind fun _ => (hsnapshot _).bind fun _ => ?_
  exact hpause.bind fun _ => hcheck.bind fun _ => meets_pure fun _ hr => hr

/-- The verification was judged by what the build came to. -/
def Judged (e : Engine) (report : Report) (v : Verification) : Prop :=
  (∃ after build, v = .of report.count after build e.config.marginalImprovement) ∧
    ∃ d, (e.tools.build d).result = .ok v.build

/-- What was verified is what the build came to. -/
theorem yields_verify_built (limit : Option Nat) (report : Report) :
    Yields (fun _ => True) (e.verify limit report) fun v _ => ∃ d, (e.tools.build d).result = .ok v.build := by
  have hbuild : Yields (fun _ => True) e.build fun x _ => ∃ d, (e.tools.build d).result = x.1 := by
    intro w x w' _ hrun
    obtain rfl := Except.ok.inj (Prod.mk.inj hrun).1
    exact ⟨w.disk, rfl⟩
  refine yields_any.bind fun ⟨after, analyzing⟩ => yields_any.bind fun _ => ?_
  cases after with
  | error cause => exact fun w a w' _ hrun => nomatch (Prod.mk.inj hrun).1
  | ok after =>
    refine hbuild.bind fun ⟨build, building⟩ => (keeps_query _).yields.bind fun _ => ?_
    cases build with
    | error cause => exact fun w a w' _ hrun => nomatch (Prod.mk.inj hrun).1
    | ok build => exact yields_pure fun _ hd => hd

theorem yields_verify_judged (limit : Option Nat) (report : Report) :
    Yields (fun _ => True) (e.verify limit report) fun v _ => e.Judged report v := fun w v w' hw hrun =>
  ⟨yields_verify limit report w v w' hw hrun, yields_verify_built limit report w v w' hw hrun⟩

/-- A cycle that acted has verified, or it fails where it acts or verifies. -/
theorem meets_act (report : Report) (fixes : List (Fix Score)) :
    Meets (fun r => r.cycle.At toAct) (e.act report fixes now)
      (fun v r => r.cycle.At toVerify ∧ e.Judged report v) (Halts Failing) := by
  let Saved (c : Cycle) : Prop := c.At toAct ∧ c.snapshot ≠ none
  have hwrite (b : Batch) (limit : Option Deadline) : Meets (fun r => Saved r.cycle)
      (onWorkspace (Batch.write e.root e.config.parallel limit b))
      (fun x r => Saved r.cycle ∧ ∀ err ∈ x.2, err.Legal) (Halts Failing) := by
    have hlegal : Yields (fun _ => True) (Batch.write e.root e.config.parallel limit b) fun x _ => ∀ err ∈ x.2, err.Legal :=
      fun w x w' hw hrun err herr => (Batch.within_writeEach [] _ b w x w' hw hrun err herr).2.2
    refine ⟨yields_onWorkspace_cycle hlegal, fun r err r' _ hrun => ?_⟩
    exact (Batch.throws_writeEach (P := fun _ => True) (E := fun _ _ => False) _ b _ err _ trivial
      (Prod.ext (Prod.mk.inj hrun).1 rfl)).elim
  have hverify : Meets (fun r => r.cycle.At toVerify) (onWorkspace (e.verify (e.limit? .verify) report))
      (fun v r => r.cycle.At toVerify ∧ e.Judged report v) (Halts Failing) := by
    refine ⟨yields_onWorkspace_cycle (yields_verify_judged _ _), fun r err r' hr hrun => ?_⟩
    obtain ⟨hr', herr⟩ := throws_onWorkspace (within_verify [] _ report) r err r' hr hrun
    exact ⟨.inr hr', herr.2.2⟩
  refine meets_get.bind fun _ => (meets_prepare fixes _).bind fun b => (hwrite b _).bind fun ⟨applied, failed⟩ => ?_
  cases failed with
  | some err =>
    refine (meets_modify fun r hr => ?_).bind fun _ => meets_throw fun r hr => hr
    exact ⟨.inl ⟨hr.1.1.walk, fun _ => hr.1.2⟩, hr.2 err rfl⟩
  | none =>
    refine Meets.bind (Q := fun _ r => r.cycle.At toAct) (meets_modify fun r hr => ?_) fun _ => ?_
    · exact ⟨hr.1.1.walk, fun _ => hr.1.2⟩
    · exact (meets_enter rfl).bind fun _ => hverify

/-! ### Ending -/

/-- The cycle has taken a whole course, and its result fits it. -/
def Concluded (res : CycleResult) (r : Run) : Prop :=
  r.cycle.walk.visited ∈ Walk.courses ∧ r.cycle.walk.OnCourse ∧ r.cycle.walk.current = res.phase ∧ res.Consistent

theorem meets_attest {walk : Walk} (hwalk : walk.OnCourse) (before after : Count) (verdict : Verdict) :
    Meets (fun r => r.cycle.At walk) (attest before after verdict now) (fun _ r => r.cycle.At walk) (Halts Coursing) :=
  meets_get.bind fun _ => (meets_onWorkspace (Workspace.lawful_onAttestations _) (Coursing.of_at hwalk)).bind fun _ =>
    meets_pure fun _ hr => hr

theorem meets_learn {walk : Walk} (hwalk : walk.OnCourse) (ls : List Lesson) (report : Report) (v : Option Verification) :
    Meets (fun r => r.cycle.At walk) (e.learn ls report v now) (fun _ r => r.cycle.At walk) (Halts Coursing) :=
  meets_get.bind fun _ => (meets_onWorkspace (Workspace.lawful_learn _ _ _ _ _) (Coursing.of_at hwalk)).bind fun _ =>
    meets_pure fun _ hr => hr

/-- The result is that of a cycle that has taken a whole course. -/
theorem meets_result {walk : Walk} {verdict : Verdict} {before after : Count} {error : Option Engine.Error}
    {digest : Digest} {E : Engine.Error → Run → Prop} (hwalk : walk.OnCourse) (hwhole : walk.visited ∈ Walk.courses)
    (h : ∀ res : CycleResult, res.phase = walk.current → res.verdict = verdict → res.before = before →
      res.after = after → res.error = error → (res.files ≠ [] → res.snapshot ≠ none) → res.Consistent) :
    Meets (fun r => r.cycle.At walk) (result verdict before after error digest) Concluded E := by
  refine ⟨fun r res r' hr hrun => ?_, fun r err r' _ hrun => nomatch (Prod.mk.inj hrun).1⟩
  obtain ⟨hres, rfl⟩ := Prod.mk.inj hrun
  obtain rfl := Except.ok.inj hres
  refine ⟨by rw [hr.walk]; exact hwhole, by rw [hr.walk]; exact hwalk, rfl, ?_⟩
  refine h _ (by rw [hr.walk]) rfl rfl rfl rfl fun hfiles => hr.backed fun hnone => hfiles ?_
  rw [filesWritten, hnone, List.map_nil]

theorem meets_finishIdle (report : Report) :
    Meets (fun r => r.cycle.At toDecide) (finishIdle report now) Concluded (Halts Coursing) := by
  let ended : Walk := ⟨.done, [.observe, .decide, .done]⟩
  have hended : ended.OnCourse := onCourse_toDecide.advance (p := .done) rfl
  have henter : Meets (fun r => r.cycle.At toDecide) (Run.enter .done) (fun _ r => r.cycle.At ended)
      (Halts Coursing) := meets_enter rfl
  refine henter.bind fun _ => (meets_attest hended _ _ _).bind fun digest => ?_
  refine meets_result hended (by decide) fun res hphase hverdict _ _ herror hbacked => ?_
  have hexit : res.exitCode = 0 := by simp [CycleResult.exitCode, hverdict, hphase, ended]
  exact ⟨by simp [hphase, hverdict, ended], by simp [hphase, hverdict, ended], by simp [hexit, hphase, ended],
    by simp [herror, hverdict], by simp [herror, Error.Legal], hbacked, by simp [hverdict]⟩

/-- A verification that tells no failure is that of a build that passed, and of no more issues than before. -/
theorem Judged.improved {report : Report} {v : Verification} (h : e.Judged report v) (hnone : v.failure? = none) :
    (v.verdict = .success ∨ v.verdict = .partly) ∧ v.build.passed = true ∧ v.after ≤ v.before := by
  obtain ⟨⟨after, build, rfl⟩, -⟩ := h
  have hverdict := verdict_ne_failure hnone
  have hnoop := Verdict.judge_ne_noop report.count after build.passed e.config.marginalImprovement
  refine ⟨?_, Verdict.judge_ne_failure hverdict⟩
  rw [show (Verification.of report.count after build e.config.marginalImprovement).verdict =
    .judge report.count after build.passed e.config.marginalImprovement from rfl] at *
  cases hjudge : Verdict.judge report.count after build.passed e.config.marginalImprovement with
  | success => exact .inl rfl
  | partly => exact .inr rfl
  | failure => exact absurd hjudge hverdict
  | noop => exact absurd hjudge hnoop

theorem meets_finishLearned {report : Report} {v : Verification} (h : e.Judged report v) (hnone : v.failure? = none) :
    Meets (fun r => r.cycle.At toVerify) (e.finishLearned report v now) Concluded (Halts Coursing) := by
  let ended : Walk := ⟨.done, [.observe, .decide, .act, .verify, .learn, .done]⟩
  have hended : ended.OnCourse := onCourse_toLearn.advance (p := .done) rfl
  obtain ⟨hverdict, -, hle⟩ := h.improved hnone
  have hlearn : Meets (fun r => r.cycle.At toVerify) (Run.enter .learn) (fun _ r => r.cycle.At toLearn)
      (Halts Coursing) := meets_enter rfl
  have henter : Meets (fun r => r.cycle.At toLearn) (Run.enter .done) (fun _ r => r.cycle.At ended)
      (Halts Coursing) := meets_enter rfl
  refine hlearn.bind fun _ => meets_get.bind fun r => ?_
  refine (meets_learn onCourse_toLearn _ _ _).bind fun _ => (meets_attest onCourse_toLearn _ _ _).bind fun digest => ?_
  refine henter.bind fun _ => ?_
  refine meets_result hended (by decide) fun res hphase hres hbefore hafter herror hbacked => ?_
  have hne : res.verdict ≠ .failure := by
    rw [hres]
    rcases hverdict with hverdict | hverdict <;> simp [hverdict]
  have hexit : res.exitCode = 0 := by simp [CycleResult.exitCode, hne, hphase, ended]
  rw [← hres] at hverdict
  exact ⟨by simp [hphase, ended, ← or_assoc, hverdict], by simp [hphase, ended, hne], by simp [hexit, hphase, ended],
    by simp [herror, hverdict], by simp [herror], hbacked, fun _ => by rw [hbefore, hafter]; exact hle⟩

theorem meets_restoreCycle {walk : Walk} (hwalk : walk.OnCourse) :
    Meets (fun r => r.cycle.At walk) e.restoreCycle (fun _ r => r.cycle.At walk) (Halts Coursing) := by
  have hstep {α : Type} {act : Workspace.Step α} (h : Workspace.Lawful act) :
      Meets (fun r => r.cycle.At walk) (onWorkspace act) (fun _ r => r.cycle.At walk) (Halts Coursing) :=
    meets_onWorkspace h (Coursing.of_at hwalk)
  refine (hstep (Workspace.lawful_pause _)).bind fun _ => meets_get.bind ?_
  rintro ⟨⟨id, walk, recipes, _ | snapshot, applied⟩, w⟩
  · exact meets_pure fun _ hr => hr
  · refine (hstep (Workspace.lawful_onSnapshots _)).bind fun res => ?_
    cases res <;> exact meets_pure fun _ hr => hr

theorem meets_rollBack {walk walk' : Walk} (hwalk : walk.OnCourse) (hadvance : walk.advance? .rolledBack = some walk')
    (hwhole : walk'.visited ∈ Walk.courses) {error : Engine.Error} (herror : error.Legal) (report : Report)
    (v : Option Verification) :
    Meets (fun r => r.cycle.At walk) (e.rollBack report v error now) Concluded (Halts Coursing) := by
  have hcurrent : walk'.current = .rolledBack := by
    rw [Walk.advance?] at hadvance
    split at hadvance
    · obtain rfl := Option.some.inj hadvance
      rfl
    · cases hadvance
  have hlast (after : Count) (digest : Digest) : Meets (fun r => r.cycle.At walk) (do
      Run.enter .rolledBack
      result .failure report.count after (some error) digest) Concluded (Halts Coursing) := by
    refine (meets_enter hadvance).bind fun _ => ?_
    refine meets_result (hwalk.advance hadvance) hwhole fun res hphase hverdict _ _ hres hbacked => ?_
    rw [hcurrent] at hphase
    exact ⟨by simp [hphase, hverdict], by simp [hphase, hverdict], by simp [CycleResult.exitCode, hphase],
      by simp [hres, hverdict], by simpa [hres] using herror, hbacked, by simp [hverdict]⟩
  rw [rollBack_eq]
  refine (meets_restoreCycle hwalk).bind fun unrestored => Meets.bind (Q := fun _ r => r.cycle.At walk) ?_ fun digest => ?_
  · exact meets_get.bind fun r => (meets_learn hwalk _ _ _).bind fun _ => meets_attest hwalk _ _ _
  cases unrestored with
  | none => exact hlast _ digest
  | some cause =>
    refine (meets_throw fun r hr => ⟨Coursing.of_at hwalk _ hr, fun p q heq => ?_⟩).bind fun _ => hlast _ digest
    cases heq

/-! ## The whole -/

theorem legal_of_failure? {v : Verification} {err : Engine.Error} (h : v.failure? = some err) : err.Legal := by
  rw [Verification.failure?] at h
  split at h
  · cases h
  · intro p q heq
    split at h
    · obtain rfl := Option.some.inj h
      cases heq
    · obtain rfl := Option.some.inj h
      cases heq

/-- A cycle that ends takes a whole course, and one that fails stays on a course. -/
theorem meets_drive : Meets (fun r => r.cycle.At .start) (e.drive now) Concluded (Halts Coursing) := by
  rw [drive_eq]
  refine meets_survey.bind fun ⟨report, decision⟩ => ?_
  dsimp only
  split
  · exact meets_finishIdle report
  have hturn : Meets (fun r => r.cycle.At toDecide) (turn decision) (fun _ r => r.cycle.At toAct) (Halts Coursing) :=
    Meets.bind (Q := fun _ r => r.cycle.At toDecide) (meets_modify fun r hr => ⟨hr.walk, hr.backed⟩) fun _ =>
      meets_enter rfl
  have hback (v : Option Verification) {err : Engine.Error} (herr : err.Legal) :
      Meets (fun r => r.cycle.At toVerify) (e.rollBack report v err now) Concluded (Halts Coursing) :=
    meets_rollBack onCourse_toVerify
      (show toVerify.advance? .rolledBack = some ⟨.rolledBack, [.observe, .decide, .act, .verify, .rolledBack]⟩ from rfl)
      (by decide) herr report v
  refine hturn.bind fun _ => (meets_act report decision.selected).outcome.bind fun r => ?_
  cases r with
  | error err =>
    refine Meets.given fun herr => Meets.or ?_ (hback none herr)
    exact meets_rollBack onCourse_toAct
      (show toAct.advance? .rolledBack = some ⟨.rolledBack, [.observe, .decide, .act, .rolledBack]⟩ from rfl)
      (by decide) herr report none
  | ok v =>
    refine Meets.given fun hjudged => ?_
    cases hfailure : v.failure? with
    | some err =>
      simp only [conclude, hfailure]
      exact hback (some v) (legal_of_failure? hfailure)
    | none =>
      simp only [conclude, hfailure]
      exact meets_finishLearned hjudged hfailure

/-- The result of a cycle is that of what it did in its locked workspace. -/
theorem exec_drive_of_runCycle {res : CycleResult} (h : (e.runCycle id now).exec w = (.ok res, w')) :
    ∃ locked r, (e.drive now).exec ⟨{ id := id }, locked⟩ = (.ok res, r) := by
  rw [runCycle, exec_locking] at h
  rcases hlock : (Workspace.onLocks (acquire e.layout.lock)).exec w with ⟨cause | l, locked⟩
  · rw [hlock] at h
    cases (Prod.mk.inj h).1
  · rw [hlock] at h
    dsimp only at h
    rw [exec_zoom] at h
    rcases hrun : (e.drive now).exec ⟨{ id := id }, locked⟩ with ⟨x, r⟩
    rw [hrun] at h
    obtain ⟨rfl, -⟩ := Prod.mk.inj h
    exact ⟨locked, r, hrun⟩

theorem legal_of_runCycle {err : Engine.Error} (h : ((e.runCycle id now).exec w).1 = .error err) : err.Legal := by
  rw [runCycle, exec_locking] at h
  rcases hlock : (Workspace.onLocks (acquire e.layout.lock)).exec w with ⟨cause | l, locked⟩
  · rw [hlock] at h
    obtain rfl := Except.error.inj h
    exact Workspace.lawful_onLocks _ _ _ _ trivial hlock
  · rw [hlock] at h
    dsimp only at h
    rw [exec_zoom] at h
    rcases hrun : (e.drive now).exec ⟨{ id := id }, locked⟩ with ⟨x, r⟩
    rw [hrun] at h
    obtain rfl : x = .error err := h
    exact (meets_drive.throws _ err _ ⟨rfl, fun hne => absurd rfl hne⟩ hrun).2

theorem yields_rollBack (report : Report) (v : Option Verification) (err : Engine.Error) :
    Yields (fun _ => True) (e.rollBack report v err now) fun res _ => res.verdict = .failure := by
  have hlast (after : Count) (digest : Digest) : Yields (fun _ => True) (do
      Run.enter .rolledBack
      result .failure report.count after (some err) digest) fun res _ => res.verdict = .failure :=
    yields_any.bind fun _ => yields_any.bind fun _ => yields_pure fun _ _ => rfl
  rw [rollBack_eq]
  refine yields_any.bind fun unrestored => yields_any.bind fun digest => ?_
  cases unrestored with
  | none => exact hlast _ digest
  | some cause => exact yields_any.bind fun _ => hlast _ digest

theorem yields_finishLearned_counts (report : Report) (v : Verification) :
    Yields (fun _ => True) (e.finishLearned report v now) fun res _ => res.before = v.before ∧ res.after = v.after :=
  yields_any.bind fun _ => yields_any.bind fun _ => yields_any.bind fun _ => yields_any.bind fun _ =>
    yields_any.bind fun _ => yields_any.bind fun _ => yields_pure fun _ _ => ⟨rfl, rfl⟩

/-- A success acted and learned from what came of it. The lock that it took it gave back. -/
theorem learned_of_runCycle {res : CycleResult} (h : (e.runCycle id now).exec w = (.ok res, w'))
    (hverdict : res.verdict = .success ∨ res.verdict = .partly) :
    ∃ k locked a v r r', (Workspace.onLocks (acquire e.layout.lock)).exec w = (.ok k, locked) ∧
      e.acting? id now w = some a ∧ (e.act a.report a.decision.selected now).exec a.run = (.ok v, r) ∧
      r.cycle.At toVerify ∧ e.Judged a.report v ∧ v.failure? = none ∧
      (e.finishLearned a.report v now).exec r = (.ok res, r') ∧
      w' = { r'.workspace with held := r'.workspace.held.erase k } := by
  rw [runCycle, exec_locking] at h
  rcases hlock : (Workspace.onLocks (acquire e.layout.lock)).exec w with ⟨cause | k, locked⟩
  · rw [hlock] at h
    cases (Prod.mk.inj h).1
  rw [hlock] at h
  dsimp only at h
  rw [exec_zoom] at h
  rcases hdrive : (e.drive now).exec ⟨{ id := id }, locked⟩ with ⟨x, r'⟩
  rw [hdrive] at h
  obtain ⟨rfl, rfl⟩ := Prod.mk.inj h
  rcases drive_cases hlock hdrive with ⟨-, ⟨_, -, herror⟩ | ⟨y, s, -, hfinish⟩⟩ | ⟨a, ha, ⟨x, r⟩, hact, hconclude⟩
  · cases herror
  · -- a cycle that does not act has nothing to do
    have hnoop := (yields_finishIdle y.1 s res r' trivial hfinish).2
    simp [hnoop] at hverdict
  have hstart : a.run.cycle.At toAct := by
    obtain ⟨-, -, -, -, -, hcycle⟩ := acting_of_some ha
    rw [hcycle]
    exact ⟨rfl, fun hne => absurd rfl hne⟩
  cases x with
  | error err => simp [yields_rollBack _ _ _ _ _ _ trivial hconclude] at hverdict
  | ok v =>
    cases hfailure : v.failure? with
    | some err =>
      simp only [conclude, hfailure] at hconclude
      simp [yields_rollBack _ _ _ _ _ _ trivial hconclude] at hverdict
    | none =>
      simp only [conclude, hfailure] at hconclude
      obtain ⟨hwalk, hjudged⟩ := (meets_act a.report a.decision.selected).yields _ _ _ hstart hact
      exact ⟨k, locked, a, v, r, r', rfl, ha, hact, hwalk, hjudged, hfailure, hconclude, rfl⟩

/-- A success was verified: the build passed, and there were no more issues than before. -/
theorem verified_of_runCycle {res : CycleResult} (h : (e.runCycle id now).exec w = (.ok res, w'))
    (hverdict : res.verdict = .success ∨ res.verdict = .partly) :
    ∃ a v r, e.acting? id now w = some a ∧ (e.act a.report a.decision.selected now).exec a.run = (.ok v, r) ∧
      (∃ d, (e.tools.build d).result = .ok v.build) ∧ v.build.passed = true ∧ v.after ≤ v.before ∧
      res.before = v.before ∧ res.after = v.after := by
  obtain ⟨-, -, a, v, r, r', -, ha, hact, -, hjudged, hfailure, hfinish, -⟩ := learned_of_runCycle h hverdict
  obtain ⟨-, hpassed, hle⟩ := hjudged.improved hfailure
  exact ⟨a, v, r, ha, hact, hjudged.2, hpassed, hle, yields_finishLearned_counts _ _ _ _ _ trivial hfinish⟩

/-- **The course of a cycle.** A cycle never fails with a phase that may not follow, and the phases that it enters begin
one of the four courses. If it comes to a result it has taken a whole course, and the result is consistent: it is
done exactly with a success or with nothing to do, and rolled back exactly with a failure. Only then the exit code is
one, only a success has no error, and what was written has a snapshot. A success was verified: the build passed, and
there are no more issues than before. -/
theorem runCycle_course (e : Engine) (id : CycleId) (now : Time) :
    (∀ w p q, ((e.runCycle id now).exec w).1 ≠ .error (.illegalTransition p q)) ∧
    (∀ w, ∃ c ∈ Walk.courses, ((e.drive now).exec ⟨{ id := id }, w⟩).2.cycle.walk.visited <+: c) ∧
    ∀ w res w', (e.runCycle id now).exec w = (.ok res, w') →
      res.Consistent ∧
      (∃ locked r, (e.drive now).exec ⟨{ id := id }, locked⟩ = (.ok res, r) ∧ r.cycle.walk.visited ∈ Walk.courses ∧
        r.cycle.walk.visited.getLast? = some res.phase) ∧
      (res.verdict = .success ∨ res.verdict = .partly →
        ∃ a v r, e.acting? id now w = some a ∧ (e.act a.report a.decision.selected now).exec a.run = (.ok v, r) ∧
          (∃ d, (e.tools.build d).result = .ok v.build) ∧ v.build.passed = true ∧ v.after ≤ v.before ∧
          res.before = v.before ∧ res.after = v.after) := by
  have hstart (w : Workspace) : (⟨{ id := id }, w⟩ : Run).cycle.At .start := ⟨rfl, fun hne => absurd rfl hne⟩
  refine ⟨fun w p q h => legal_of_runCycle h p q rfl, fun w => ?_, fun w res w' h => ?_⟩
  · rcases hrun : (e.drive now).exec ⟨{ id := id }, w⟩ with ⟨err | res, r⟩
    · exact (meets_drive.throws _ _ _ (hstart _) hrun).1.begins
    · exact (meets_drive.yields _ _ _ (hstart _) hrun).2.1.begins
  · obtain ⟨locked, r, hrun⟩ := exec_drive_of_runCycle h
    obtain ⟨hwhole, hcourse, hphase, hconsistent⟩ := meets_drive.yields _ _ _ (hstart _) hrun
    refine ⟨hconsistent, ⟨locked, r, hrun, hwhole, by rw [hcourse.current, hphase]⟩, verified_of_runCycle h⟩

/-- Takes away blanks, after which the analyzer finds nothing. The build passes. -/
def passing : Engine :=
  { tidy with tools := ⟨fun n d => ⟨.ok { generatedAt := default, issues := if n = 0 then [blank] else [] }, d, 0⟩,
    fun d => ⟨.ok ⟨true, some 0⟩, d, 0⟩⟩ }

set_option maxRecDepth 100000 in
theorem runCycle_course_passing :
    ∃ res w', (passing.runCycle default default).exec (amid (fun _ => none) (.memory [])) = (.ok res, w') ∧
      res.verdict = .success ∧ res.files = [⟨["a"]⟩] ∧ res.phase = .done ∧ res.error = none ∧ res.snapshot ≠ none := by
  have hglance : ((passing.runCycle default default).exec (amid (fun _ => none) (.memory []))).1.toOption.map
      (fun res => (res.verdict, res.files)) = some (.success, [⟨["a"]⟩]) := by decide +kernel
  rcases hrun : (passing.runCycle default default).exec (amid (fun _ => none) (.memory [])) with ⟨err | res, w'⟩
  · rw [hrun] at hglance
    cases hglance
  rw [hrun] at hglance
  obtain ⟨hverdict, hfiles⟩ := Prod.mk.inj (Option.some.inj hglance)
  obtain ⟨hconsistent, -⟩ := (runCycle_course passing default default).2.2 _ res w' hrun
  refine ⟨res, w', rfl, hverdict, hfiles, hconsistent.done.mpr (.inl hverdict), hconsistent.error.mpr (.inl hverdict), ?_⟩
  exact hconsistent.snapshot (by simp [hfiles])

end Engine
end Mend
