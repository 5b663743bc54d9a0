import Mend.Proofs.Engine.Batch
import Mend.Proofs.Engine.Selection

/-!
# The course of a cycle

A cycle surveys the workspace before it acts. If there is something to do, it acts and verifies, and then it
rolls back or learns (`drive_eq`). `acting?` tells where a cycle starts to act, if it does, and `failure?` where
it starts to roll back. A run of a cycle is one of these three (`runCycle_cases`).

Acting fails before the snapshot is taken, and then nothing was written, or afterwards; then the snapshot can
be restored from whatever others make of the files in the meantime (`act_cases`).
-/

namespace Mend

open Fs Fs.Disk Ledger
open Action
open Function (update)

namespace Run

variable {α : Type} {r : Run}

theorem exec_onWorkspace (act : Workspace.Step α) (r : Run) :
    (onWorkspace act).exec r = ((act.exec r.workspace).1, { r with workspace := (act.exec r.workspace).2 }) := rfl

theorem exec_onWorkspace_of {act : Workspace.Step α} {x : Except Engine.Error α} {w : Workspace}
    (h : act.exec r.workspace = (x, w)) : (onWorkspace act).exec r = (x, ⟨r.cycle, w⟩) := by
  rw [exec_onWorkspace, h]

theorem keeps_onWorkspace {P : Workspace → Prop} {act : Workspace.Step α} (h : Keeps P act) :
    Keeps (fun r => P r.workspace) (onWorkspace act) := fun r hr => h r.workspace hr

theorem yields_onWorkspace {P : Workspace → Prop} {Q : α → Workspace → Prop} {act : Workspace.Step α}
    (h : Yields P act Q) : Yields (fun r => P r.workspace) (onWorkspace act) fun a r => Q a r.workspace := by
  intro r a r' hr hrun
  rw [exec_onWorkspace] at hrun
  obtain ⟨ha, rfl⟩ := Prod.mk.inj hrun
  exact h r.workspace a _ hr (Prod.ext ha rfl)

/-- The cycle is not changed by what is done to the workspace. -/
theorem keeps_cycle {P : Cycle → Prop} (act : Workspace.Step α) : Keeps (fun r => P r.cycle) (onWorkspace act) :=
  fun _ hr => hr

theorem exec_enter {p : Phase} {w : Walk} (h : r.cycle.walk.advance? p = some w) :
    (enter p).exec r = (.ok (), { r with cycle := { r.cycle with walk := w } }) := by
  rw [enter, exec_update, h]

theorem keeps_enter {P : Workspace → Prop} (p : Phase) : Keeps (fun r => P r.workspace) (enter p) := by
  intro r hr
  rw [enter, exec_update]
  cases r.cycle.walk.advance? p with
  | none => exact hr
  | some w => exact hr

/-- A phase that was entered is the current one. -/
theorem yields_enter (p : Phase) (P : Run → Prop) :
    Yields P (enter p) fun _ r => r.cycle.walk.current = p := by
  intro r a r' _ hrun
  rw [enter, exec_update] at hrun
  cases hadvance : r.cycle.walk.advance? p with
  | none => rw [hadvance] at hrun; cases (Prod.mk.inj hrun).1
  | some w =>
    rw [hadvance] at hrun
    obtain ⟨-, rfl⟩ := Prod.mk.inj hrun
    rw [Walk.advance?] at hadvance
    split at hadvance
    · obtain rfl := Option.some.inj hadvance
      rfl
    · cases hadvance

end Run

namespace Engine

variable {e : Engine} {id : CycleId} {now : Time} {w w' : Workspace}

/-! ## The parts of a cycle -/

/-- What a cycle does before it acts. -/
def survey (e : Engine) (now : Time) : Run.Step (Report × Decision Score) := do
  let report ← Run.onWorkspace (e.observe now)
  Run.onWorkspace Workspace.openTrust
  (Ordered.keys e.registry).forM fun id => Run.onWorkspace (Workspace.onTrust (Trust.ensure id))
  Run.enter .decide
  let decision ← Run.onWorkspace (e.decide report)
  return (report, decision)

/-- Turns to acting on a decision. -/
def turn (d : Decision Score) : Run.Step Unit := do
  Run.change fun c => { c with recipes := d.recipes }
  Run.enter .act

/-- How a cycle ends that acted. -/
def conclude (e : Engine) (report : Report) (now : Time) (r : Except Engine.Error Verification) :
    Run.Step CycleResult :=
  match r with
  | .error error => e.rollBack report none error now
  | .ok v =>
    match v.failure? with
    | some error => e.rollBack report (some v) error now
    | none => e.finishLearned report v now

theorem drive_eq (e : Engine) (now : Time) :
    e.drive now = (do
      let x ← e.survey now
      if x.2.selected.isEmpty then finishIdle x.1 now
      else do
        turn x.2
        let r : Except Engine.Error Verification ← (e.act x.1 x.2.selected now).outcome
        e.conclude x.1 now r) := by
  simp only [drive, survey, turn, bind_assoc, pure_bind]
  rfl

/-- A cycle that is about to act. -/
structure Acting where
  report : Report
  decision : Decision Score
  run : Run

/-- A cycle that is about to roll back: where acting or verifying has led, and why it failed. -/
structure Failure where
  acting : Acting
  run : Run
  verification : Option Verification
  error : Engine.Error

/-- Where a cycle starts to act, if it does. -/
def acting? (e : Engine) (id : CycleId) (now : Time) (w : Workspace) : Option Acting :=
  match (Workspace.onLocks (acquire e.layout.lock)).exec w with
  | (.error _, _) => none
  | (.ok _, locked) =>
    match (e.survey now).exec ⟨{ id := id }, locked⟩ with
    | (.error _, _) => none
    | (.ok (report, decision), surveyed) =>
      if decision.selected.isEmpty then none
      else some ⟨report, decision, ((turn decision).exec surveyed).2⟩

/-- Where a cycle starts to roll back, if it does. -/
def failure? (e : Engine) (id : CycleId) (now : Time) (w : Workspace) : Option Failure :=
  (e.acting? id now w).bind fun a =>
    match (e.act a.report a.decision.selected now).exec a.run with
    | (.error error, run) => some ⟨a, run, none, error⟩
    | (.ok v, run) => v.failure?.map fun error => ⟨a, run, some v, error⟩

/-! ## Surveying -/

theorem keeps_observe {P : Workspace → Prop} (hpause : ∀ p, Keeps P (Workspace.pause p)) (hanalyze : Keeps P e.analyze)
    (now : Time) : Keeps P (e.observe now) := by
  refine hanalyze.bind fun ⟨result, millis⟩ => (hpause _).bind fun _ => (keeps_query _).bind fun _ => ?_
  cases result with
  | error cause => exact keeps_throw _
  | ok report =>
    dsimp only
    split
    · exact keeps_throw _
    · exact keeps_pure _

theorem keeps_decide {P : Workspace → Prop} (hpause : ∀ p, Keeps P (Workspace.pause p)) (report : Report) :
    Keeps P (e.decide report) :=
  keeps_get.bind fun _ => (hpause _).bind fun _ => keeps_get.bind fun _ => (keeps_query _).bind fun _ => keeps_pure _

theorem keeps_verify {P : Workspace → Prop} (hanalyze : Keeps P e.analyze) (hbuild : Keeps P e.build)
    (limit : Option Nat) (report : Report) : Keeps P (e.verify limit report) := by
  refine hanalyze.bind fun ⟨after, analyzing⟩ => (keeps_query _).bind fun _ => ?_
  cases after with
  | error cause => exact keeps_throw _
  | ok after =>
    refine hbuild.bind fun ⟨build, building⟩ => (keeps_query _).bind fun _ => ?_
    cases build with
    | error cause => exact keeps_throw _
    | ok build => exact keeps_pure _

theorem keeps_survey {P : Workspace → Prop} (hpause : ∀ p, Keeps P (Workspace.pause p)) (hanalyze : Keeps P e.analyze)
    (hopen : Keeps P Workspace.openTrust) (hensure : ∀ id, Keeps P (Workspace.onTrust (Trust.ensure id))) (now : Time) :
    Keeps (fun r => P r.workspace) (e.survey now) := by
  refine (Run.keeps_onWorkspace (keeps_observe hpause hanalyze now)).bind fun report => ?_
  refine (Run.keeps_onWorkspace hopen).bind fun _ => ?_
  refine (Keeps.forM fun id _ => Run.keeps_onWorkspace (hensure id)).bind fun _ => ?_
  refine (Run.keeps_enter .decide).bind fun _ => ?_
  exact (Run.keeps_onWorkspace (keeps_decide hpause report)).bind fun _ => keeps_pure _

theorem yields_observe (now : Time) :
    Yields (fun _ => True) (e.observe now) fun report _ => ∀ i ∈ report.issues, e.Target i.file := by
  have hanalyze : Yields (fun _ => True) e.analyze fun a _ =>
      ∀ report, a.1 = .ok report → ∀ i ∈ report.issues, e.Target i.file := by
    intro w a w' _ hrun report hreport i hi
    obtain rfl := Except.ok.inj (Prod.mk.inj hrun).1
    exact ⟨w.analyses, w.disk, report, hreport, i, hi, rfl⟩
  refine hanalyze.bind fun ⟨result, millis⟩ => ?_
  have hstays {α : Type} (act : Workspace.Step α) :
      Yields (fun _ => ∀ report, result = .ok report → ∀ i ∈ report.issues, e.Target i.file) act
        fun _ _ => ∀ report, result = .ok report → ∀ i ∈ report.issues, e.Target i.file := fun _ _ _ h _ => h
  refine (hstays _).bind fun _ => (hstays _).bind fun _ => ?_
  cases result with
  | error cause => exact fun _ _ _ _ hrun => nomatch (Prod.mk.inj hrun).1
  | ok report =>
    dsimp only
    split
    · exact fun _ _ _ _ hrun => nomatch (Prod.mk.inj hrun).1
    · exact yields_pure fun _ h => h report rfl

theorem yields_decide (report : Report) :
    Yields (fun _ => True) (e.decide report) fun d _ =>
      ∃ trust sizes, d = Decision.byTrust e.registry e.config trust e.scorer sizes report.issues := by
  rw [Engine.decide]
  refine yields_any.bind fun w => yields_any.bind fun _ => yields_any.bind fun _ => yields_any.bind fun _ => ?_
  exact yields_pure fun _ _ => ⟨w.trust.table, sizeOf e.root w.disk, rfl⟩

/-- If the survey succeeds, it has decided about the issues that it found. -/
theorem yields_survey_decision (now : Time) :
    Yields (fun _ => True) (e.survey now) fun x _ => (∀ i ∈ x.1.issues, e.Target i.file) ∧
      ∃ trust sizes, x.2 = Decision.byTrust e.registry e.config trust e.scorer sizes x.1.issues := by
  refine (Run.yields_onWorkspace (yields_observe now)).bind fun report => ?_
  have hstays {α : Type} (act : Run.Step α) : Yields (fun _ => ∀ i ∈ report.issues, e.Target i.file) act
      fun _ _ => ∀ i ∈ report.issues, e.Target i.file := fun _ _ _ h _ => h
  refine (hstays _).bind fun _ => (hstays _).bind fun _ => (hstays _).bind fun _ => ?_
  have hdecide : Yields (fun _ => ∀ i ∈ report.issues, e.Target i.file) (Run.onWorkspace (e.decide report))
      fun d _ => (∀ i ∈ report.issues, e.Target i.file) ∧
        ∃ trust sizes, d = Decision.byTrust e.registry e.config trust e.scorer sizes report.issues :=
    fun _ _ _ hissues hrun => ⟨hissues, Run.yields_onWorkspace (yields_decide report) _ _ _ trivial hrun⟩
  exact hdecide.bind fun d => yields_pure fun _ h => h

/-- What is selected then is for files that are worked on. -/
theorem yields_survey_target (now : Time) :
    Yields (fun _ => True) (e.survey now) fun x _ => ∀ f ∈ x.2.selected, e.Target f.issue.file := by
  intro r x r' hr hrun f hf
  obtain ⟨htarget, trust, sizes, hdecision⟩ := yields_survey_decision now r x r' hr hrun
  rw [hdecision] at hf
  exact htarget _ (Decision.mem_selected hf).1

/-- If the survey succeeds, what it selects is for files that are worked on, and the workspace is steady still. -/
theorem yields_survey (htools : e.Tame) (now : Time) :
    Yields (fun r => e.Steady id r.workspace) (e.survey now) fun x r =>
      e.Steady id r.workspace ∧ ∀ f ∈ x.2.selected, e.Target f.issue.file := by
  have hsteady : Yields (fun r => e.Steady id r.workspace) (e.survey now) fun _ r => e.Steady id r.workspace := by
    refine (Run.yields_onWorkspace (keeps_observe keeps_pause (keeps_analyze htools) now).yields).bind fun report => ?_
    refine (Run.yields_onWorkspace keeps_openTrust.yields).bind fun _ => ?_
    refine (Yields.forM fun recipe _ => Run.yields_onWorkspace (yields_ensure recipe)).bind fun _ => ?_
    refine (Run.keeps_enter .decide).yields.bind fun _ => ?_
    exact (Run.yields_onWorkspace (keeps_decide keeps_pause report).yields).bind fun d => yields_pure fun _ hr => hr
  exact fun r x r' hr hrun => ⟨hsteady r x r' hr hrun, yields_survey_target now r x r' trivial hrun⟩

/-- The cycle of an identifier once it has decided. -/
def decided (id : CycleId) : Cycle := { id := id, walk := ⟨.decide, [.observe, .decide]⟩ }

/-- The cycle of an identifier when it starts to act on a decision. -/
def begun (id : CycleId) (d : Decision Score) : Cycle :=
  { id := id, walk := ⟨.act, [.observe, .decide, .act]⟩, recipes := d.recipes }

/-- Where a cycle acts. -/
def toAct : Walk := ⟨.act, [.observe, .decide, .act]⟩

/-- Where a cycle verifies. -/
def toVerify : Walk := ⟨.verify, [.observe, .decide, .act, .verify]⟩

theorem cycle_survey (now : Time) :
    Yields (fun r => r.cycle = { id := id }) (e.survey now) fun _ r => r.cycle = decided id := by
  have hstep {α : Type} (act : Workspace.Step α) (c : Cycle) :
      Yields (fun r : Run => r.cycle = c) (Run.onWorkspace act) fun _ r => r.cycle = c :=
    (Run.keeps_cycle (P := fun k => k = c) act).yields
  refine (hstep _ _).bind fun report => (hstep _ _).bind fun _ => ?_
  refine (Yields.forM fun recipe _ => hstep _ _).bind fun _ => ?_
  have henter : Yields (fun r : Run => r.cycle = { id := id }) (Run.enter .decide) fun _ r => r.cycle = decided id := by
    rintro ⟨c, w⟩ a r' rfl hrun
    rw [Run.exec_enter (w := ⟨.decide, [.observe, .decide]⟩) rfl] at hrun
    obtain ⟨-, rfl⟩ := Prod.mk.inj hrun
    rfl
  exact henter.bind fun _ => (hstep _ _).bind fun d => yields_pure fun r hr => hr

theorem exec_turn {r : Run} (h : r.cycle = decided id) (d : Decision Score) :
    (turn d).exec r = (.ok (), ⟨begun id d, r.workspace⟩) := by
  obtain ⟨c, w⟩ := r
  subst h
  rw [turn, Run.change, exec_bind_ok (exec_modify _ _), Run.exec_enter (w := ⟨.act, [.observe, .decide, .act]⟩) rfl]
  rfl

/-- A cycle acts after the lock was taken and the survey found something to do. -/
theorem acting_of_some {a : Acting} (h : e.acting? id now w = some a) :
    ∃ l locked, (Workspace.onLocks (acquire e.layout.lock)).exec w = (.ok l, locked) ∧
      (e.survey now).exec ⟨{ id := id }, locked⟩ = (.ok (a.report, a.decision), ⟨decided id, a.run.workspace⟩) ∧
      a.decision.selected.isEmpty = false ∧ a.run.cycle = begun id a.decision := by
  rw [acting?] at h
  split at h
  · cases h
  next l locked hlock =>
  split at h
  · cases h
  next report decision surveyed hsurvey =>
  split at h
  · cases h
  next hselected =>
  obtain rfl := Option.some.inj h
  have hcycle := cycle_survey now _ _ _ rfl hsurvey
  rw [exec_turn hcycle]
  refine ⟨l, locked, hlock, ?_, by simpa using hselected, rfl⟩
  rw [hsurvey, ← hcycle]

/-! ## Running -/

theorem exec_locking {α : Type} (p : Place) (act : Workspace.Step α) (w : Workspace) :
    (Workspace.locking p act).exec w = match (Workspace.onLocks (acquire p)).exec w with
      | (.error e, v) => (.error e, v)
      | (.ok l, v) => ((act.exec v).1, { (act.exec v).2 with held := (act.exec v).2.held.erase l }) := by
  rw [Workspace.locking, exec_bind]
  rcases (Workspace.onLocks (acquire p)).exec w with ⟨_ | l, v⟩
  · rfl
  · dsimp only
    rw [exec_bind_ok (exec_outcome act v), exec_bind_ok (exec_modify _ _), exec_query]

/-- In the locked workspace a cycle that does not act ends in the survey or because there is nothing to do. One that acts
is concluded. -/
theorem drive_cases {l : Location} {locked : Workspace}
    (hlock : (Workspace.onLocks (acquire e.layout.lock)).exec w = (.ok l, locked)) {res : Except Engine.Error CycleResult}
    {r' : Run} (h : (e.drive now).exec ⟨{ id := id }, locked⟩ = (res, r')) :
    (e.acting? id now w = none ∧
      ((∃ error, (e.survey now).exec ⟨{ id := id }, locked⟩ = (.error error, r') ∧ res = .error error) ∨
        ∃ x r, (e.survey now).exec ⟨{ id := id }, locked⟩ = (.ok x, r) ∧ (finishIdle x.1 now).exec r = (res, r'))) ∨
    ∃ a, e.acting? id now w = some a ∧ ∃ r, (e.act a.report a.decision.selected now).exec a.run = r ∧
      (e.conclude a.report now r.1).exec r.2 = (res, r') := by
  rw [drive_eq] at h
  rcases hsurvey : (e.survey now).exec ⟨{ id := id }, locked⟩ with ⟨error | x, r⟩
  · rw [exec_bind_error hsurvey] at h
    obtain ⟨rfl, rfl⟩ := Prod.mk.inj h
    exact .inl ⟨by rw [acting?, hlock]; simp only [hsurvey], .inl ⟨error, rfl, rfl⟩⟩
  rw [exec_bind_ok hsurvey] at h
  by_cases hselected : x.2.selected.isEmpty
  · rw [if_pos hselected] at h
    refine .inl ⟨?_, .inr ⟨x, r, rfl, h⟩⟩
    rw [acting?, hlock]
    simp only [hsurvey, hselected, if_true]
  · rw [if_neg hselected] at h
    have hcycle := cycle_survey now _ _ _ rfl hsurvey
    have hacting : e.acting? id now w = some ⟨x.1, x.2, ⟨begun id x.2, r.workspace⟩⟩ := by
      rw [acting?, hlock]
      simp only [hsurvey, hselected]
      rw [exec_turn hcycle]
      rfl
    rw [exec_bind_ok (exec_turn hcycle x.2), exec_bind_ok (exec_outcome _ _)] at h
    exact .inr ⟨_, hacting, _, rfl, h⟩

/-- A cycle that does not act ends in the lock, in the survey or because there is nothing to do. One that
acts is concluded. In the end the lock is given back. -/
theorem runCycle_cases {res : Except Engine.Error CycleResult} (h : (e.runCycle id now).exec w = (res, w')) :
    (e.acting? id now w = none ∧
      ((∃ error, (Workspace.onLocks (acquire e.layout.lock)).exec w = (.error error, w') ∧ res = .error error) ∨
      ∃ l locked, (Workspace.onLocks (acquire e.layout.lock)).exec w = (.ok l, locked) ∧
        ((∃ error r, (e.survey now).exec ⟨{ id := id }, locked⟩ = (.error error, r) ∧ res = .error error ∧
            ∃ held, w' = { r.workspace with held := held }) ∨
          ∃ x r r', (e.survey now).exec ⟨{ id := id }, locked⟩ = (.ok x, r) ∧
            (finishIdle x.1 now).exec r = (res, r') ∧ ∃ held, w' = { r'.workspace with held := held }))) ∨
    ∃ a, e.acting? id now w = some a ∧ ∃ r r', (e.act a.report a.decision.selected now).exec a.run = r ∧
      (e.conclude a.report now r.1).exec r.2 = (res, r') ∧ ∃ held, w' = { r'.workspace with held := held } := by
  rw [runCycle, exec_locking] at h
  rcases hlock : (Workspace.onLocks (acquire e.layout.lock)).exec w with ⟨error | l, locked⟩
  · rw [hlock] at h
    obtain ⟨rfl, rfl⟩ := Prod.mk.inj h
    exact .inl ⟨by rw [acting?, hlock], .inl ⟨error, rfl, rfl⟩⟩
  rw [hlock] at h
  dsimp only at h
  rw [exec_zoom] at h
  rcases hdrive : (e.drive now).exec ⟨{ id := id }, locked⟩ with ⟨res', r'⟩
  rw [hdrive] at h
  obtain ⟨rfl, rfl⟩ := Prod.mk.inj h
  rcases drive_cases hlock hdrive with
    ⟨hnone, ⟨error, hsurvey, hres⟩ | ⟨x, r, hsurvey, hidle⟩⟩ | ⟨a, hacting, r, hact, hconclude⟩
  · exact .inl ⟨hnone, .inr ⟨l, locked, rfl, .inl ⟨error, r', hsurvey, hres, _, rfl⟩⟩⟩
  · exact .inl ⟨hnone, .inr ⟨l, locked, rfl, .inr ⟨x, r, r', hsurvey, hidle, _, rfl⟩⟩⟩
  · exact .inr ⟨a, hacting, r, r', hact, hconclude, _, rfl⟩

/-! ## Without other programs -/

/-- Nobody else is there: no file changes in a pause, and the tools change none. -/
structure Quiet (e : Engine) (w : Workspace) : Prop where
  edits : ∀ n p d, w.around.edit n p d = d
  analyze : ∀ n d, (e.tools.analyze n d).disk = d
  build : ∀ d, (e.tools.build d).disk = d

/-- The disk is the same, and so is what is around. -/
def Still (w₀ w : Workspace) : Prop := w.around = w₀.around ∧ w.disk = w₀.disk

namespace Quiet

variable {l : Layout} {w₀ : Workspace}

theorem keeps_pause (h : e.Quiet w₀) (p : Point) : Keeps (Workspace.Untouched l w₀) (Workspace.pause p) := by
  intro w hw
  have hedit : w.around.edit w.pauses p w.disk = w.disk := by rw [hw.around, h.edits]
  refine ⟨hw.around, ⟨hw.placed.trust, hw.placed.history, hw.placed.attestations, hw.placed.snapshots⟩, ?_⟩
  rw [Workspace.exec_pause, hedit]
  exact hw.outside

theorem keeps_analyze (h : e.Quiet w₀) : Keeps (Workspace.Untouched l w₀) e.analyze := by
  intro w hw
  refine ⟨hw.around, ⟨hw.placed.trust, hw.placed.history, hw.placed.attestations, hw.placed.snapshots⟩, ?_⟩
  rw [show ((e.analyze).exec w).2.disk = (e.tools.analyze w.analyses w.disk).disk from rfl, h.analyze]
  exact hw.outside

theorem still_pause (h : e.Quiet w₀) (p : Point) : Keeps (Still w₀) (Workspace.pause p) := by
  rintro w ⟨haround, hdisk⟩
  refine ⟨haround, ?_⟩
  rw [Workspace.exec_pause, haround, h.edits]
  exact hdisk

theorem still_verify (h : e.Quiet w₀) (limit : Option Nat) (report : Report) :
    Keeps (Still w₀) (e.verify limit report) := by
  apply keeps_verify
  · intro w hw
    exact ⟨hw.1, (h.analyze _ _).trans hw.2⟩
  · intro w hw
    exact ⟨hw.1, (h.build _).trans hw.2⟩

end Quiet

/-! ## Acting -/

/-- The point by which acting has to end that starts at a point on the clock. -/
def deadline (e : Engine) (clock : Nat) : Option Deadline :=
  (e.config.timeouts.limit? .act).map fun s => Deadline.after .act s clock

/-- The new contents that a cycle prepares. -/
def Acting.batch (e : Engine) (a : Acting) : Batch :=
  match (Batch.prepare e.registry e.config.maxLines e.root (e.deadline a.run.workspace.clock) a.decision.selected).exec
      a.run.workspace with
  | (.ok b, _) => b
  | (.error _, _) => []

/-- A batch is made for files that something is selected for, and no file is changed beyond the limit. -/
theorem mem_batch {a : Acting} {p : Prepared} (hp : p ∈ a.batch e) :
    (∃ f ∈ a.decision.selected, f.issue.file = p.file) ∧ p.Fits e.config.maxLines := by
  rw [Acting.batch] at hp
  split at hp
  · next hrun =>
    obtain ⟨rs, hprepare, hcollect⟩ := Batch.exec_prepare_ok hrun
    have hmem := Batch.mem_of_collect hcollect p hp
    obtain ⟨hfile, -, hfits, -⟩ := Batch.prepareEach_ok (P := fun _ => True) (fun _ _ => trivial) trivial hprepare hmem
    exact ⟨Batch.exists_of_mem_byFile hfile, hfits⟩
  · cases hp

/-- Preparing fails before the batch is complete, or at the snapshot, or not, or only when the snapshot was taken. -/
theorem prepare_cases {fixes : List (Fix Score)} {limit : Option Deadline} {r r' : Run} {res : Except Engine.Error Batch}
    (h : (e.prepare fixes limit now).exec r = (res, r')) :
    (∃ error, (Batch.prepare e.registry e.config.maxLines e.root limit fixes).exec r.workspace =
        (.error error, r'.workspace) ∧ res = .error error ∧ r'.cycle = r.cycle) ∨
      ∃ b v, (Batch.prepare e.registry e.config.maxLines e.root limit fixes).exec r.workspace = (.ok b, v) ∧
        ∃ v', ((∃ error, (Workspace.onSnapshots (Snapshot.take r.cycle.id (List.map Prepared.capture b)
                e.config.retention now)).exec v = (.error error, v') ∧ res = .error error) ∧
              r' = ⟨{ r.cycle with recipes := b.recipes }, v'⟩ ∨
            (Workspace.onSnapshots (Snapshot.take r.cycle.id (List.map Prepared.capture b)
                e.config.retention now)).exec v = (.ok (), v') ∧ (res = .ok b ∨ ∃ error, res = .error error) ∧
              r' = ⟨{ r.cycle with recipes := b.recipes, snapshot := some r.cycle.id },
                ((Workspace.pause .saved).exec v').2⟩) := by
  rw [prepare, exec_bind, Run.exec_onWorkspace] at h
  rcases hbatch : (Batch.prepare e.registry e.config.maxLines e.root limit fixes).exec r.workspace with ⟨error | b, v⟩
  · rw [hbatch] at h
    obtain ⟨rfl, rfl⟩ := Prod.mk.inj h
    exact .inl ⟨error, rfl, rfl, rfl⟩
  rw [hbatch] at h
  refine .inr ⟨b, v, rfl, ?_⟩
  dsimp only at h
  rw [Run.change, exec_bind_ok (exec_modify _ _), exec_bind_ok (exec_get _)] at h
  dsimp only at h
  rw [exec_bind, Run.exec_onWorkspace] at h
  dsimp only at h
  rcases htake : (Workspace.onSnapshots (Snapshot.take r.cycle.id (List.map Prepared.capture b)
      e.config.retention now)).exec v with ⟨error | ⟨⟩, v'⟩
  · rw [htake] at h
    obtain ⟨rfl, rfl⟩ := Prod.mk.inj h
    exact ⟨v', .inl ⟨⟨error, rfl, rfl⟩, rfl⟩⟩
  rw [htake] at h
  dsimp only at h
  rw [Run.change, exec_bind_ok (exec_modify _ _), exec_bind, Run.exec_onWorkspace, Workspace.exec_pause] at h
  dsimp only at h
  rw [exec_bind, exec_query] at h
  refine ⟨v', .inr ⟨rfl, ?_⟩⟩
  split at h
  · next heq =>
    obtain ⟨-, rfl⟩ := Prod.mk.inj heq
    obtain ⟨rfl, rfl⟩ := Prod.mk.inj h
    exact ⟨.inl rfl, rfl⟩
  · next heq =>
    obtain ⟨-, rfl⟩ := Prod.mk.inj heq
    obtain ⟨rfl, rfl⟩ := Prod.mk.inj h
    exact ⟨.inr ⟨_, rfl⟩, rfl⟩

theorem keeps_prepareBatch {σ : Type} {P : Workspace → Prop} (hpause : Keeps P (Workspace.pause .prepared))
    (limit : Option Deadline) (fixes : List (Fix σ)) :
    Keeps P (Batch.prepare e.registry e.config.maxLines e.root limit fixes) :=
  (Batch.keeps_prepareEach hpause _).bind fun _ => keeps_query _

/-- Without other programs a batch is made from what the files hold. -/
theorem Quiet.prepare (h : e.Quiet w) {limit : Option Deadline} {fixes : List (Fix Score)}
    (hproper : ∀ f ∈ fixes, f.issue.file.Proper) {b : Batch}
    (hrun : (Batch.prepare e.registry e.config.maxLines e.root limit fixes).exec w = (.ok b, w')) :
    Still w w' ∧ ∀ p ∈ b, w.disk.fileAt (p.file.below e.root) = some p.before.toUTF8 := by
  have hstill : Still w ((Batch.prepare e.registry e.config.maxLines e.root limit fixes).exec w).2 :=
    keeps_prepareBatch (h.still_pause .prepared) limit fixes w ⟨rfl, rfl⟩
  rw [hrun] at hstill
  refine ⟨hstill, fun p hp => ?_⟩
  obtain ⟨rs, hprepare, hcollect⟩ := Batch.exec_prepare_ok hrun
  have hmem := Batch.mem_of_collect hcollect p hp
  obtain ⟨hfile, -, -, u, hu, hread, -⟩ := Batch.prepareEach_ok (h.still_pause .prepared) ⟨rfl, rfl⟩ hprepare hmem
  obtain ⟨f, hf, hfile'⟩ := Batch.exists_of_mem_byFile hfile
  obtain ⟨-, mode, hnode⟩ := Batch.file_of_filesOf (hfile' ▸ hproper f hf) hread
  rw [hu.2] at hnode
  exact fileAt_of_file hnode

/-- A cycle that acted after its snapshot was taken: the snapshot can be restored, and what was written can be
written again. All files were written if it came to verifying. Without other programs the files that were written
have changed since then, and nothing else. -/
structure Acted (e : Engine) (id : CycleId) (now : Time) (a : Acting) (r : Run) : Prop where
  cycle : r.cycle.id = id ∧ r.cycle.snapshot = some id
  walk : r.cycle.walk.current = .act ∨ r.cycle.walk.current = .verify
  sound : Batch.Sound e (a.batch e)
  armed : Batch.Armed e id (a.batch e) (Snapshot.capture id (List.map Prepared.capture (a.batch e)) now) r.workspace
  fits : ∀ q ∈ r.cycle.applied, ∃ p ∈ a.batch e, q.file = p.file ∧ TemporaryFits (e.root.file p.file)
  whole : r.cycle.walk.current = .verify → r.cycle.applied.map Applied.file = (a.batch e).map Prepared.file
  quiet : e.Quiet a.run.workspace → r.workspace.around = a.run.workspace.around ∧
    ∃ x : Snapshot.Session, (Snapshot.take id (List.map Prepared.capture (a.batch e)) e.config.retention now).exec
        ⟨a.run.workspace.disk, a.run.workspace.snapshots⟩ = (.ok (), x) ∧
      e.layout.Outside a.run.workspace.disk x.disk ∧ r.workspace.snapshots = x.store ∧
      (∀ p ∈ a.batch e, a.run.workspace.disk.fileAt (p.file.below e.root) = some p.before.toUTF8) ∧
      Batch.Wrote e.root (a.batch e) r.cycle.applied x.disk r.workspace.disk

/-- A cycle that failed before its snapshot was taken has written nothing. -/
structure Unarmed (e : Engine) (id : CycleId) (a : Acting) (r : Run) : Prop where
  cycle : r.cycle.id = id ∧ r.cycle.snapshot = none ∧ r.cycle.applied = []
  walk : r.cycle.walk.current = .act
  placed : r.workspace.Placed e.layout
  quiet : e.Quiet a.run.workspace → Workspace.Untouched e.layout a.run.workspace r.workspace

theorem Armed.verify (htools : e.Tame) {b : Batch} {s : Snapshot} (hb : Batch.Sound e b) (limit : Option Nat)
    (report : Report) : Keeps (Batch.Armed e id b s) (e.verify limit report) := by
  apply keeps_verify
  · intro w h
    have hforeign := h.foreign hb (htools.analyze w.analyses w.disk)
    exact ⟨hforeign.edits, ⟨h.placed.trust, h.placed.history, h.placed.attestations, h.placed.snapshots⟩,
      hforeign.clean, hforeign.slot, hforeign.holds⟩
  · intro w h
    have hforeign := h.foreign hb (htools.build w.disk)
    exact ⟨hforeign.edits, ⟨h.placed.trust, h.placed.history, h.placed.attestations, h.placed.snapshots⟩,
      hforeign.clean, hforeign.slot, hforeign.holds⟩

/-- Acting fails before the snapshot is taken, or it leaves a snapshot that can be restored. -/
theorem act_cases {a : Acting} {res : Except Engine.Error Verification} {r : Run} (htools : e.Tame)
    (hproper : ∀ p, e.Target p → p.Proper) (hsteady : e.Steady id a.run.workspace)
    (htarget : ∀ f ∈ a.decision.selected, e.Target f.issue.file) (hcycle : a.run.cycle = begun id a.decision)
    (hrun : (e.act a.report a.decision.selected now).exec a.run = (res, r)) :
    ((∃ error, res = .error error) ∧ Unarmed e id a r) ∨ Acted e id now a r := by
  obtain ⟨report, decision, c, w⟩ := a
  dsimp only at hsteady htarget hcycle hrun
  subst hcycle
  rw [act, exec_bind_ok (exec_get _)] at hrun
  dsimp only at hrun
  rw [exec_bind] at hrun
  rcases hprepare : (e.prepare decision.selected (e.deadline w.clock) now).exec ⟨begun id decision, w⟩ with ⟨res₁, r₁⟩
  rw [show (e.config.timeouts.limit? .act).map (fun s => Deadline.after .act s w.clock) = e.deadline w.clock from rfl,
    hprepare] at hrun
  rcases prepare_cases hprepare with ⟨error, hbatch, rfl, hr₁⟩ | ⟨b, v, hbatch, v', hcase⟩
  · obtain ⟨rfl, rfl⟩ := Prod.mk.inj hrun
    have hplaced : ((Batch.prepare e.registry e.config.maxLines e.root (e.deadline w.clock) decision.selected).exec
        w).2.Placed e.layout :=
      keeps_prepareBatch (fun u hu => ⟨hu.trust, hu.history, hu.attestations, hu.snapshots⟩) _ _ w hsteady.placed
    rw [hbatch] at hplaced
    refine .inl ⟨⟨error, rfl⟩, ⟨by rw [hr₁]; exact ⟨rfl, rfl, rfl⟩, by rw [hr₁]; rfl, hplaced, fun hquiet => ?_⟩⟩
    have hkept : Workspace.Untouched e.layout w ((Batch.prepare e.registry e.config.maxLines e.root
        (e.deadline w.clock) decision.selected).exec w).2 :=
      keeps_prepareBatch (hquiet.keeps_pause .prepared) _ _ w ⟨rfl, hsteady.placed, .refl _ _⟩
    rwa [hbatch] at hkept
  have hb : Acting.batch e ⟨report, decision, ⟨begun id decision, w⟩⟩ = b := by
    rw [Acting.batch]
    simp only [hbatch]
  obtain ⟨hsteady', hsound, hfound, hapart⟩ := Batch.prepare_ok hsteady hproper htarget hbatch
  have hplaced : Workspace.Untouched e.layout v v := ⟨rfl, hsteady'.placed, .refl _ _⟩
  have htake (v'' : Workspace) (res' : Except Engine.Error Unit)
      (h : (Workspace.onSnapshots (Snapshot.take (begun id decision).id (List.map Prepared.capture b)
        e.config.retention now)).exec v = (res', v'')) : Workspace.Untouched e.layout v v'' := by
    have hkept := Workspace.keeps_onSnapshots (fun d => Snapshot.keeps_take (d := d) (begun id decision).id
      (List.map Prepared.capture b) e.config.retention now) v hplaced
    rwa [h] at hkept
  rcases hcase with ⟨⟨error, hstored, rfl⟩, rfl⟩ | ⟨hstored, hres₁, rfl⟩
  · obtain ⟨rfl, rfl⟩ := Prod.mk.inj hrun
    have huntouched := htake v' _ hstored
    refine .inl ⟨⟨error, rfl⟩, ⟨⟨rfl, rfl, rfl⟩, rfl, huntouched.placed, fun hquiet => ?_⟩⟩
    obtain ⟨hstill, -⟩ := hquiet.prepare (fun f hf => hproper _ (htarget f hf)) hbatch
    exact ⟨huntouched.around.trans hstill.1, huntouched.placed, fun m hm => by
      rw [huntouched.outside m hm, hstill.2]⟩
  have harmed : Batch.Armed e id b (Snapshot.capture id (List.map Prepared.capture b) now) v' :=
    Batch.take_ok hsteady' hfound hapart hstored
  have huntouched := htake v' _ hstored
  have hcalm (hquiet : e.Quiet w) : v'.around = w.around ∧
      (∃ x : Snapshot.Session, (Snapshot.take id (List.map Prepared.capture b) e.config.retention now).exec
          ⟨w.disk, w.snapshots⟩ = (.ok (), x) ∧ e.layout.Outside w.disk x.disk ∧ v'.snapshots = x.store ∧
        ((Workspace.pause .saved).exec v').2.disk = x.disk) ∧
      ∀ p ∈ b, w.disk.fileAt (p.file.below e.root) = some p.before.toUTF8 := by
    obtain ⟨hstill, hbefore⟩ := hquiet.prepare (fun f hf => hproper _ (htarget f hf)) hbatch
    have hstore : v.snapshots = w.snapshots := by
      have hkept := keeps_prepareBatch (e := e) (P := fun u => u.snapshots = w.snapshots) (fun u hu => hu)
        (e.deadline w.clock) decision.selected w rfl
      rwa [hbatch] at hkept
    have haround : v'.around = w.around := huntouched.around.trans hstill.1
    rw [Workspace.exec_onSnapshots, hstill.2, hstore] at hstored
    rcases htaken : (Snapshot.take id (List.map Prepared.capture b) e.config.retention now).exec
      ⟨w.disk, w.snapshots⟩ with ⟨res, x⟩
    rw [show (begun id decision).id = id from rfl, htaken] at hstored
    obtain ⟨hok, rfl⟩ := Prod.mk.inj hstored
    cases res with
    | error => cases hok
    | ok =>
      refine ⟨haround, ⟨x, rfl, fun m hm => by rw [← hstill.2]; exact huntouched.outside m hm, rfl, ?_⟩, hbefore⟩
      rw [Workspace.exec_pause, haround]
      exact hquiet.edits _ _ _
  right
  rcases hres₁ with rfl | ⟨error, rfl⟩
  swap
  · -- the deadline has passed before anything was written
    obtain ⟨rfl, rfl⟩ := Prod.mk.inj hrun
    refine ⟨⟨rfl, rfl⟩, .inl rfl, hb ▸ hsound, by rw [hb]; exact harmed.pause hsound .saved, nofun, nofun,
      fun hquiet => ?_⟩
    obtain ⟨haround, ⟨x, htaken, houtside, hstore, hsame⟩, hbefore⟩ := hcalm hquiet
    refine ⟨haround, x, by rw [hb]; exact htaken, houtside, hstore, by rw [hb]; exact hbefore, ?_⟩
    rw [hsame]
    exact .none _ _ _
  dsimp only at hrun
  obtain ⟨as, error, v₂, hwrite, harmed₂, haround₂, hfits, hstore₂, hall, hwrote⟩ :=
    Batch.exec_writeEach (e.deadline w.clock) (e.config.parallel.workersFor? b.length).isSome
      (harmed.pause hsound .saved) hsound hproper (fun p hp => hp) hsound.nodup
  have hcalm₂ (hquiet : e.Quiet w) : v₂.around = w.around ∧ ∃ x : Snapshot.Session,
      (Snapshot.take id (List.map Prepared.capture b) e.config.retention now).exec ⟨w.disk, w.snapshots⟩ =
          (.ok (), x) ∧ e.layout.Outside w.disk x.disk ∧ v₂.snapshots = x.store ∧
        (∀ p ∈ b, w.disk.fileAt (p.file.below e.root) = some p.before.toUTF8) ∧
        Batch.Wrote e.root b as x.disk v₂.disk := by
    obtain ⟨haround, ⟨x, htaken, houtside, hstore, hsame⟩, hbefore⟩ := hcalm hquiet
    refine ⟨haround₂.trans haround, x, htaken, houtside, hstore₂.trans hstore, hbefore, ?_⟩
    rw [← hsame]
    refine hwrote fun n p d => ?_
    rw [show ((Workspace.pause .saved).exec v').2.around = v'.around from rfl, haround]
    exact hquiet.edits n p d
  rw [exec_bind, Run.exec_onWorkspace, Batch.write, hwrite] at hrun
  dsimp only at hrun
  rw [Run.change, exec_bind_ok (exec_modify _ _)] at hrun
  cases error with
  | some error =>
    obtain ⟨rfl, rfl⟩ := Prod.mk.inj hrun
    exact ⟨⟨rfl, rfl⟩, .inl rfl, hb ▸ hsound, by rw [hb]; exact harmed₂, by rw [hb]; exact hfits, nofun,
      fun hquiet => by rw [hb]; exact hcalm₂ hquiet⟩
  | none =>
    dsimp only at hrun
    rw [exec_bind_ok (Run.exec_enter (w := ⟨.verify, [.observe, .decide, .act, .verify]⟩) rfl),
      Run.exec_onWorkspace] at hrun
    obtain ⟨-, rfl⟩ := Prod.mk.inj hrun
    have hverified := Armed.verify htools hsound (e.limit? .verify) report v₂ harmed₂
    refine ⟨⟨rfl, rfl⟩, .inr rfl, hb ▸ hsound, by rw [hb]; exact hverified, by rw [hb]; exact hfits,
      fun _ => by rw [hb]; exact hall rfl, fun hquiet => ?_⟩
    obtain ⟨haround, x, htaken, houtside, hstore, hbefore, hwrote⟩ := hcalm₂ hquiet
    have hquiet₂ : e.Quiet v₂ := ⟨by rw [haround]; exact hquiet.edits, hquiet.analyze, hquiet.build⟩
    obtain ⟨haround₃, hsame⟩ := hquiet₂.still_verify (e.limit? .verify) report v₂ ⟨rfl, rfl⟩
    have hstore₃ : ((e.verify (e.limit? .verify) report).exec v₂).2.snapshots = v₂.snapshots :=
      keeps_verify (P := fun u => u.snapshots = v₂.snapshots) (fun u hu => hu) (fun u hu => hu) _ _ v₂ rfl
    rw [hb]
    refine ⟨haround₃.trans haround, x, htaken, houtside, hstore₃.trans hstore, hbefore, ?_⟩
    rw [hsame]
    exact hwrote

end Engine
end Mend
