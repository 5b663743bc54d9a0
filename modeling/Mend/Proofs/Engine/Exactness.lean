import Mend.Proofs.Engine.Recording

/-!
# Rolling back is exact

A cycle that nobody disturbs leaves the files outside of the state directory as they were, unless it succeeds.
If others change files meanwhile, every file that the cycle wrote is brought back, or the cycle tells which of
them hold what someone else made of them (`rollback_exact`).
-/

namespace Mend

open Fs Fs.Disk Ledger
open Action
open Function (update)

theorem Verdict.judge_ne_noop (before after : Count) (passed : Bool) (marginal : Float) :
    judge before after passed marginal ≠ .noop := by
  rw [judge]
  split
  · nofun
  · split <;> nofun

namespace Engine

variable {e : Engine} {id : CycleId} {now : Time} {w w' : Workspace} {c : Failure} {α : Type}

/-! ## Cycles that do not fail -/

theorem yields_result (verdict : Verdict) (before after : Count) (error : Option Engine.Error) (digest : Digest) :
    Yields (fun r => r.cycle.walk.current = .done) (result verdict before after error digest) fun res _ =>
      res.phase = .done ∧ res.verdict = verdict := by
  rintro r res r' hr hrun
  obtain ⟨hres, -⟩ := Prod.mk.inj hrun
  obtain rfl := Except.ok.inj hres
  exact ⟨hr, rfl⟩

theorem keeps_cycle_attest {P : Cycle → Prop} (before after : Count) (verdict : Verdict) (now : Time) :
    Keeps (fun r => P r.cycle) (attest before after verdict now) :=
  keeps_get.bind fun _ => (Run.keeps_cycle _).bind fun _ => keeps_pure _

theorem yields_finishIdle (report : Report) :
    Yields (fun _ => True) (finishIdle report now) fun res _ => res.phase = .done ∧ res.verdict = .noop :=
  (Run.yields_enter .done _).bind fun _ =>
    (keeps_cycle_attest (P := fun c => c.walk.current = .done) _ _ _ _).yields.bind fun _ => yields_result _ _ _ _ _

/-- What verifying comes to is judged by what was found. -/
theorem yields_verify (limit : Option Nat) (report : Report) : Yields (fun _ => True) (e.verify limit report) fun v _ =>
    ∃ after build, v = .of report.count after build e.config.marginalImprovement := by
  refine yields_any.bind fun ⟨after, analyzing⟩ => yields_any.bind fun _ => ?_
  cases after with
  | error cause => exact fun w a w' _ hrun => nomatch (Prod.mk.inj hrun).1
  | ok after =>
    refine yields_any.bind fun ⟨build, building⟩ => yields_any.bind fun _ => ?_
    cases build with
    | error cause => exact fun w a w' _ hrun => nomatch (Prod.mk.inj hrun).1
    | ok build => exact yields_pure fun _ _ => ⟨after.count, build, rfl⟩

section

variable {l : Layout} {w₀ : Workspace}

theorem keeps_ensure (id : String) : Keeps (Workspace.Untouched l w₀) (Workspace.onTrust (Trust.ensure id)) :=
  Workspace.keeps_onTrust fun _ => Trust.keeps_ensure id

theorem Quiet.keeps_survey (h : e.Quiet w₀) (now : Time) :
    Keeps (fun r => Workspace.Untouched l w₀ r.workspace) (e.survey now) :=
  Engine.keeps_survey h.keeps_pause h.keeps_analyze Workspace.keeps_openTrust keeps_ensure now

theorem Quiet.congr (h : e.Quiet w) (haround : w'.around = w.around) : e.Quiet w' where
  edits := by
    rw [haround]
    exact h.edits
  analyze := h.analyze
  build := h.build

/-- When a cycle starts to act, no file outside of the state directory has changed. -/
theorem Quiet.acting (h : e.Quiet w) (hplaced : w.Placed e.layout) {a : Acting} (ha : e.acting? id now w = some a) :
    Workspace.Untouched e.layout w a.run.workspace := by
  obtain ⟨l, locked, hlock, hsurvey, -, -⟩ := acting_of_some ha
  have hlocked := Workspace.keeps_acquire w (⟨rfl, hplaced, .refl _ _⟩ : Workspace.Untouched e.layout w w)
  rw [hlock] at hlocked
  have hsurveyed := h.keeps_survey now ⟨{ id := id }, locked⟩ hlocked
  rwa [hsurvey] at hsurveyed

/-- A cycle that does not act changes no file outside of the state directory. -/
theorem Quiet.idle (h : e.Quiet w) (hplaced : w.Placed e.layout) (hnone : e.acting? id now w = none) :
    e.layout.Outside w.disk ((e.runCycle id now).exec w).2.disk := by
  have hlocked := Workspace.keeps_acquire w (⟨rfl, hplaced, .refl _ _⟩ : Workspace.Untouched e.layout w w)
  rcases hrun : (e.runCycle id now).exec w with ⟨res, w'⟩
  rcases runCycle_cases hrun with ⟨-, hidle⟩ | ⟨a, ha, -⟩
  · rcases hidle with ⟨error, hlock, -⟩ | ⟨l, locked, hlock, hrest⟩
    · rw [hlock] at hlocked
      exact hlocked.outside
    rw [hlock] at hlocked
    have hsurveyed := h.keeps_survey now ⟨{ id := id }, locked⟩ hlocked
    rcases hrest with ⟨error, r, hsurvey, -, held, rfl⟩ | ⟨x, r, r', hsurvey, hfinish, held, rfl⟩
    · rw [hsurvey] at hsurveyed
      exact hsurveyed.outside
    · rw [hsurvey] at hsurveyed
      have hkept : Keeps (fun r => Workspace.Untouched e.layout w r.workspace) (finishIdle x.1 now) := by
        refine (Run.keeps_enter .done).bind fun _ => Keeps.bind ?_ fun _ => keeps_get.bind fun _ => keeps_pure _
        intro r hr
        exact (keeps_attest (P := fun _ => True) _ _ _ _ r ⟨trivial, hr⟩).2
      have hfinished := hkept r hsurveyed
      rw [hfinish] at hfinished
      exact hfinished.outside
  · rw [hnone] at ha
    cases ha

end

/-- If nobody else is there, a cycle that is rolled back has brought every file back. -/
theorem Quiet.restored (h : e.Quiet w) (hsetting : e.Setting id now w) (hc : c ∈ e.failure? id now w)
    (hdistinct : c.Distinct e) (htold : (e.restoreCycle.exec c.run).1 = .ok none) :
    e.layout.Outside w.disk (c.restored e).workspace.disk := by
  obtain ⟨ha, -⟩ := failure_of_some hc
  have hacting := h.acting hsetting.placed ha
  have hquiet : e.Quiet c.acting.run.workspace := h.congr hacting.around
  rw [Failure.restored]
  rcases hsetting.failure hc with hunarmed | hacted
  · -- nothing was written, and nothing is restored
    have huntouched := hunarmed.quiet hquiet
    rw [exec_restoreCycle_unarmed hunarmed.cycle.2.1]
    exact hacting.outside.trans (hquiet.keeps_pause .restoring _ huntouched).outside
  obtain ⟨haround, x, -, houtside, -, hbefore, hwrote⟩ := hacted.quiet hquiet
  have hrestoring : c.restoring.disk = c.run.workspace.disk := (hquiet.congr haround).edits _ _ _
  obtain ⟨told, d', hrun, hother, hcase⟩ := hsetting.restore_acted hc hdistinct hacted
  rw [hrun] at htold ⊢
  obtain rfl := Except.ok.inj htold
  rcases hcase with ⟨lost, -, -, -, hall⟩ | ⟨-, ⟨cause, hcause⟩, -⟩
  swap
  · cases hcause
  intro m hm
  show d'.fileAt m = w.disk.fileAt m
  rw [← hacting.outside m hm]
  by_cases hbatch : ∃ p ∈ c.batch e, m = p.file.below e.root
  · obtain ⟨p, hp, rfl⟩ := hbatch
    rw [hbefore p hp]
    by_cases hafter : c.restoring.disk.fileAt (p.file.below e.root) = some p.after.toUTF8
    · exact (hall p hp).of_after rfl hafter
    rw [fileAt_congr ((hall p hp).of_ne hafter), hrestoring]
    -- a file that was not written holds what it held before
    have hnot : p.file ∉ c.run.cycle.applied.map Applied.file := by
      intro hwritten
      rw [hrestoring] at hafter
      exact hafter (hwrote.written p hp hwritten)
    rw [fileAt_congr (hwrote.other _ ?_), houtside _ hm, hbefore p hp]
    intro q hq hwritten heq
    exact hnot (RelPath.below_inj heq ▸ hwritten)
  · have hbatch' : ∀ p ∈ c.batch e, m ≠ p.file.below e.root := fun p hp heq => hbatch ⟨p, hp, heq⟩
    rw [fileAt_congr (hother m hbatch'), hrestoring, fileAt_congr (hwrote.other m fun p hp _ => hbatch' p hp),
      houtside m hm]

/-! ## The whole -/

/-- A failed cycle ends as rolled back if no file is lost, and else with those that are. A cycle that cannot be
recorded ends with some error. -/
def Failure.Ends (e : Engine) (id : CycleId) (now : Time) (c : Failure) (lost : List RelPath)
    (res : Except Engine.Error CycleResult) : Prop :=
  match c.recorded e now with
  | .error _ => ∃ error, res = .error error
  | .ok _ =>
    if lost.isEmpty then ∃ r, res = .ok r ∧ r.phase = .rolledBack ∧ r.files = filesWritten c.run.cycle
    else res = .error (.rollbackFailed (.drift id lost))

/-- A file that was written belongs to the batch. -/
theorem Setting.mem_batch (h : e.Setting id now w) (hc : c ∈ e.failure? id now w) {q : RelPath}
    (hq : q ∈ filesWritten c.run.cycle) : ∃ p ∈ c.batch e, p.file = q := by
  obtain ⟨a, ha, rfl⟩ := List.mem_map.mp hq
  rcases h.failure hc with hunarmed | hacted
  · rw [hunarmed.cycle.2.2] at ha
    cases ha
  · obtain ⟨p, hp, hfile, -⟩ := hacted.fits a ha
    exact ⟨p, hp, hfile.symm⟩

/-- How a failed cycle ends, and what became of the files that it wrote. -/
theorem Setting.ends (h : e.Setting id now w) (hc : c ∈ e.failure? id now w) (hdistinct : c.Distinct e) :
    (∃ lost : List RelPath, lost.Nodup ∧ (∀ q, q ∈ lost ↔ c.Lost e q) ∧
        (∀ q ∈ filesWritten c.run.cycle, ∃ p ∈ c.batch e, p.file = q ∧ (q ∉ lost → c.left e p = some p.before.toUTF8)) ∧
        (e.restoreCycle.exec c.run).1 = .ok (if lost.isEmpty then none else some (.drift id lost)) ∧
        c.Ends e id now lost ((e.runCycle id now).exec w).1) ∨
      c.Cramped e ∧ (∃ cause, (e.restoreCycle.exec c.run).1 = .ok (some cause)) ∧
        ∃ error, ((e.runCycle id now).exec w).1 = .error error := by
  obtain ⟨told, htold, hcase⟩ := h.restore hc hdistinct
  obtain ⟨res, r', hrun, -, hend⟩ := h.rollBack hc hdistinct htold
  have hres : ((e.runCycle id now).exec w).1 = res := by rw [(runCycle_failure hc).1, hrun]
  rcases hcase with ⟨lost, hnodup, hlost, rfl, hleft⟩ | ⟨hcramped, cause, rfl⟩
  · refine .inl ⟨lost, hnodup, hlost, fun q hq => ?_, by rw [htold], ?_⟩
    · obtain ⟨p, hp, rfl⟩ := h.mem_batch hc hq
      exact ⟨p, hp, rfl, fun hkept => hleft p hp hq fun hl => hkept ((hlost _).mpr hl)⟩
    · rw [hres, Failure.Ends, Failure.recorded]
      rcases hend with ⟨error, hrecord, rfl⟩ | ⟨⟨digest, hrecord⟩, hend⟩
      · rw [hrecord]
        exact ⟨error, rfl⟩
      · rw [hrecord]
        dsimp only
        rcases hend with ⟨cause, hcause, rfl⟩ | ⟨hnone, r, rfl, hphase, hfiles⟩
        · split at hcause
          · cases hcause
          · next hne =>
            obtain rfl := Option.some.inj hcause
            rw [if_neg hne]
        · split at hnone
          · next hempty =>
            rw [if_pos hempty]
            exact ⟨r, rfl, hphase, hfiles⟩
          · cases hnone
  · refine .inr ⟨hcramped, ⟨cause, by rw [htold]⟩, ?_⟩
    rw [hres]
    rcases hend with ⟨error, -, rfl⟩ | ⟨-, ⟨cause', -, rfl⟩ | ⟨hnone, -⟩⟩
    · exact ⟨error, rfl⟩
    · exact ⟨_, rfl⟩
    · cases hnone

/-- Restoring changes neither trust nor history nor log. -/
theorem keeps_restoreCycle {P : Trust.Store → History.Store → Attestation.Store → Prop} :
    Keeps (fun r => P r.workspace.trust r.workspace.history r.workspace.attestations) e.restoreCycle := by
  have hpause : Keeps (fun r => P r.workspace.trust r.workspace.history r.workspace.attestations)
      (Run.onWorkspace (Workspace.pause .restoring)) := fun r hr => hr
  refine hpause.bind fun _ => keeps_get.bind ?_
  rintro ⟨⟨id, walk, recipes, _ | snapshot, applied⟩, w⟩
  · exact keeps_pure _
  · refine Keeps.bind (fun r hr => hr) fun res => ?_
    cases res <;> exact keeps_pure _

/-- Where trust, history and log are kept in memory a cycle is recorded. -/
theorem recorded_of_glance {g : Glance} (hg : tidy.glance c = g) (hrecordable : g.recordable = true) :
    ∃ digest, c.recorded tidy default = .ok digest := by
  subst hg
  have hmemory : c.run.workspace.trust.file = none ∧ (∃ entries, c.run.workspace.history = .memory entries) ∧
      ∃ log, c.run.workspace.attestations = .memory log := by
    rw [glance] at hrecordable
    dsimp only at hrecordable
    split at hrecordable
    · next htrust hhistory hlog => exact ⟨htrust, ⟨_, hhistory⟩, _, hlog⟩
    · cases hrecordable
  obtain ⟨htrust, hhistory, hlog⟩ := keeps_restoreCycle (e := tidy) (P := fun t h a =>
    t.file = none ∧ (∃ entries, h = .memory entries) ∧ ∃ log, a = .memory log) c.run hmemory
  obtain ⟨digest, r, hrun, -⟩ := succeeds_record (e := tidy) c.acting.report c.verification c.error default
    (c.restored tidy) ⟨rfl, Workspace.writable_of_memory htrust hhistory hlog⟩
  exact ⟨digest, by rw [Failure.recorded, hrun]⟩

/-- Others put another line into the file after it was written. -/
def lostLine (p : Point) : Option String := if p = .restoring then some "z\n" else none

set_option maxRecDepth 100000 in
/-- Then that file is lost. -/
theorem exists_lostLine : tidy.Setting default default (amid lostLine (.memory [])) ∧
    ∃ c ∈ tidy.failure? default default (amid lostLine (.memory [])),
      c.Distinct tidy ∧ (∃ digest, c.recorded tidy default = .ok digest) ∧ ¬ c.Cramped tidy ∧
        ∀ lost : List RelPath, lost.Nodup → (∀ q, q ∈ lost ↔ c.Lost tidy q) → lost = [⟨["a"]⟩] := by
  obtain ⟨hsetting, c, hc, hglance⟩ := exists_of_glance lostLine (.memory [])
    ⟨[tidied], [⟨["a"]⟩], [some "z\n".toUTF8], ["trailing-whitespace"], some default, true, true, false⟩ nofun
    (by decide +kernel) rfl
  have hbatch : c.batch tidy = [tidied] := congrArg Glance.batch hglance
  have hwritten : filesWritten c.run.cycle = [⟨["a"]⟩] := congrArg Glance.written hglance
  have hheld := held_of_glance hglance rfl rfl
  refine ⟨hsetting, c, hc, distinct_of_glance hbatch hheld (by decide), recorded_of_glance hglance rfl, ?_, ?_⟩
  · rintro ⟨p, hp, hnot, -⟩
    rw [hbatch, List.mem_singleton] at hp
    subst hp
    exact absurd (by simp [hwritten, tidied]) hnot
  intro lost hnodup hlost
  have hline : (⟨["a"]⟩ : RelPath) ∈ lost :=
    (hlost _).mpr ⟨by simp [hwritten], tidied, by simp [hbatch], rfl, by rw [hheld]; decide, by rw [hheld]; decide⟩
  refine List.perm_singleton.mp ((List.perm_ext_iff_of_nodup hnodup (by simp)).mpr fun q => ?_)
  rw [List.mem_singleton]
  refine ⟨fun hq => ?_, fun hq => hq ▸ hline⟩
  have hq' := ((hlost q).mp hq).1
  rwa [hwritten, List.mem_singleton] at hq'

end Engine
end Mend
