import Mend.Proofs.Diff.Count
import Mend.Proofs.Engine.Exactness

/-!
# The risk budget

However a cycle ends, it writes no more files than its budget allows, and only files that an eligible issue of the
report points into; and no more lines of a file change than the budget allows (**`budget_kept`**). The decision
looks at estimates (`Decision.admissible_decide`); what counts here is what is made of a file (`Prepared.Fits`).
Files are written from the batch and no two of a batch are the same, so that the decision bounds their number
(`length_batch_le`).

The lines are counted from the content that a file has when its new content is prepared. If nobody else is there, that
is what it had before the cycle, and at the end of acting the files that were written are all that has changed. A tool
that changes the file itself before that can make the difference to the time before the cycle larger
(`exceeds_of_analyzer_edit`).
-/

namespace Mend

open Fs Fs.Disk Ledger
open Action

/-! ## Counting lines -/

/-- In texts whose lines can be counted the changed lines can be, so that the limit holds for their number. -/
theorem Prepared.Fits.changedLines_le {p : Prepared} {maxLines : Count} (h : p.Fits maxLines)
    (hbefore : (Text.lines p.before).length < UInt32.size) (hafter : (Text.lines p.after).length < UInt32.size) :
    (Diff.between p.before p.after).changedLines ≤ maxLines.toNat := by
  have hbound := Diff.changedLines_between_le p.before p.after
  have hcells : Diff.maxCells < UInt32.size := by decide
  have hle := UInt32.le_iff_toNat_le.mp h
  rw [Count.toNat_ofNatClamped] at hle
  omega

/-! ## What is written -/

namespace Batch

variable {root : Place} {deadline : Option Deadline} {onward : Bool} {b : Batch} {w w' : Workspace}

theorem yields_writeFile (p : Prepared) : Yields (fun _ => True) (writeFile root p) fun a _ => a = p.applied := by
  intro d a d' _ hrun
  rw [writeFile, exec_bind, exec_query] at hrun
  cases hread : d.read (root.file p.file).location with
  | error err =>
    rw [hread] at hrun
    cases (Prod.mk.inj hrun).1
  | ok content =>
    rw [hread] at hrun
    dsimp only at hrun
    split at hrun
    · cases (Prod.mk.inj hrun).1
    · rw [exec_bind] at hrun
      split at hrun
      · obtain ⟨ha, -⟩ := Prod.mk.inj hrun
        exact (Except.ok.inj ha).symm
      · cases (Prod.mk.inj hrun).1

theorem yields_writeInTime (p : Prepared) :
    Yields (fun _ => True) (writeInTime root deadline p) fun r _ => ∀ a, r = .ok a → a = p.applied := by
  have hwrite : Yields (fun _ => True) (do
      Action.query fun w : Workspace => checkDeadline deadline w.clock
      Workspace.onFiles (writeFile root p) : Workspace.Step Applied) fun a _ => a = p.applied := by
    refine Yields.bind (Q := fun _ _ => True) (fun _ _ _ _ _ => trivial) fun _ => ?_
    intro w a w' _ hrun
    rw [Workspace.exec_onFiles] at hrun
    exact yields_writeFile p w.disk a _ trivial (Prod.ext (Prod.mk.inj hrun).1 rfl)
  intro w r w' _ hrun a hr
  rw [writeInTime, exec_bind, exec_outcome] at hrun
  obtain ⟨hok, -⟩ := Prod.mk.inj hrun
  obtain rfl := Except.ok.inj hok
  exact hwrite w a _ trivial (Prod.ext hr rfl)

/-- Only what is prepared is written, and each file of it once. -/
theorem sublist_of_writeEach {as : List Applied} {error : Option Engine.Error}
    (h : (writeEach root deadline onward b).exec w = (.ok (as, error), w')) : as.Sublist (b.map Prepared.applied) := by
  induction b generalizing w w' as error with
  | nil =>
    obtain ⟨has, -⟩ := Prod.mk.inj h
    obtain ⟨rfl, -⟩ := Prod.mk.inj (Except.ok.inj has)
    exact .slnil
  | cons p rest ih =>
    rcases hstep : (writeInTime root deadline p).exec w with ⟨cause | r, v⟩
    · rw [writeEach, exec_bind_error hstep] at h
      cases (Prod.mk.inj h).1
    rw [exec_writeEach_cons hstep] at h
    rcases hrest : (writeEach root deadline onward rest).exec v with ⟨cause | ⟨as', error'⟩, v'⟩
    all_goals rw [hrest] at h
    · cases r with
      | ok a => cases (Prod.mk.inj h).1
      | error cause' =>
        dsimp only at h
        split at h
        · cases (Prod.mk.inj h).1
        · obtain ⟨has, -⟩ := Prod.mk.inj h
          obtain ⟨rfl, -⟩ := Prod.mk.inj (Except.ok.inj has)
          exact List.nil_sublist _
    · have hrest' := ih hrest
      cases r with
      | ok a =>
        obtain ⟨has, -⟩ := Prod.mk.inj h
        obtain ⟨rfl, -⟩ := Prod.mk.inj (Except.ok.inj has)
        have ha : a = p.applied := yields_writeInTime p w _ v trivial hstep a rfl
        rw [ha]
        exact hrest'.cons_cons _
      | error cause' =>
        dsimp only at h
        split at h
        · obtain ⟨has, -⟩ := Prod.mk.inj h
          obtain ⟨rfl, -⟩ := Prod.mk.inj (Except.ok.inj has)
          exact hrest'.cons _
        · obtain ⟨has, -⟩ := Prod.mk.inj h
          obtain ⟨rfl, -⟩ := Prod.mk.inj (Except.ok.inj has)
          exact List.nil_sublist _

end Batch

namespace Engine

variable {e : Engine} {id : CycleId} {now : Time} {w w' : Workspace} {a : Acting}

/-- Where acting and verifying lead. -/
def Acting.acted (e : Engine) (now : Time) (a : Acting) : Run :=
  ((e.act a.report a.decision.selected now).exec a.run).2

/-- The files that a run of a cycle writes. -/
def written (e : Engine) (id : CycleId) (now : Time) (w : Workspace) : List RelPath :=
  (e.acting? id now w).elim [] fun a => filesWritten (a.acted e now).cycle

/-! ## The batch -/

theorem nodup_batch (e : Engine) (a : Acting) : ((a.batch e).map Prepared.file).Nodup := by
  rw [Acting.batch]
  split
  · next hrun => exact Batch.nodup_of_prepare hrun
  · exact List.nodup_nil

theorem keeps_applied_enter (as : List Applied) (p : Phase) :
    Keeps (fun r => r.cycle.applied = as) (Run.enter p) := by
  intro r hr
  rw [Run.enter, exec_update]
  cases r.cycle.walk.advance? p with
  | none => exact hr
  | some walk => exact hr

/-- Whatever comes of acting, only what is prepared is written. -/
theorem sublist_of_act (happlied : a.run.cycle.applied = []) :
    (a.acted e now).cycle.applied.Sublist ((a.batch e).map Prepared.applied) := by
  rcases hrun : (e.act a.report a.decision.selected now).exec a.run with ⟨res, r⟩
  rw [Acting.acted, hrun]
  rw [act, exec_bind_ok (exec_get _)] at hrun
  dsimp only at hrun
  rw [exec_bind] at hrun
  rcases hprepare : (e.prepare a.decision.selected (e.deadline a.run.workspace.clock) now).exec a.run with ⟨res₁, r₁⟩
  rw [show (e.config.timeouts.limit? .act).map (fun s => Deadline.after .act s a.run.workspace.clock) =
    e.deadline a.run.workspace.clock from rfl, hprepare] at hrun
  have happlied₁ : r₁.cycle.applied = [] := by
    rcases prepare_cases hprepare with ⟨error, -, -, hr₁⟩ | ⟨b, v, -, v', ⟨-, hr₁⟩ | ⟨-, -, hr₁⟩⟩
    · rw [hr₁, happlied]
    · rw [hr₁]
      exact happlied
    · rw [hr₁]
      exact happlied
  cases res₁ with
  | error error =>
    obtain ⟨-, rfl⟩ := Prod.mk.inj hrun
    rw [happlied₁]
    exact List.nil_sublist _
  | ok b =>
    have hb : a.batch e = b := by
      rcases prepare_cases hprepare with ⟨error, -, herror, -⟩ | ⟨b', v, hbatch, v', ⟨⟨_, -, herror⟩, -⟩ | ⟨-, hres, -⟩⟩
      · cases herror
      · cases herror
      · rcases hres with hres | ⟨_, herror⟩
        · obtain rfl := Except.ok.inj hres
          rw [Acting.batch, hbatch]
        · cases herror
    rw [hb]
    dsimp only at hrun
    rw [exec_bind, Run.exec_onWorkspace, Batch.write] at hrun
    rcases hwrite : (Batch.writeEach e.root (e.deadline a.run.workspace.clock)
      (e.config.parallel.workersFor? b.length).isSome b).exec r₁.workspace with ⟨error | ⟨as, failed⟩, v⟩
    · rw [hwrite] at hrun
      obtain ⟨-, rfl⟩ := Prod.mk.inj hrun
      rw [happlied₁]
      exact List.nil_sublist _
    rw [hwrite] at hrun
    dsimp only at hrun
    rw [Run.change, exec_bind_ok (exec_modify _ _)] at hrun
    have has : r.cycle.applied = as := by
      cases failed with
      | some error =>
        obtain ⟨-, rfl⟩ := Prod.mk.inj hrun
        rfl
      | none =>
        have hkept : Keeps (fun r => r.cycle.applied = as) (do
            Run.enter .verify
            Run.onWorkspace (e.verify (e.limit? .verify) a.report)) :=
          (keeps_applied_enter _ _).bind fun _ => Run.keeps_cycle (P := fun c => c.applied = as) _
        have hend := hkept ⟨{ r₁.cycle with applied := as }, v⟩ rfl
        rwa [hrun] at hend
    rw [has]
    exact Batch.sublist_of_writeEach hwrite

section

variable (ha : e.acting? id now w = some a)
include ha

/-- What is recorded of a cycle that acts was prepared. -/
theorem sublist_applied : (a.acted e now).cycle.applied.Sublist ((a.batch e).map Prepared.applied) := by
  obtain ⟨-, -, -, -, -, hcycle⟩ := acting_of_some ha
  exact sublist_of_act (congrArg Cycle.applied hcycle)

theorem written_eq : e.written id now w = filesWritten (a.acted e now).cycle := by
  rw [written, ha, Option.elim_some]

theorem sublist_written : (e.written id now w).Sublist ((a.batch e).map Prepared.file) := by
  have hfiles := (sublist_applied ha).map Applied.file
  rw [List.map_map] at hfiles
  rw [written_eq ha]
  exact hfiles

theorem exists_of_mem_written {q : RelPath} (hq : q ∈ e.written id now w) :
    ∃ p ∈ a.batch e, p.file = q ∧ p.applied ∈ (a.acted e now).cycle.applied := by
  rw [written_eq ha] at hq
  obtain ⟨x, hx, rfl⟩ := List.mem_map.mp hq
  obtain ⟨p, hp, rfl⟩ := List.mem_map.mp ((sublist_applied ha).subset hx)
  exact ⟨p, hp, rfl, hx⟩

end

/-! ## The decision -/

/-- A cycle acts on what was decided about the issues of its report. -/
theorem decision_of_acting (ha : e.acting? id now w = some a) :
    ∃ trust sizes, a.decision = Decision.byTrust e.registry e.config trust e.scorer sizes a.report.issues := by
  obtain ⟨l, locked, -, hrun, -, -⟩ := acting_of_some ha
  exact (yields_survey_decision now _ _ _ trivial hrun).2

/-- What is selected for a file repairs an eligible issue of the report. -/
theorem exists_eligible (ha : e.acting? id now w = some a) {q : RelPath}
    (hq : ∃ f ∈ a.decision.selected, f.issue.file = q) : ∃ i ∈ a.report.issues, i.eligible = true ∧ i.file = q := by
  obtain ⟨trust, sizes, hdecision⟩ := decision_of_acting ha
  obtain ⟨f, hf, hfile⟩ := hq
  rw [hdecision] at hf
  obtain ⟨hissue, heligible⟩ := Decision.mem_selected hf
  exact ⟨f.issue, hissue, heligible, hfile⟩

/-- The files that something is selected for are no more than the budget allows. -/
theorem card_selected_le (ha : e.acting? id now w = some a) (hproper : ∀ i ∈ a.report.issues, i.file.Proper) :
    (Budget.files a.decision.selected).card ≤ e.config.maxFiles := by
  obtain ⟨trust, sizes, hdecision⟩ := decision_of_acting ha
  rw [hdecision, Decision.byTrust, Decision.decide_eq]
  exact (Decision.admissible_decide hproper).admits.files_le

theorem length_batch_le (ha : e.acting? id now w = some a) (hproper : ∀ i ∈ a.report.issues, i.file.Proper) :
    (a.batch e).length ≤ e.config.maxFiles := by
  refine Nat.le_trans ?_ (card_selected_le ha hproper)
  rw [← List.length_map Prepared.file, ← List.toFinset_card_of_nodup (nodup_batch e a)]
  refine Finset.card_le_card fun q hq => ?_
  obtain ⟨p, hp, rfl⟩ := List.mem_map.mp (List.mem_toFinset.mp hq)
  exact Budget.mem_files.mpr (mem_batch hp).1

/-! ## The result -/

theorem yields_files (as : List Applied) (verdict : Verdict) (before after : Count) (error : Option Engine.Error)
    (digest : Digest) : Yields (fun r => r.cycle.applied = as) (result verdict before after error digest) fun res _ =>
      res.files = as.map Applied.file := by
  rintro r res r' rfl hrun
  obtain ⟨hres, -⟩ := Prod.mk.inj hrun
  obtain rfl := Except.ok.inj hres
  rfl

theorem keeps_applied_attest (as : List Applied) (before after : Count) (verdict : Verdict) :
    Keeps (fun r => r.cycle.applied = as) (attest before after verdict now) :=
  keeps_cycle_attest (P := fun c => c.applied = as) _ _ _ _

theorem keeps_applied_learn (as : List Applied) (lessons : List Lesson) (report : Report) (v : Option Verification) :
    Keeps (fun r => r.cycle.applied = as) (e.learn lessons report v now) :=
  keeps_get.bind fun _ => (Run.keeps_cycle (P := fun c => c.applied = as) _).bind fun _ => keeps_pure _

theorem keeps_applied_restoreCycle (as : List Applied) : Keeps (fun r => r.cycle.applied = as) e.restoreCycle := by
  refine (Run.keeps_cycle (P := fun c => c.applied = as) _).bind fun _ => keeps_get.bind ?_
  rintro ⟨⟨id, walk, recipes, _ | snapshot, applied⟩, w⟩
  · exact keeps_pure _
  · refine (Run.keeps_cycle (P := fun c => c.applied = as) _).bind fun res => ?_
    cases res <;> exact keeps_pure _

theorem files_conclude (as : List Applied) (report : Report) (res : Except Engine.Error Verification) :
    Yields (fun r => r.cycle.applied = as) (e.conclude report now res) fun res _ => res.files = as.map Applied.file := by
  have hrollBack (v : Option Verification) (error : Engine.Error) :
      Yields (fun r => r.cycle.applied = as) (e.rollBack report v error now) fun res _ =>
        res.files = as.map Applied.file := by
    refine (keeps_applied_restoreCycle as).yields.bind fun unrestored => ?_
    refine keeps_get.yields.bind fun _ => (keeps_applied_learn as _ _ _).yields.bind fun _ => ?_
    refine (keeps_applied_attest as _ _ _).yields.bind fun digest => ?_
    cases unrestored with
    | some cause => exact fun r res r' _ hrun => nomatch (Prod.mk.inj hrun).1
    | none => exact (keeps_applied_enter as _).yields.bind fun _ => yields_files as _ _ _ _ _
  cases res with
  | error error => exact hrollBack none error
  | ok v =>
    rw [conclude]
    split
    · next error _ => exact hrollBack (some v) error
    · refine (keeps_applied_enter as _).yields.bind fun _ => keeps_get.yields.bind fun _ => ?_
      refine (keeps_applied_learn as _ _ _).yields.bind fun _ => (keeps_applied_attest as _ _ _).yields.bind fun _ => ?_
      exact (keeps_applied_enter as _).yields.bind fun _ => yields_files as _ _ _ _ _

/-- A result tells the files that were written. -/
theorem files_of_runCycle {res : CycleResult} (hrun : (e.runCycle id now).exec w = (.ok res, w')) :
    res.files = e.written id now w := by
  rcases runCycle_cases hrun with ⟨hnone, hidle⟩ | ⟨a, ha, ⟨r, r₁⟩, r', hact, hconclude, -⟩
  · rw [written, hnone, Option.elim_none]
    rcases hidle with ⟨_, -, herror⟩ | ⟨_, _, -, ⟨_, _, -, herror, -⟩ | ⟨x, s, s', hsurvey, hfinish, -⟩⟩
    · cases herror
    · cases herror
    · have hcycle : s.cycle = decided id := cycle_survey now _ _ _ rfl hsurvey
      have hfiles : Yields (fun r => r.cycle.applied = []) (finishIdle x.1 now) fun res _ => res.files = [] :=
        (keeps_applied_enter [] _).yields.bind fun _ => (keeps_applied_attest [] _ _ _).yields.bind fun _ =>
          yields_files [] _ _ _ _ _
      exact hfiles s res s' (congrArg Cycle.applied hcycle) hfinish
  · rw [written, ha, Option.elim_some, Acting.acted, hact]
    exact files_conclude _ _ _ r₁ res r' rfl hconclude

/-! ## Without other programs -/

/-- If nobody else is there, a file outside of the state directory is prepared from what it held before the cycle. -/
theorem Quiet.before (hquiet : e.Quiet w) (hplaced : w.Placed e.layout) (ha : e.acting? id now w = some a)
    (hproper : ∀ i ∈ a.report.issues, i.file.Proper) {p : Prepared} (hp : p ∈ a.batch e)
    (hout : ¬ e.layout.location <+: p.file.below e.root) :
    w.disk.fileAt (p.file.below e.root) = some p.before.toUTF8 := by
  have hacting := hquiet.acting hplaced ha
  have hselected : ∀ f ∈ a.decision.selected, f.issue.file.Proper := by
    intro f hf
    obtain ⟨i, hi, -, hfile⟩ := exists_eligible ha ⟨f, hf, rfl⟩
    exact hfile ▸ hproper i hi
  rw [← hacting.outside _ hout]
  rw [Acting.batch] at hp
  split at hp
  · next hrun => exact ((hquiet.congr hacting.around).prepare hselected hrun).2 p hp
  · cases hp

/-- If nobody else is there, acting changes the files that it writes, and no other file outside of the state
directory. -/
theorem Setting.acted_on_disk (h : e.Setting id now w) (hquiet : e.Quiet w) (ha : e.acting? id now w = some a)
    {m : Location} (hm : ¬ e.layout.location <+: m) :
    (a.acted e now).workspace.disk.fileAt m = w.disk.fileAt m ∨
      ∃ p ∈ a.batch e, p.file ∈ e.written id now w ∧ m = p.file.below e.root ∧
        (a.acted e now).workspace.disk.fileAt m = some p.after.toUTF8 := by
  obtain ⟨hsteady, htarget, hcycle⟩ := h.acting ha
  have hacting := hquiet.acting h.placed ha
  have hquiet' := hquiet.congr hacting.around
  rw [written_eq ha, ← hacting.outside m hm]
  rcases hrun : (e.act a.report a.decision.selected now).exec a.run with ⟨res, r⟩
  rw [Acting.acted, hrun]
  rcases act_cases h.tools h.proper hsteady htarget hcycle hrun with ⟨-, hunarmed⟩ | hacted
  · exact .inl ((hunarmed.quiet hquiet').outside m hm)
  · obtain ⟨-, x, -, houtside, -, -, hwrote⟩ := hacted.quiet hquiet'
    by_cases hwritten : ∃ p ∈ a.batch e, p.file ∈ filesWritten r.cycle ∧ m = p.file.below e.root
    · obtain ⟨p, hp, hfile, rfl⟩ := hwritten
      exact .inr ⟨p, hp, hfile, rfl, hwrote.written p hp hfile⟩
    · left
      rw [fileAt_congr (hwrote.other m fun p hp hfile heq => hwritten ⟨p, hp, hfile, heq⟩), houtside m hm]

/-! ## The whole -/

/-- **The risk budget is kept**, however a cycle ends and whatever others do meanwhile. The files that are written are
those that a result tells of. Each is written once, they are no more than the budget allows, and an eligible issue of
the report points into each. From the content that a file is prepared from to the one that is written no more lines
change than the budget allows. If nobody else is there, the former is what the file held before the cycle, and at the
end of acting no other file outside of the state directory has changed. -/
theorem budget_kept (hproper : ∀ a ∈ e.acting? id now w, ∀ i ∈ a.report.issues, i.file.Proper) :
    (∀ res w', (e.runCycle id now).exec w = (.ok res, w') → res.files = e.written id now w) ∧
    (e.written id now w).Nodup ∧ (e.written id now w).length ≤ e.config.maxFiles ∧
    (∀ q ∈ e.written id now w, ∃ a ∈ e.acting? id now w,
      (∃ i ∈ a.report.issues, i.eligible = true ∧ i.file = q) ∧
      ∃ p ∈ a.batch e, p.file = q ∧ p.applied ∈ (a.acted e now).cycle.applied ∧
        ((Text.lines p.before).length < UInt32.size → (Text.lines p.after).length < UInt32.size →
          (Diff.between p.before p.after).changedLines ≤ e.config.maxLines.toNat) ∧
        (e.Quiet w → w.Placed e.layout → ¬ e.layout.location <+: q.below e.root →
          w.disk.fileAt (q.below e.root) = some p.before.toUTF8)) ∧
    (e.Setting id now w → e.Quiet w → ∀ a ∈ e.acting? id now w, ∀ m, ¬ e.layout.location <+: m →
      (a.acted e now).workspace.disk.fileAt m = w.disk.fileAt m ∨
        ∃ p ∈ a.batch e, p.file ∈ e.written id now w ∧ m = p.file.below e.root ∧
          (a.acted e now).workspace.disk.fileAt m = some p.after.toUTF8) := by
  refine ⟨fun res w' hrun => files_of_runCycle hrun, ?_⟩
  cases hacting : e.acting? id now w with
  | none =>
    have hnone : e.written id now w = [] := by rw [written, hacting, Option.elim_none]
    rw [hnone]
    refine ⟨List.nodup_nil, Nat.zero_le _, ?_, ?_⟩
    · intro q hq
      cases hq
    · intro _ _ a ha
      cases ha
  | some a =>
    have hproper := hproper a hacting
    have hsub := sublist_written hacting
    refine ⟨hsub.nodup (nodup_batch e a), ?_, ?_, ?_⟩
    · have hlength := hsub.length_le
      rw [List.length_map] at hlength
      exact hlength.trans (length_batch_le hacting hproper)
    · intro q hq
      obtain ⟨p, hp, rfl, happlied⟩ := exists_of_mem_written hacting hq
      obtain ⟨hissue, hfits⟩ := mem_batch hp
      refine ⟨a, rfl, exists_eligible hacting hissue, p, hp, rfl, happlied, hfits.changedLines_le, ?_⟩
      intro hquiet hplaced hout
      exact hquiet.before hplaced hacting hproper hp hout
    · intro hsetting hquiet a' ha' m hm
      obtain rfl := Option.some.inj ha'
      exact hsetting.acted_on_disk hquiet hacting hm

/-- What is seen of a cycle once it has acted: the issues, the files that it wrote, and what the file then holds. -/
def view (e : Engine) (a : Acting) : List Issue × List RelPath × Option ByteArray :=
  (a.report.issues, filesWritten (a.acted e default).cycle,
    (a.acted e default).workspace.disk.fileAt (e.root.location ++ ["a"]))

/-- The folder, with nobody else there. -/
def alone : Workspace := amid (fun _ => none) (.memory [])

set_option maxRecDepth 100000 in
theorem budget_kept_line :
    (∀ a ∈ tidy.acting? default default alone, ∀ i ∈ a.report.issues, i.file.Proper) ∧
      tidy.written default default alone = [⟨["a"]⟩] ∧ tidy.Quiet alone ∧
      ∃ p : Prepared, p.file = ⟨["a"]⟩ ∧ alone.disk.fileAt ["w", "a"] = some p.before.toUTF8 := by
  have hview : (tidy.acting? default default alone).map (view tidy) =
      some ([blank], [⟨["a"]⟩], some "x\n".toUTF8) := by decide +kernel
  obtain ⟨a, ha, hseen⟩ := Option.map_eq_some_iff.mp hview
  have hproper : ∀ a' ∈ tidy.acting? default default alone, ∀ i ∈ a'.report.issues, i.file.Proper := by
    intro a' ha' i hi
    obtain rfl := Option.some.inj (ha'.symm.trans ha)
    rw [show a'.report.issues = [blank] from congrArg Prod.fst hseen, List.mem_singleton] at hi
    rw [hi]
    exact RelPath.proper_name (by decide) (by decide)
  have hwritten : tidy.written default default alone = [⟨["a"]⟩] := by
    rw [written_eq ha]
    exact congrArg (fun v => v.2.1) hseen
  have hquiet : tidy.Quiet alone := ⟨fun _ _ _ => rfl, fun _ _ => rfl, fun _ => rfl⟩
  have hplaced : alone.Placed tidy.layout := ⟨nofun, nofun, nofun, nofun⟩
  refine ⟨hproper, hwritten, hquiet, ?_⟩
  obtain ⟨-, -, -, hfiles, -⟩ := budget_kept hproper
  obtain ⟨-, -, -, p, -, hfile, -, -, hbefore⟩ := hfiles ⟨["a"]⟩ (by rw [hwritten]; exact List.mem_singleton_self _)
  exact ⟨p, hfile, hbefore hquiet hplaced (by decide)⟩

/-- Finds the blank, and the first time puts other lines before it. One line may change. -/
def meddling : Engine :=
  { tidy with
    config := { maxLines := 1 }
    tools := { tidy.tools with
      analyze := fun n d => ⟨.ok { generatedAt := default, issues := [blank] }, if n = 0 then overwrite "p\nq " d else d, 0⟩ } }

set_option maxRecDepth 100000 in
/-- The analyzer changes the file before anything is prepared for it. Then more lines differ between what the file
held before the cycle and what is written than the budget allows. -/
theorem exceeds_of_analyzer_edit :
    (⟨["a"]⟩ : RelPath) ∈ meddling.written default default alone ∧ alone.disk.fileAt ["w", "a"] = some "x\n ".toUTF8 ∧
      (∃ a ∈ meddling.acting? default default alone,
        (a.acted meddling default).workspace.disk.fileAt ["w", "a"] = some "p\nq".toUTF8) ∧
      meddling.config.maxLines.toNat < (Diff.between "x\n " "p\nq").changedLines := by
  have hview : (meddling.acting? default default alone).map (view meddling) =
      some ([blank], [⟨["a"]⟩], some "p\nq".toUTF8) := by decide +kernel
  obtain ⟨a, ha, hseen⟩ := Option.map_eq_some_iff.mp hview
  refine ⟨?_, by decide +kernel, ⟨a, ha, congrArg (fun v => v.2.2) hseen⟩, by decide +kernel⟩
  rw [written_eq ha, show filesWritten (a.acted meddling default).cycle = [⟨["a"]⟩] from congrArg (fun v => v.2.1) hseen]
  exact List.mem_singleton_self _

end Engine
end Mend
