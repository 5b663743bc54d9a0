import Mend.Proofs.Engine.Cycle

/-!
# Rolling back
-/

namespace Mend

open Fs Fs.Disk Ledger
open Action
open Function (update)

namespace Engine

variable {e : Engine} {id : CycleId} {now : Time} {w w' : Workspace} {c : Failure}

/-! ## What is asked for -/

/-- The new contents that a failed cycle had prepared. -/
def Failure.batch (e : Engine) (c : Failure) : Batch := c.acting.batch e

/-- The workspace just before the files are restored. -/
def Failure.restoring (c : Failure) : Workspace := ((Workspace.pause .restoring).exec c.run.workspace).2

/-- The cycle and its workspace right after the files were restored. -/
def Failure.restored (e : Engine) (c : Failure) : Run := (e.restoreCycle.exec c.run).2

/-- What a file holds just before it is restored. -/
def Failure.held (e : Engine) (c : Failure) (p : Prepared) : Option ByteArray :=
  c.restoring.disk.fileAt (p.file.below e.root)

/-- What a file holds right after that. -/
def Failure.left (e : Engine) (c : Failure) (p : Prepared) : Option ByteArray :=
  (c.restored e).workspace.disk.fileAt (p.file.below e.root)

/-- No two of the contents of a file have one digest. -/
def Failure.Distinct (e : Engine) (c : Failure) : Prop :=
  ∀ p ∈ c.batch e, Snapshot.Separated p.capture (c.held e p)

/-- What is asked for: paths that are read back from their texts, a state directory and other programs that keep
out of each other's way, stores that are kept here or in the state directory, and no snapshot of this cycle
in them. A snapshot that is read from a file is small enough to be written there. -/
structure Setting (e : Engine) (id : CycleId) (now : Time) (w : Workspace) : Prop where
  paths : ∀ p, e.Target p → RelPath.parse p.text = .ok p
  named : e.Named id
  tools : e.Tame
  edits : ∀ n p d, e.Foreign d (w.around.edit n p d)
  clean : NoTemporary w.disk
  placed : w.Placed e.layout
  fresh : Fresh e.layout id w.snapshots w.disk
  readable : ∀ c ∈ e.failure? id now w, c.run.workspace.snapshots = .directory e.layout.snapshots →
    now.Storable ∧ ∀ p ∈ c.batch e, (Text.lines p.after).length < UInt64.size

theorem Setting.proper (h : e.Setting id now w) : ∀ p, e.Target p → p.Proper := fun p hp => ⟨p.text, h.paths p hp⟩

/-! ## A cycle that failed -/

/-- A cycle rolls back if it acts and that fails, or if what it did does not pass. -/
theorem failure_of_some (h : c ∈ e.failure? id now w) :
    e.acting? id now w = some c.acting ∧ ∃ res,
      (e.act c.acting.report c.acting.decision.selected now).exec c.acting.run = (res, c.run) ∧
        e.conclude c.acting.report now res = e.rollBack c.acting.report c.verification c.error now := by
  rw [failure?, Option.mem_def, Option.bind_eq_some_iff] at h
  obtain ⟨a, ha, h⟩ := h
  rcases hact : (e.act a.report a.decision.selected now).exec a.run with ⟨error | v, run⟩
  · simp only [hact] at h
    obtain rfl := Option.some.inj h
    exact ⟨ha, _, hact, rfl⟩
  · simp only [hact] at h
    obtain ⟨error, hfailure, rfl⟩ := Option.map_eq_some_iff.mp h
    refine ⟨ha, _, hact, ?_⟩
    simp only [conclude, hfailure]

theorem Setting.acting (h : e.Setting id now w) {a : Acting} (ha : e.acting? id now w = some a) :
    e.Steady id a.run.workspace ∧ (∀ f ∈ a.decision.selected, e.Target f.issue.file) ∧
      a.run.cycle = begun id a.decision := by
  obtain ⟨l, locked, hlock, hsurvey, -, hcycle⟩ := acting_of_some ha
  have hsteady := yields_acquire h.named w l locked ⟨h.edits, h.placed, h.fresh, h.clean⟩ hlock
  have hsurveyed := yields_survey h.tools now _ _ _ hsteady hsurvey
  exact ⟨hsurveyed.1, hsurveyed.2, hcycle⟩

theorem Setting.failure (h : e.Setting id now w) (hc : c ∈ e.failure? id now w) :
    Unarmed e id c.acting c.run ∨ Acted e id now c.acting c.run := by
  obtain ⟨ha, res, hact, -⟩ := failure_of_some hc
  obtain ⟨hsteady, htarget, hcycle⟩ := h.acting ha
  exact (act_cases h.tools h.proper hsteady htarget hcycle hact).imp_left fun hu => hu.2

/-! ## Restoring -/

/-- Without a snapshot nothing is restored. -/
theorem exec_restoreCycle_unarmed (h : c.run.cycle.snapshot = none) :
    e.restoreCycle.exec c.run = (.ok none, ⟨c.run.cycle, c.restoring⟩) := by
  rw [restoreCycle, exec_bind, Run.exec_onWorkspace, Workspace.exec_pause]
  dsimp only
  rw [exec_bind_ok (exec_get _)]
  dsimp only
  rw [h]
  rfl

/-- What a report keeps from being all that is to be restored. -/
def lost (c : Cycle) (r : Snapshot.Report) : List RelPath := r.drifted.filter fun p => (filesWritten c).contains p

/-- With a snapshot that can be loaded its files are restored. -/
theorem exec_restoreCycle {s : Snapshot} {r : Except Ledger.Error Snapshot.Report} {d : Disk}
    (hsnapshot : c.run.cycle.snapshot = some id)
    (hload : (⟨c.restoring.disk, c.restoring.snapshots⟩ : Snapshot.Session).load id = .ok s)
    (hrestore : (s.restore e.root).exec c.restoring.disk = (r, d)) :
    e.restoreCycle.exec c.run =
      (.ok (match r with
        | .error cause => some cause
        | .ok report => if (lost c.run.cycle report).isEmpty then none else some (.drift id (lost c.run.cycle report))),
      ⟨c.run.cycle, { c.restoring with disk := d }⟩) := by
  have hrun : (Snapshot.restoreId id e.root).exec ⟨c.restoring.disk, c.restoring.snapshots⟩ =
      (r, ⟨d, c.restoring.snapshots⟩) := by
    rw [Snapshot.restoreId, exec_bind, exec_query, hload]
    dsimp only
    rw [exec_zoom, hrestore]
  have hpause : (Workspace.pause .restoring).exec c.run.workspace = (.ok ⟨⟩, c.restoring) := rfl
  rw [restoreCycle, exec_bind, Run.exec_onWorkspace, hpause]
  dsimp only
  rw [exec_bind_ok (exec_get _)]
  dsimp only
  rw [hsnapshot]
  dsimp only
  rw [exec_bind, Run.exec_onWorkspace, Workspace.exec_onSnapshots, exec_outcome, hrun]
  cases r <;> rfl

/-- Restoring always comes to an end, and at most restores a snapshot that could be loaded. -/
theorem restoreCycle_cases (e : Engine) (c : Failure) :
    ∃ told d, e.restoreCycle.exec c.run = (.ok told, ⟨c.run.cycle, { c.restoring with disk := d }⟩) ∧
      (d = c.restoring.disk ∨ ∃ id ∈ c.run.cycle.snapshot, ∃ s,
        (⟨c.restoring.disk, c.restoring.snapshots⟩ : Snapshot.Session).load id = .ok s ∧
          d = ((s.restore e.root).exec c.restoring.disk).2) := by
  cases hsnapshot : c.run.cycle.snapshot with
  | none => exact ⟨none, _, exec_restoreCycle_unarmed hsnapshot, .inl rfl⟩
  | some id =>
    cases hload : (⟨c.restoring.disk, c.restoring.snapshots⟩ : Snapshot.Session).load id with
    | ok s =>
      rcases hrestore : (s.restore e.root).exec c.restoring.disk with ⟨r, d⟩
      exact ⟨_, d, exec_restoreCycle hsnapshot hload hrestore, .inr ⟨id, rfl, s, hload, by rw [hrestore]⟩⟩
    | error cause =>
      have hrun : (Snapshot.restoreId id e.root).exec ⟨c.restoring.disk, c.restoring.snapshots⟩ =
          (.error cause, ⟨c.restoring.disk, c.restoring.snapshots⟩) := by
        rw [Snapshot.restoreId, exec_bind, exec_query, hload]
      have hpause : (Workspace.pause .restoring).exec c.run.workspace = (.ok ⟨⟩, c.restoring) := rfl
      refine ⟨some cause, c.restoring.disk, ?_, .inl rfl⟩
      rw [restoreCycle, exec_bind, Run.exec_onWorkspace, hpause]
      dsimp only
      rw [exec_bind_ok (exec_get _)]
      dsimp only
      rw [hsnapshot]
      dsimp only
      rw [exec_bind, Run.exec_onWorkspace, Workspace.exec_onSnapshots, exec_outcome, hrun]
      rfl

/-- The cycle wrote the file, and it holds neither of its contents just before it is restored. -/
def Failure.Lost (e : Engine) (c : Failure) (q : RelPath) : Prop :=
  q ∈ filesWritten c.run.cycle ∧
    ∃ p ∈ c.batch e, p.file = q ∧ c.held e p ≠ some p.before.toUTF8 ∧ c.held e p ≠ some p.after.toUTF8

/-- A file holds its new content, though the cycle did not write it, and has no room for a temporary file. -/
def Failure.Cramped (e : Engine) (c : Failure) : Prop :=
  ∃ p ∈ c.batch e, p.file ∉ filesWritten c.run.cycle ∧ c.held e p = some p.after.toUTF8 ∧
    ¬ TemporaryFits (e.root.file p.file)

theorem Setting.load (h : e.Setting id now w) (hc : c ∈ e.failure? id now w) (hacted : Acted e id now c.acting c.run) :
    (⟨c.restoring.disk, c.restoring.snapshots⟩ : Snapshot.Session).load id =
      .ok (Snapshot.capture id (List.map Prepared.capture (c.batch e)) now) := by
  have harmed := hacted.armed.pause hacted.sound .restoring
  apply harmed.load
  intro hdir
  obtain ⟨htime, hlines⟩ := h.readable c hc hdir
  refine ⟨htime, fun k hk => ?_⟩
  obtain ⟨p, hp, rfl⟩ := List.mem_map.mp hk
  exact Snapshot.storable_ofCapture (h.paths _ (hacted.sound.target p hp)) (hlines p hp)

theorem mem_lost {held : Snapshot.Capture → Option ByteArray} (hheld : ∀ p ∈ c.batch e, held p.capture = c.held e p)
    {q : RelPath} :
    q ∈ lost c.run.cycle ⟨id, (Snapshot.sorted ((c.batch e).map Prepared.capture)).map fun k =>
      (k.path, Snapshot.outcome k (held k))⟩ ↔ c.Lost e q := by
  rw [lost, List.mem_filter, Snapshot.mem_drifted, List.contains_iff_mem, and_comm]
  refine and_congr_right fun _ => ?_
  constructor
  · rintro ⟨k, hk, rfl, hbefore, hafter⟩
    obtain ⟨p, hp, rfl⟩ := List.mem_map.mp hk
    rw [hheld p hp] at hbefore hafter
    exact ⟨p, hp, rfl, hbefore, hafter⟩
  · rintro ⟨p, hp, rfl, hbefore, hafter⟩
    refine ⟨p.capture, List.mem_map_of_mem hp, rfl, ?_, ?_⟩ <;> rwa [hheld p hp]

/-- Every file of the batch is dealt with, and the files that are lost are told of. Or one file is cramped. -/
theorem Setting.restore_acted (h : e.Setting id now w) (hc : c ∈ e.failure? id now w) (hdistinct : c.Distinct e)
    (hacted : Acted e id now c.acting c.run) :
    ∃ told d, e.restoreCycle.exec c.run = (.ok told, ⟨c.run.cycle, { c.restoring with disk := d }⟩) ∧
      (∀ m, (∀ p ∈ c.batch e, m ≠ p.file.below e.root) → d.node? m = c.restoring.disk.node? m) ∧
      ((∃ lost : List RelPath, lost.Nodup ∧ (∀ q, q ∈ lost ↔ c.Lost e q) ∧
          told = (if lost.isEmpty then none else some (.drift id lost)) ∧
          ∀ p ∈ c.batch e, Snapshot.Undone p.capture (p.file.below e.root) c.restoring.disk d) ∨
        c.Cramped e ∧ (∃ cause, told = some cause) ∧
          ∀ p ∈ c.batch e, Snapshot.Undone p.capture (p.file.below e.root) c.restoring.disk d ∨
            d.node? (p.file.below e.root) = c.restoring.disk.node? (p.file.below e.root)) := by
  have harmed : Batch.Armed e id (c.batch e) (Snapshot.capture id (List.map Prepared.capture (c.batch e)) now)
      c.restoring := hacted.armed.pause hacted.sound .restoring
  have hready := harmed.ready hacted.sound h.proper
  have hsep : ∀ k ∈ (c.batch e).map Prepared.capture,
      Snapshot.Separated k (c.restoring.disk.fileAt (k.path.below e.root)) := by
    intro k hk
    obtain ⟨p, hp, rfl⟩ := List.mem_map.mp hk
    exact hdistinct p hp
  obtain ⟨r, d, hrestore, hother, hcase⟩ := Snapshot.exec_restore hready hsep id now
  have hrun := exec_restoreCycle hacted.cycle.2 (h.load hc hacted) hrestore
  refine ⟨_, d, hrun, fun m hm => hother m ?_, ?_⟩
  · intro k hk
    obtain ⟨p, hp, rfl⟩ := List.mem_map.mp hk
    exact hm p hp
  rcases hcase with ⟨rfl, -, hall⟩ | ⟨⟨k, hk, hout, hunfit⟩, ⟨cause, rfl⟩, hall⟩
  · refine .inl ⟨_, ?_, fun q => mem_lost fun _ _ => rfl, rfl, fun p hp => hall _ (List.mem_map_of_mem hp)⟩
    refine List.Nodup.filter _ (Snapshot.nodup_drifted ?_)
    rw [List.map_map]
    exact hready.sorted.nodup
  · obtain ⟨p, hp, rfl⟩ := List.mem_map.mp hk
    refine .inr ⟨⟨p, hp, ?_, ?_, hunfit⟩, ⟨cause, rfl⟩, fun p hp => hall _ (List.mem_map_of_mem hp)⟩
    · -- a file that was written had room
      intro hwritten
      obtain ⟨q, hq, hfile⟩ := List.mem_map.mp hwritten
      obtain ⟨p', -, hp', hfits⟩ := hacted.fits q hq
      rw [← hp', hfile] at hfits
      exact hunfit hfits
    · exact (Snapshot.outcome_eq_restored hout).2

/-- Restoring does not change the cycle, and leaves the stores where they are. -/
theorem Setting.restored (h : e.Setting id now w) (hc : c ∈ e.failure? id now w) (hdistinct : c.Distinct e) :
    (c.restored e).cycle = c.run.cycle ∧ (c.restored e).workspace.Placed e.layout := by
  rw [Failure.restored]
  rcases h.failure hc with hunarmed | hacted
  · rw [exec_restoreCycle_unarmed hunarmed.cycle.2.1]
    have hplaced := hunarmed.placed
    exact ⟨rfl, hplaced.trust, hplaced.history, hplaced.attestations, hplaced.snapshots⟩
  · obtain ⟨told, d, hrun, -⟩ := h.restore_acted hc hdistinct hacted
    have hplaced := (hacted.armed.pause hacted.sound .restoring).placed
    rw [hrun]
    exact ⟨rfl, hplaced.trust, hplaced.history, hplaced.attestations, hplaced.snapshots⟩

/-- Unless a file is cramped, the written files are brought back, and those that are lost are told of. -/
theorem Setting.restore (h : e.Setting id now w) (hc : c ∈ e.failure? id now w) (hdistinct : c.Distinct e) :
    ∃ told, e.restoreCycle.exec c.run = (.ok told, c.restored e) ∧
      ((∃ lost : List RelPath, lost.Nodup ∧ (∀ q, q ∈ lost ↔ c.Lost e q) ∧
          told = (if lost.isEmpty then none else some (.drift id lost)) ∧
          ∀ p ∈ c.batch e, p.file ∈ filesWritten c.run.cycle → ¬ c.Lost e p.file →
            c.left e p = some p.before.toUTF8) ∨
        c.Cramped e ∧ ∃ cause, told = some cause) := by
  rcases h.failure hc with hunarmed | hacted
  · have hrun := exec_restoreCycle_unarmed (e := e) hunarmed.cycle.2.1
    have hnone (q : RelPath) : q ∉ filesWritten c.run.cycle := by simp [filesWritten, hunarmed.cycle.2.2]
    refine ⟨none, by rw [Failure.restored, hrun], .inl ⟨[], .nil, fun q => ?_, rfl, fun p _ hwritten => ?_⟩⟩
    · exact ⟨nofun, fun hlost => absurd hlost.1 (hnone q)⟩
    · exact absurd hwritten (hnone p.file)
  · obtain ⟨told, d, hrun, -, hcase⟩ := h.restore_acted hc hdistinct hacted
    have hleft (p : Prepared) : c.left e p = d.fileAt (p.file.below e.root) := by rw [Failure.left, Failure.restored, hrun]
    refine ⟨told, by rw [Failure.restored, hrun], ?_⟩
    rcases hcase with ⟨lost, hnodup, hlost, htold, hall⟩ | ⟨hcramped, htold, -⟩
    · refine .inl ⟨lost, hnodup, hlost, htold, fun p hp hwritten hkept => ?_⟩
      rw [hleft]
      by_cases hafter : c.held e p = some p.after.toUTF8
      · exact (hall p hp).of_after rfl hafter
      · have hbefore : c.held e p = some p.before.toUTF8 := by
          by_contra hbefore
          exact hkept ⟨hwritten, p, hp, rfl, hbefore, hafter⟩
        rw [fileAt_congr ((hall p hp).of_ne hafter)]
        exact hbefore
    · exact .inr ⟨hcramped, htold⟩

/-! ## After the restoring -/

/-- What is recorded of a cycle that failed. -/
def record (e : Engine) (report : Report) (v : Option Verification) (error : Engine.Error) (now : Time) :
    Run.Step Digest := do
  e.learn ((← get).cycle.recipes.map (lessonOf error)) report v now
  attest report.count (match v with | some v => v.after | none => report.count) .failure now

/-- What comes of recording a failed cycle, once its files were restored. -/
def Failure.recorded (e : Engine) (now : Time) (c : Failure) : Except Engine.Error Digest :=
  ((e.record c.acting.report c.verification c.error now).exec (c.restored e)).1

theorem rollBack_eq (e : Engine) (report : Report) (v : Option Verification) (error : Engine.Error) (now : Time) :
    e.rollBack report v error now = (do
      let unrestored ← e.restoreCycle
      let digest ← e.record report v error now
      if let some cause := unrestored then throw (.rollbackFailed cause)
      Run.enter .rolledBack
      result .failure report.count (match v with | some v => v.after | none => report.count) (some error) digest) := by
  refine congrArg (e.restoreCycle >>= ·) (funext fun unrestored => ?_)
  rw [record.eq_def, bind_assoc]
  exact congrArg (get >>= ·) (funext fun r => (bind_assoc _ _ _).symm)

theorem keeps_attest {P : Cycle → Prop} {l : Layout} {w₀ : Workspace} (before after : Count) (verdict : Verdict)
    (now : Time) : Keeps (fun r => P r.cycle ∧ Workspace.Untouched l w₀ r.workspace) (attest before after verdict now) := by
  refine keeps_get.bind fun r => Keeps.bind ?_ fun _ => keeps_pure _
  rintro r ⟨hr, hw⟩
  exact ⟨hr, Workspace.keeps_onAttestations (fun d => Attestation.keeps_record _) _ hw⟩

theorem keeps_learn {P : Cycle → Prop} {l : Layout} {w₀ : Workspace} (lessons : List Lesson) (report : Report)
    (v : Option Verification) (now : Time) :
    Keeps (fun r => P r.cycle ∧ Workspace.Untouched l w₀ r.workspace) (e.learn lessons report v now) := by
  refine keeps_get.bind fun r => Keeps.bind ?_ fun _ => keeps_pure _
  rintro r ⟨hr, hw⟩
  exact ⟨hr, Workspace.keeps_learn _ _ _ _ _ _ hw⟩

theorem keeps_record {P : Cycle → Prop} {l : Layout} {w₀ : Workspace} (report : Report) (v : Option Verification)
    (error : Engine.Error) (now : Time) :
    Keeps (fun r => P r.cycle ∧ Workspace.Untouched l w₀ r.workspace) (e.record report v error now) :=
  keeps_get.bind fun _ => (keeps_learn _ _ _ _).bind fun _ => keeps_attest _ _ _ _

/-- The cycle was acting or verifying when it failed. -/
theorem Setting.walk (h : e.Setting id now w) (hc : c ∈ e.failure? id now w) :
    c.run.cycle.walk.current = .act ∨ c.run.cycle.walk.current = .verify := by
  rcases h.failure hc with hunarmed | hacted
  · exact .inl hunarmed.walk
  · exact hacted.walk

/-- Recording fails, or what could not be restored is told of, or the cycle was rolled back. Outside of the
state directory the files stay as they were restored. -/
theorem Setting.rollBack (h : e.Setting id now w) (hc : c ∈ e.failure? id now w) (hdistinct : c.Distinct e)
    {told : Option Ledger.Error} (htold : e.restoreCycle.exec c.run = (.ok told, c.restored e)) :
    ∃ res r', (e.rollBack c.acting.report c.verification c.error now).exec c.run = (res, r') ∧
      e.layout.Outside (c.restored e).workspace.disk r'.workspace.disk ∧
      ((∃ error, ((e.record c.acting.report c.verification c.error now).exec (c.restored e)).1 = .error error ∧
          res = .error error) ∨
        (∃ digest, ((e.record c.acting.report c.verification c.error now).exec (c.restored e)).1 = .ok digest) ∧
          ((∃ cause, told = some cause ∧ res = .error (.rollbackFailed cause)) ∨
            told = none ∧ ∃ r, res = .ok r ∧ r.phase = .rolledBack ∧ r.files = filesWritten c.run.cycle)) := by
  obtain ⟨hcycle, hplaced⟩ := h.restored hc hdistinct
  have hkept : Keeps (fun r => r.cycle = c.run.cycle ∧ Workspace.Untouched e.layout (c.restored e).workspace r.workspace)
      (e.record c.acting.report c.verification c.error now) := keeps_record (P := (· = c.run.cycle)) _ _ _ _
  replace hkept := hkept (c.restored e) ⟨hcycle, rfl, hplaced, .refl _ _⟩
  rw [rollBack_eq, exec_bind_ok htold, exec_bind]
  rcases hrecord : (e.record c.acting.report c.verification c.error now).exec (c.restored e) with ⟨error | digest, r'⟩
  · rw [hrecord] at hkept
    exact ⟨_, r', rfl, hkept.2.outside, .inl ⟨error, rfl, rfl⟩⟩
  rw [hrecord] at hkept
  cases told with
  | some cause => exact ⟨_, r', rfl, hkept.2.outside, .inr ⟨⟨digest, rfl⟩, .inl ⟨cause, rfl, rfl⟩⟩⟩
  | none =>
    have hadvance : ∃ walk, r'.cycle.walk.advance? .rolledBack = some walk ∧ walk.current = .rolledBack := by
      rw [hkept.1, Walk.advance?]
      rcases h.walk hc with hwalk | hwalk <;> rw [hwalk] <;> exact ⟨_, rfl, rfl⟩
    obtain ⟨walk, hadvance, hcurrent⟩ := hadvance
    have hfiles : filesWritten r'.cycle = filesWritten c.run.cycle := by rw [hkept.1]
    dsimp only
    rw [exec_bind_ok (Run.exec_enter hadvance)]
    exact ⟨_, _, rfl, hkept.2.outside, .inr ⟨⟨digest, rfl⟩, .inr ⟨rfl, _, rfl, hcurrent, hfiles⟩⟩⟩

/-- A cycle that fails ends with rolling back. -/
theorem runCycle_failure (hc : c ∈ e.failure? id now w) :
    ((e.runCycle id now).exec w).1 = ((e.rollBack c.acting.report c.verification c.error now).exec c.run).1 ∧
      ∃ held, ((e.runCycle id now).exec w).2 =
        { ((e.rollBack c.acting.report c.verification c.error now).exec c.run).2.workspace with held := held } := by
  obtain ⟨ha, res, hact, hconclude⟩ := failure_of_some hc
  rcases hrun : (e.runCycle id now).exec w with ⟨res', w'⟩
  rcases runCycle_cases hrun with ⟨hnone, -⟩ | ⟨a, ha', r, r', hact', hrest, held, rfl⟩
  · rw [hnone] at ha
    cases ha
  · obtain rfl := Option.some.inj (ha'.symm.trans ha)
    rw [hact] at hact'
    subst hact'
    rw [hconclude] at hrest
    rw [hrest]
    exact ⟨rfl, held, rfl⟩

/-- After the restoring no file outside of the state directory is changed any more. -/
theorem Setting.final (h : e.Setting id now w) (hc : c ∈ e.failure? id now w) (hdistinct : c.Distinct e) :
    e.layout.Outside (c.restored e).workspace.disk ((e.runCycle id now).exec w).2.disk := by
  obtain ⟨told, htold, -⟩ := h.restore hc hdistinct
  obtain ⟨res, r', hrun, hsame, -⟩ := h.rollBack hc hdistinct htold
  obtain ⟨held, hrunCycle⟩ := (runCycle_failure hc).2
  rw [hrunCycle, hrun]
  exact hsame

/-! ## What others put into a file -/

/-- **What others put into a file is kept.** A file of the batch, and thus any that the failed cycle never wrote, holds
after the rollback what it held just before the files are restored, whatever that is. The one exception is the very
content that the cycle had prepared for it: it is taken for the cycle's own work and gives way to the content that it
was prepared from, unless there is no snapshot or restoring it fails. Nothing that follows the restoring changes a
file outside of the state directory. -/
theorem foreign_kept (h : e.Setting id now w) (hc : c ∈ e.failure? id now w) (hdistinct : c.Distinct e)
    {p : Prepared} (hp : p ∈ c.batch e) :
    (c.held e p ≠ some p.after.toUTF8 → c.left e p = c.held e p) ∧
      (c.held e p = some p.after.toUTF8 → c.left e p = some p.before.toUTF8 ∨
        c.left e p = c.held e p ∧
          (c.run.cycle.snapshot = none ∨ ∃ cause, (e.restoreCycle.exec c.run).1 = .ok (some cause))) ∧
      (¬ e.layout.location <+: p.file.below e.root →
        ((e.runCycle id now).exec w).2.disk.fileAt (p.file.below e.root) = c.left e p) := by
  have hleft {told : Except Engine.Error (Option Ledger.Error)} {d : Disk}
      (hrun : e.restoreCycle.exec c.run = (told, ⟨c.run.cycle, { c.restoring with disk := d }⟩)) :
      c.left e p = d.fileAt (p.file.below e.root) := by
    rw [Failure.left, Failure.restored, hrun]
  rcases h.failure hc with hunarmed | hacted
  · -- nothing is restored
    have hsame : c.left e p = c.held e p := hleft (exec_restoreCycle_unarmed hunarmed.cycle.2.1)
    exact ⟨fun _ => hsame, fun _ => .inr ⟨hsame, .inl hunarmed.cycle.2.1⟩, h.final hc hdistinct _⟩
  obtain ⟨told, d, hrun, -, hcase⟩ := h.restore_acted hc hdistinct hacted
  have hundone : Snapshot.Undone p.capture (p.file.below e.root) c.restoring.disk d ∨
      d.fileAt (p.file.below e.root) = c.held e p ∧ ∃ cause, told = some cause := by
    rcases hcase with ⟨lost, -, -, -, hall⟩ | ⟨-, htold, hall⟩
    · exact .inl (hall p hp)
    · exact (hall p hp).imp_right fun hsame => ⟨fileAt_congr hsame, htold⟩
  refine ⟨fun hne => ?_, fun hafter => ?_, h.final hc hdistinct _⟩
  · rw [hleft hrun]
    rcases hundone with hundone | ⟨hsame, -⟩
    · exact fileAt_congr (hundone.of_ne hne)
    · exact hsame
  · rw [hleft hrun]
    rcases hundone with hundone | ⟨hsame, cause, rfl⟩
    · exact .inl (hundone.of_after rfl hafter)
    · exact .inr ⟨hsame, .inr ⟨cause, by rw [hrun]⟩⟩

/-! ### One file -/

/-- A folder with a file that ends in a blank, and with a directory in the place of the history. -/
def folder : Disk :=
  ⟨[("w", .dir [("a", .file "x\n ".toUTF8 newMode), (".remedy", .dir [("history.jsonl", .dir [])])])]⟩

/-- The blank in the file. -/
def blank : Issue :=
  { id := "1", file := ⟨["a"]⟩, line := 2, severity := .low, category := "whitespace", eligible := true }

/-- Takes away blanks. The build fails. -/
def tidy : Engine where
  root := Snapshot.folderRoot
  config := {}
  registry := [("trailing-whitespace", .trimBlanks)]
  scorer := .fixed 1
  tools := ⟨fun _ d => ⟨.ok { generatedAt := default, issues := [blank] }, d, 0⟩, fun d => ⟨.ok ⟨false, some 1⟩, d, 0⟩⟩

/-- Others overwrite the file. -/
def overwrite (content : String) (d : Disk) : Disk :=
  match d.write ["w", "a"] content.toUTF8 with
  | .ok d' => d'
  | .error _ => d

/-- The folder, while others overwrite the file at some points. -/
def amid (others : Point → Option String) (history : History.Store) : Workspace :=
  { Workspace.inMemory [] folder with
    history := history
    around := ⟨fun _ p d => (others p).elim d fun s => overwrite s d, fun _ _ => 0⟩ }

/-- What is prepared for the file. -/
def tidied : Prepared := ⟨⟨["a"]⟩, "x\n ", "x\n", ["trailing-whitespace"], ["1"], 1⟩

theorem noTemporary_folder : NoTemporary folder := noTemporary_of_entries (by decide)

theorem target_tidy {p : RelPath} (h : tidy.Target p) : p = ⟨["a"]⟩ := by
  obtain ⟨n, d, report, hreport, i, hi, rfl⟩ := h
  obtain rfl := Except.ok.inj hreport
  obtain rfl := List.mem_singleton.mp hi
  rfl

theorem foreign_overwrite (content : String) (d : Disk) : tidy.Foreign d (overwrite content d) := by
  rw [overwrite]
  cases hwrite : d.write ["w", "a"] content.toUTF8 with
  | error => exact .refl _ _
  | ok d' =>
    obtain ⟨l, mode, hslot, hview⟩ := write_ok hwrite
    obtain rfl : l = ["w"] ++ ["a"] := locate_eq_resolve hslot.locate
    refine ⟨fun m hm => dirs_of_update hslot.not_dir hview hm, ?_, ?_, ?_⟩
    · intro p hp _
      rw [target_tidy hp, show RelPath.below tidy.root ⟨["a"]⟩ = (["w"] ++ ["a"] : Location) from rfl, hview, Function.update_self]
      nofun
    · intro m hm
      rw [hview, Function.update_of_ne]
      rintro rfl
      exact absurd hm (by decide)
    · intro hclean
      exact hclean.update (fun name => (Snapshot.append_temporarySuffix_ne_of_getLast (by decide) name).symm) hview

theorem setting_amid (others : Point → Option String) {history : History.Store}
    (hhistory : ∀ p, history = .file p → p = tidy.layout.history)
    (hmemory : ∀ c ∈ tidy.failure? default default (amid others history),
      c.run.workspace.snapshots ≠ .directory tidy.layout.snapshots) :
    tidy.Setting default default (amid others history) where
  paths p hp := by rw [target_tidy hp]; rfl
  named := by
    intro s hs
    rw [show tidy.layout.root.location = ["w", ".remedy"] from rfl] at hs
    have hne : s.toList.getLast? ≠ some 'p' ∧ s ≠ (default : CycleId).toText ++ ".json" := by
      rcases List.mem_cons.mp hs with rfl | hs
      · decide
      · obtain rfl := List.mem_singleton.mp hs
        decide
    exact ⟨hne.2, fun name => (Snapshot.append_temporarySuffix_ne_of_getLast hne.1 name).symm⟩
  tools := ⟨fun _ _ => .refl _ _, fun _ => .refl _ _⟩
  edits n p d := by
    show tidy.Foreign d ((others p).elim d fun s => overwrite s d)
    cases others p with
    | none => exact .refl _ _
    | some content => exact foreign_overwrite content d
  clean := noTemporary_folder
  placed := ⟨nofun, hhistory, nofun, nofun⟩
  fresh := .inl ⟨[], rfl, rfl⟩
  readable c hc hdir := absurd hdir (hmemory c hc)

attribute [local instance] Text.decideBytes

/-- A failed cycle at a glance. -/
structure Glance where
  batch : Batch
  written : List RelPath
  held : List (Option ByteArray)
  recipes : List String
  snapshot : Option CycleId
  inMemory : Bool
  /-- Trust, history and log are kept in memory. -/
  recordable : Bool
  /-- The history is a file, and a directory stands in its place. -/
  obstructed : Bool
  deriving DecidableEq

/-- The batch, what was written of it and what its files hold when they are to be restored. -/
def glance (e : Engine) (c : Failure) : Glance where
  batch := c.batch e
  written := filesWritten c.run.cycle
  held := (c.batch e).map (c.held e)
  recipes := c.run.cycle.recipes
  snapshot := c.run.cycle.snapshot
  inMemory := match c.run.workspace.snapshots with
    | .memory _ _ => true
    | .directory _ => false
  recordable := match c.run.workspace.trust.file, c.run.workspace.history, c.run.workspace.attestations with
    | none, .memory _, .memory _ => true
    | _, _, _ => false
  obstructed := match c.run.workspace.history with
    | .memory _ => false
    | .file p => c.restoring.disk.node? (resolve [] p.location) = some .dir

/-- What is seen of a cycle in such a folder is all that has to be computed of it. -/
theorem exists_of_glance (others : Point → Option String) (history : History.Store) (g : Glance)
    (hhistory : ∀ p, history = .file p → p = tidy.layout.history)
    (hg : (tidy.failure? default default (amid others history)).map tidy.glance = some g) (hmemory : g.inMemory = true) :
    tidy.Setting default default (amid others history) ∧
      ∃ c ∈ tidy.failure? default default (amid others history), tidy.glance c = g := by
  obtain ⟨c, hc, rfl⟩ := Option.map_eq_some_iff.mp hg
  refine ⟨setting_amid others hhistory fun c' hc' hdir => ?_, c, hc, rfl⟩
  obtain rfl := Option.some.inj (hc.symm.trans hc')
  simp only [glance, hdir] at hmemory
  cases hmemory

theorem held_of_glance {c : Failure} {g : Glance} {held : Option ByteArray} {held' : List (Option ByteArray)}
    (hglance : tidy.glance c = g) (hbatch : g.batch = [tidied]) (hheld : g.held = held :: held') :
    c.held tidy tidied = held := by
  subst hglance
  rw [glance] at hheld hbatch
  dsimp only at hheld hbatch
  rw [hbatch] at hheld
  exact List.head_eq_of_cons_eq hheld

/-- The contents that the file has here and there have different digests. -/
theorem nodup_digests : (["x\n ", "x\n", "z\n"].map Snapshot.digestOf).Nodup := by decide +kernel

theorem distinct_of_glance {c : Failure} {held : String} (hbatch : c.batch tidy = [tidied])
    (hheld : c.held tidy tidied = some held.toUTF8) (hmem : held ∈ ["x\n ", "x\n", "z\n"]) : c.Distinct tidy := by
  intro p hp
  rw [hbatch, List.mem_singleton] at hp
  subst hp
  rw [hheld]
  have hcontents : ∀ x ∈ Snapshot.contents tidied.capture (some held.toUTF8), ∃ s ∈ ["x\n ", "x\n", "z\n"], s.toUTF8 = x := by
    simp only [Snapshot.contents, tidied, Prepared.capture, Option.map_some, Option.toList_some, List.singleton_append,
      List.mem_cons, List.not_mem_nil, or_false]
    rintro x (rfl | rfl | rfl)
    · exact ⟨"x\n ", by simp⟩
    · exact ⟨"x\n", by simp⟩
    · exact ⟨held, by simpa using hmem⟩
  intro x hx y hy heq
  obtain ⟨s, hs, rfl⟩ := hcontents x hx
  obtain ⟨t, ht, rfl⟩ := hcontents y hy
  rw [List.inj_on_of_nodup_map nodup_digests hs ht heq]

set_option maxRecDepth 100000 in
/-- Others put another line into the file before it is written. Then it is not written, and the line stays. -/
theorem foreign_kept_line : ∃ c ∈ tidy.failure? default default
      (amid (fun p => if p = .saved then some "z\n" else none) (.memory [])),
    c.Distinct tidy ∧ tidied ∈ c.batch tidy ∧ filesWritten c.run.cycle = [] ∧
      c.left tidy tidied = some "z\n".toUTF8 ∧
      ((tidy.runCycle default default).exec (amid (fun p => if p = .saved then some "z\n" else none)
        (.memory []))).2.disk.fileAt ["w", "a"] = some "z\n".toUTF8 := by
  obtain ⟨hsetting, c, hc, hglance⟩ := exists_of_glance
    (fun p => if p = .saved then some "z\n" else none) (.memory [])
    ⟨[tidied], [], [some "z\n".toUTF8], ["trailing-whitespace"], some default, true, true, false⟩ nofun (by decide +kernel) rfl
  have hbatch : c.batch tidy = [tidied] := congrArg Glance.batch hglance
  have hheld := held_of_glance hglance rfl rfl
  have hdistinct := distinct_of_glance hbatch hheld (by decide)
  have hmem : tidied ∈ c.batch tidy := by rw [hbatch]; exact List.mem_singleton.mpr rfl
  obtain ⟨hkept, -, hfinal⟩ := foreign_kept hsetting hc hdistinct hmem
  have hleft : c.left tidy tidied = some "z\n".toUTF8 := by
    rw [hkept (by rw [hheld]; decide), hheld]
  refine ⟨c, hc, hdistinct, hmem, congrArg Glance.written hglance, hleft, ?_⟩
  exact (hfinal (by decide)).trans hleft

set_option maxRecDepth 100000 in
/-- Others put the very content into the file that the cycle had prepared. The cycle does not write the file, and
takes the content away all the same. -/
theorem foreign_lost_if_prepared : ∃ c ∈ tidy.failure? default default
      (amid (fun p => if p = .saved then some "x\n" else none) (.memory [])),
    tidied ∈ c.batch tidy ∧ tidied.file ∉ filesWritten c.run.cycle ∧
      c.held tidy tidied = some "x\n".toUTF8 ∧ c.left tidy tidied = some "x\n ".toUTF8 ∧
      ((tidy.runCycle default default).exec (amid (fun p => if p = .saved then some "x\n" else none)
        (.memory []))).2.disk.fileAt ["w", "a"] = some "x\n ".toUTF8 := by
  obtain ⟨hsetting, c, hc, hglance⟩ := exists_of_glance
    (fun p => if p = .saved then some "x\n" else none) (.memory [])
    ⟨[tidied], [], [some "x\n".toUTF8], ["trailing-whitespace"], some default, true, true, false⟩ nofun (by decide +kernel) rfl
  have hbatch : c.batch tidy = [tidied] := congrArg Glance.batch hglance
  have hheld := held_of_glance hglance rfl rfl
  have hdistinct := distinct_of_glance hbatch hheld (by decide)
  have hmem : tidied ∈ c.batch tidy := by rw [hbatch]; exact List.mem_singleton.mpr rfl
  have hwritten : filesWritten c.run.cycle = [] := congrArg Glance.written hglance
  have hleft : c.left tidy tidied = some "x\n ".toUTF8 := by
    rcases hsetting.failure hc with hunarmed | hacted
    · have hsnapshot := congrArg Glance.snapshot hglance
      cases hunarmed.cycle.2.1.symm.trans hsnapshot
    obtain ⟨told, d, hrun, -, ⟨lost, -, -, -, hall⟩ | ⟨⟨p, hp, -, -, hunfit⟩, -⟩⟩ :=
      hsetting.restore_acted hc hdistinct hacted
    · rw [Failure.left, Failure.restored, hrun]
      exact (hall tidied hmem).of_after rfl hheld
    · rw [hbatch, List.mem_singleton] at hp
      subst hp
      exact absurd ⟨by decide +kernel, by decide +kernel⟩ hunfit
  refine ⟨c, hc, hmem, by rw [hwritten]; nofun, hheld, hleft, ?_⟩
  exact (hsetting.final hc hdistinct ["w", "a"] (by decide)).trans hleft

end Engine
end Mend
