import Mend.Proofs.Engine.Rollback
import Mend.Proofs.Engine.Summary

/-!
# Recording a cycle

Where every file of the ledger can be written (`Workspace.Writable`) a cycle is recorded, however it ends, and every file
can be written again. What is recorded is what the end of the cycle tells (`yields_finishIdle_tended`,
`yields_finishLearned_tended`, `yields_record_summary`).
-/

namespace Mend

open Fs Fs.Disk Ledger
open Action
open Function (update)

/-! ## Where a cycle can be recorded -/

namespace Workspace

variable {w w' : Workspace}

/-- Every file of the ledger can be written. Nothing hinders the temporary file beside the one that is replaced. -/
structure Writable (w : Workspace) : Prop where
  slot : ∀ p, w.books.Booked p → Slot w.disk p.location (resolve [] p.location)
  free : ∀ p, w.trust.file = some p → obstacle p (w.disk.node? (temporaryAt (resolve [] p.location))) = none

/-- There is nothing to write where the ledger is kept in memory. -/
theorem writable_of_memory (htrust : w.trust.file = none) (hhistory : ∃ entries, w.history = .memory entries)
    (hlog : ∃ log, w.attestations = .memory log) : w.Writable where
  slot p hp := by
    obtain ⟨entries, hentries⟩ := hhistory
    obtain ⟨log, hlog⟩ := hlog
    rcases hp with hp | hp | hp
    · exact nomatch htrust.symm.trans hp
    · exact nomatch hentries.symm.trans hp
    · exact nomatch hlog.symm.trans hp
  free p hp := nomatch htrust.symm.trans hp

/-- Files can be written while the directories are the same. -/
theorem Writable.mono (h : w.Writable) (htrust : w'.trust.file = w.trust.file)
    (hbooked : ∀ p, w'.books.Booked p → w.books.Booked p)
    (hdirs : ∀ m, w'.disk.node? m = some .dir ↔ w.disk.node? m = some .dir) : w'.Writable where
  slot p hp := by
    have hslot := h.slot p (hbooked p hp)
    exact hslot.mono (fun m => (hdirs m).mpr) fun hdir => hslot.not_dir ((hdirs _).mp hdir)
  free p hp := by
    rw [htrust] at hp
    obtain ⟨hfits, hleaf⟩ := obstacle_eq_none_iff.mp (h.free p hp)
    exact obstacle_eq_none_iff.mpr ⟨hfits, fun hdir => hleaf ((hdirs _).mp hdir)⟩

/-- A file that is written is no directory before and after. -/
theorem dir_iff_of_update {v v' : Location → Option Node} {l : Location} {n : Option Node} (h : v' = update v l n)
    (hl : v l ≠ some .dir) (hn : n ≠ some .dir) (m : Location) : v' m = some .dir ↔ v m = some .dir := by
  rw [h, Function.update_apply]
  split
  · next heq =>
    rw [heq]
    exact ⟨fun hdir => absurd hdir hn, fun hdir => absurd hdir hl⟩
  · exact Iff.rfl

/-- A table can be written through. -/
theorem succeeds_commit (change : Trust.Table → Trust.Table) : Succeeds Writable (onTrust (Trust.commit change)) := by
  intro w h
  rw [exec_onTrust]
  cases hfile : w.trust.file with
  | none =>
    have hcommit : (Trust.commit change).exec ⟨w.disk, w.trust⟩ =
        (.ok (), ⟨w.disk, { w.trust with table := change w.trust.table }⟩) := by
      rw [Trust.commit, exec_ofFun, hfile]
    rw [hcommit]
    exact ⟨_, _, rfl, h.mono rfl (fun _ hp => hp) fun _ => Iff.rfl⟩
  | some p =>
    have hslot := h.slot p (.inl hfile)
    have hleaf := (obstacle_eq_none_iff.mp (h.free p hfile)).2
    obtain ⟨d, hwrite, hview⟩ := exec_atomicWrite_free hslot (h.free p hfile) (Stored.page (change w.trust.table))
    have hcommit : (Trust.commit change).exec ⟨w.disk, w.trust⟩ =
        (.ok (), ⟨d, { w.trust with table := change w.trust.table }⟩) := by
      rw [Trust.commit, exec_ofFun, hfile]
      simp only [hwrite]
    rw [hcommit]
    refine ⟨_, _, rfl, h.mono rfl (fun _ hp => hp) fun m => ?_⟩
    generalize hremoved : update w.disk.node? (temporaryAt (resolve [] p.location)) none = v at hview
    have hkept : v (resolve [] p.location) ≠ some .dir := by
      rw [← hremoved, Function.update_of_ne (temporaryAt_ne _ hslot.ne_nil).symm]
      exact hslot.not_dir
    exact (dir_iff_of_update hview hkept (by simp) m).trans
      (dir_iff_of_update hremoved.symm hleaf (Option.some_ne_none _).symm m)

/-- Entries can be added to the history. -/
theorem succeeds_append (es : List History.Entry) : Succeeds Writable (onHistory (History.append es)) := by
  intro w h
  rw [exec_onHistory, History.append, exec_bind_ok (exec_get _)]
  cases hstore : w.history with
  | memory old =>
    refine ⟨_, _, rfl, h.mono rfl (fun p hp => ?_) fun _ => Iff.rfl⟩
    rcases hp with hp | hp | hp
    · exact .inl hp
    · cases hp
    · exact .inr (.inr hp)
  | file p =>
    have hslot := h.slot p (.inr (.inl hstore))
    have hline (entry : History.Entry) : Succeeds (fun s : History.Session => s.store = .file p ∧
        ∀ m, s.disk.node? m = some .dir ↔ w.disk.node? m = some .dir)
        ((Ledger.appendLine p (Stored.line entry)).zoom History.Session.disk fun d s => { s with disk := d }) := by
      rintro s ⟨hp, hdirs⟩
      have hslot' : Slot s.disk p.location (resolve [] p.location) :=
        hslot.mono (fun m => (hdirs m).mpr) fun hdir => hslot.not_dir ((hdirs _).mp hdir)
      obtain ⟨d, mode, hadded, hview⟩ := Attestation.exec_appendLine_slot hslot' (Stored.line entry)
      refine ⟨(), { s with disk := d }, by rw [exec_zoom, hadded], hp, fun m => ?_⟩
      exact (dir_iff_of_update hview hslot'.not_dir (by simp) m).trans (hdirs m)
    obtain ⟨⟨⟩, s, hlines, hs, hdirs⟩ := Succeeds.forM (fun entry (_ : entry ∈ es) => hline entry)
      ⟨w.disk, .file p⟩ ⟨rfl, fun _ => Iff.rfl⟩
    dsimp only
    rw [hlines]
    refine ⟨_, _, rfl, h.mono rfl (fun q hq => ?_) hdirs⟩
    rcases hq with hq | hq | hq
    · exact .inl hq
    · exact .inr (.inl (hstore.trans (hs.symm.trans hq)))
    · exact .inr (.inr hq)

/-- A record can be added to the log. -/
theorem succeeds_attest (d : Attestation.Draft) : Succeeds Writable (onAttestations (Attestation.record d)) := by
  intro w h
  rw [exec_onAttestations, Attestation.record, exec_bind, exec_query, Attestation.Session.raw]
  dsimp only
  cases hstore : w.attestations with
  | memory log =>
    dsimp only
    rw [exec_bind, Attestation.appendLine, exec_bind_ok (exec_get _)]
    refine ⟨_, _, rfl, h.mono rfl (fun p hp => ?_) fun _ => Iff.rfl⟩
    rcases hp with hp | hp | hp
    · exact .inl hp
    · exact .inr (.inl hp)
    · cases hp
  | file p =>
    have hslot := h.slot p (.inr (.inr hstore))
    dsimp only
    rw [Attestation.readOrEmpty_slot hslot]
    dsimp only
    obtain ⟨d', mode, hadded, hview⟩ := Attestation.exec_appendLine_slot hslot
      (Attestation.nextRecord ((w.disk.fileAt (resolve [] p.location)).getD ByteArray.empty) d).encode
    rw [exec_bind, Attestation.appendLine, exec_bind_ok (exec_get _)]
    dsimp only
    rw [exec_zoom, hadded]
    refine ⟨_, _, rfl, h.mono rfl (fun q hq => ?_) fun m => ?_⟩
    · rcases hq with hq | hq | hq
      · exact .inl hq
      · exact .inr (.inl hq)
      · exact .inr (.inr (hstore.trans hq))
    · exact dir_iff_of_update hview hslot.not_dir (by simp) m

end Workspace

namespace Engine

variable {e : Engine} {b : Books} {id : CycleId} {now : Time} {c : Failure} {k : Cycle}

theorem succeeds_onWorkspace {α : Type} {P : Workspace → Prop} {act : Workspace.Step α} (h : Succeeds P act) :
    Succeeds (fun r => r.cycle = k ∧ P r.workspace) (Run.onWorkspace act) := by
  rintro r ⟨rfl, hr⟩
  obtain ⟨a, w, hrun, hw⟩ := h r.workspace hr
  exact ⟨a, ⟨r.cycle, w⟩, Run.exec_onWorkspace_of hrun, rfl, hw⟩

/-- A cycle can be learned from. -/
theorem succeeds_learn (ls : List Lesson) (report : Report) (v : Option Verification) (now : Time) :
    Succeeds (fun r => r.cycle = k ∧ r.workspace.Writable) (e.learn ls report v now) := by
  have hscore (lesson : Lesson) : Succeeds Workspace.Writable (Lesson.score e.config.learningRate now lesson) := by
    refine Succeeds.bind ?_ fun _ => succeeds_pure _
    intro w hw
    obtain ⟨⟨⟩, w', hcommit, hw'⟩ := Workspace.succeeds_commit
      (fun t => t.observe lesson.recipe lesson.outcome e.config.learningRate now) w hw
    rw [Workspace.exec_onTrust] at hcommit
    obtain ⟨hok, rfl⟩ := Prod.mk.inj hcommit
    rcases hrun : (Trust.commit fun t => t.observe lesson.recipe lesson.outcome e.config.learningRate now).exec
      ⟨w.disk, w.trust⟩ with ⟨cause | ⟨⟩, x⟩
    · rw [hrun] at hok
      cases hok
    rw [hrun] at hw'
    rw [Workspace.exec_onTrust, Trust.recordOutcome, exec_bind_ok hrun]
    exact ⟨_, _, rfl, hw'⟩
  refine succeeds_get.bind fun _ => (succeeds_onWorkspace ?_).bind fun _ => succeeds_pure _
  exact (Workspace.succeeds_append _).bind fun _ => Succeeds.mapM fun lesson _ => hscore lesson

/-- A cycle can be attested. -/
theorem succeeds_attest (before after : Count) (verdict : Verdict) (now : Time) :
    Succeeds (fun r => r.cycle = k ∧ r.workspace.Writable) (attest before after verdict now) :=
  succeeds_get.bind fun _ => (succeeds_onWorkspace (Workspace.succeeds_attest _)).bind fun _ => succeeds_pure _

/-- A cycle that failed can be recorded. -/
theorem succeeds_record (report : Report) (v : Option Verification) (error : Engine.Error) (now : Time) :
    Succeeds (fun r => r.cycle = k ∧ r.workspace.Writable) (e.record report v error now) :=
  succeeds_get.bind fun _ => (succeeds_learn _ _ _ _).bind fun _ => succeeds_attest _ _ _ _

/-- A cycle that ended well can be recorded. -/
theorem exists_finishLearned {r : Run} (hwalk : r.cycle.walk = toVerify) (h : r.workspace.Writable) (report : Report)
    (v : Verification) : ∃ res r', (e.finishLearned report v now).exec r = (.ok res, r') := by
  have hlearn : r.cycle.walk.advance? .learn = some ⟨.learn, [.observe, .decide, .act, .verify, .learn]⟩ := by
    rw [hwalk]
    rfl
  rw [finishLearned, exec_bind_ok (Run.exec_enter hlearn), exec_bind_ok (exec_get _)]
  obtain ⟨⟨⟩, r₁, hrun₁, hr₁⟩ := succeeds_learn (e := e) (r.cycle.recipes.map fun q =>
    ⟨q, v.verdict.outcome?.getD .partly, true⟩) report (some v) now
    ⟨{ r.cycle with walk := ⟨.learn, [.observe, .decide, .act, .verify, .learn]⟩ }, r.workspace⟩ ⟨rfl, h⟩
  obtain ⟨digest, r₂, hrun₂, hr₂⟩ := succeeds_attest v.before v.after v.verdict now r₁ hr₁
  have hdone : r₂.cycle.walk.advance? .done = some ⟨.done, [.observe, .decide, .act, .verify, .learn, .done]⟩ := by
    rw [hr₂.1]
    rfl
  rw [exec_bind_ok hrun₁, exec_bind_ok hrun₂, exec_bind_ok (Run.exec_enter hdone)]
  exact ⟨_, _, rfl⟩

/-! ## What is recorded -/

theorem yields_score_tended (rate : Float) (ls : List Lesson) :
    Yields (e.Tended b) (ls.mapM (Lesson.score rate now)) fun _ => e.Tended (b.score rate now ls) := by
  induction ls generalizing b with
  | nil => exact yields_pure fun _ h => h
  | cons l ls ih =>
    rw [List.mapM_cons]
    have hone : Yields (e.Tended b) (Lesson.score rate now l) fun _ =>
        e.Tended (b.commit fun t => t.observe l.recipe l.outcome rate now) := by
      refine Yields.bind (Q := fun _ => e.Tended (b.commit fun t => t.observe l.recipe l.outcome rate now)) ?_
        fun _ => yields_pure fun _ h => h
      intro w record w' h hrun
      rw [Workspace.exec_onTrust, Trust.recordOutcome] at hrun
      rcases hcommit : (Trust.commit fun t => t.observe l.recipe l.outcome rate now).exec ⟨w.disk, w.trust⟩ with
        ⟨cause | ⟨⟩, x⟩
      · rw [exec_bind_error hcommit] at hrun
        cases (Prod.mk.inj hrun).1
      rw [exec_bind_ok hcommit] at hrun
      obtain ⟨-, rfl⟩ := Prod.mk.inj hrun
      refine yields_commit_tended (fun t => t.observe l.recipe l.outcome rate now) w ⟨⟩ _ h ?_
      rw [Workspace.exec_onTrust, hcommit]
      rfl
    exact hone.bind fun _ => ih.bind fun _ => yields_pure fun _ h => h

/-- How many issues there are at the end of a cycle, as far as it knows. -/
def countAfter (report : Report) (v : Option Verification) : Count :=
  match v with
  | some v => v.after
  | none => report.count

/-- The effect of a cycle. -/
def effect (k : Cycle) (report : Report) (v : Option Verification) : History.Delta :=
  ⟨report.count, countAfter report v, Count.ofNatClamped k.applied.length, v.map fun v => v.build.passed⟩

/-- The books after a cycle was learned from. -/
def learned (e : Engine) (b : Books) (k : Cycle) (ls : List Lesson) (report : Report) (v : Option Verification)
    (now : Time) : Books :=
  (b.append (ls.map (Lesson.entry k.id (effect k report v) now))).score e.config.learningRate now (ls.filter Lesson.scored)

theorem learn_eq (ls : List Lesson) (report : Report) (v : Option Verification) :
    e.learn ls report v now = (do
      let c := (← get).cycle
      let _ ← Run.onWorkspace (Lesson.learn c.id ls (effect c report v) e.config.learningRate now)
      return ()) := rfl

theorem yields_learn_tended (ls : List Lesson) (report : Report) (v : Option Verification) :
    Yields (fun r => r.cycle = k ∧ e.Tended b r.workspace) (e.learn ls report v now) fun _ r =>
      r.cycle = k ∧ e.Tended (e.learned b k ls report v now) r.workspace := by
  intro r x r' hr hrun
  obtain ⟨rfl, hbooks⟩ := hr
  have hlearn : Yields (e.Tended b) (Lesson.learn r.cycle.id ls (effect r.cycle report v) e.config.learningRate now)
      fun _ => e.Tended (e.learned b r.cycle ls report v now) :=
    (yields_append_tended _).bind fun _ => yields_score_tended _ _
  rw [learn_eq, exec_bind_ok (exec_get _)] at hrun
  rcases hstep : (Lesson.learn r.cycle.id ls (effect r.cycle report v) e.config.learningRate now).exec r.workspace with
    ⟨cause | y, w⟩
  · rw [exec_bind_error (Run.exec_onWorkspace_of hstep)] at hrun
    cases (Prod.mk.inj hrun).1
  · rw [exec_bind_ok (Run.exec_onWorkspace_of hstep)] at hrun
    obtain ⟨-, rfl⟩ := Prod.mk.inj hrun
    exact ⟨rfl, hlearn r.workspace y w hbooks hstep⟩

/-- What is attested of a cycle. -/
def drafted (k : Cycle) (before after : Count) (verdict : Verdict) (now : Time) : Attestation.Draft :=
  ⟨k.id, now, before, after, k.recipes, filesWritten k, verdict⟩

theorem yields_attest_tended (before after : Count) (verdict : Verdict) :
    Yields (fun r => r.cycle = k ∧ e.Tended b r.workspace) (attest before after verdict now) fun digest r =>
      r.cycle = k ∧ digest = (Attestation.nextRecord b.bytes (drafted k before after verdict now)).own ∧
        e.Tended (b.attest (drafted k before after verdict now)) r.workspace := by
  intro r digest r' hr hrun
  obtain ⟨rfl, hbooks⟩ := hr
  rw [attest, exec_bind_ok (exec_get _)] at hrun
  dsimp only at hrun
  rcases hstep : (Workspace.onAttestations (Attestation.record (drafted r.cycle before after verdict now))).exec
    r.workspace with ⟨cause | record, w⟩
  · rw [← drafted, exec_bind_error (Run.exec_onWorkspace_of hstep)] at hrun
    cases (Prod.mk.inj hrun).1
  · rw [← drafted, exec_bind_ok (Run.exec_onWorkspace_of hstep)] at hrun
    obtain ⟨hdigest, rfl⟩ := Prod.mk.inj hrun
    obtain ⟨hrecord, hbooks'⟩ := yields_record_tended _ r.workspace record w hbooks hstep
    refine ⟨rfl, ?_, hbooks'⟩
    rw [← hrecord]
    exact (Except.ok.inj hdigest).symm

/-! ## How a cycle ends -/

/-- The log is the same before a cycle is attested. -/
theorem bytes_learned (ls : List Lesson) (report : Report) (v : Option Verification) :
    (e.learned b k ls report v now).bytes = b.bytes := by
  rw [learned, Books.score_eq, Books.append_eq]
  rfl

/-- Ends a cycle in some phase, as it is recorded. -/
theorem yields_result_summary (verdict : Verdict) (before after : Count) (error : Option Engine.Error) (digest : Digest) :
    Yields (fun r => r.cycle = k ∧ e.Tended b r.workspace) (result verdict before after error digest) fun res r =>
      res.summary now = ⟨drafted k before after verdict now, k.walk.current, error⟩ ∧ res.attestation = digest ∧
        e.Tended b r.workspace := by
  rintro r res r' ⟨rfl, hbooks⟩ hrun
  obtain ⟨hres, rfl⟩ := Prod.mk.inj hrun
  obtain rfl := Except.ok.inj hres
  exact ⟨rfl, rfl, hbooks⟩

theorem yields_enter_tended {p : Phase} {walk : Walk} (h : k.walk.advance? p = some walk) :
    Yields (fun r => r.cycle = k ∧ e.Tended b r.workspace) (Run.enter p) fun _ r =>
      r.cycle = { k with walk := walk } ∧ e.Tended b r.workspace := by
  rintro r x r' ⟨rfl, hbooks⟩ hrun
  rw [Run.exec_enter h] at hrun
  obtain ⟨-, rfl⟩ := Prod.mk.inj hrun
  exact ⟨rfl, hbooks⟩

/-- A cycle that has nothing to do is attested. -/
theorem yields_finishIdle_tended (report : Report) :
    Yields (fun r => r.cycle = decided id ∧ e.Tended b r.workspace) (finishIdle report now) fun res r =>
      res.summary now = ⟨drafted (decided id) report.count report.count .noop now, .done, some .noApplicableRecipe⟩ ∧
        res.attestation = (Attestation.nextRecord b.bytes
          (drafted (decided id) report.count report.count .noop now)).own ∧
        e.Tended (b.attest (drafted (decided id) report.count report.count .noop now)) r.workspace := by
  have hwalk : (decided id).walk.advance? .done = some ⟨.done, [.observe, .decide, .done]⟩ := rfl
  refine (yields_enter_tended hwalk).bind fun _ => ?_
  refine (yields_attest_tended _ _ _).bind fun digest r res r' hr hrun => ?_
  obtain ⟨hcycle, hdigest, hbooks⟩ := hr
  obtain ⟨hsummary, hattestation, hbooks'⟩ := yields_result_summary _ _ _ _ _ r res r' ⟨hcycle, hbooks⟩ hrun
  exact ⟨hsummary, hattestation.trans hdigest, hbooks'⟩

/-- What a cycle teaches that ended well. -/
def lessons (k : Cycle) (v : Verification) : List Lesson := k.recipes.map fun r => ⟨r, v.verdict.outcome?.getD .partly, true⟩

/-- A cycle that ended well is learned from and attested. -/
theorem yields_finishLearned_tended (hk : k.walk = toVerify) (report : Report) (v : Verification) :
    Yields (fun r => r.cycle = k ∧ e.Tended b r.workspace) (e.finishLearned report v now) fun res r =>
      res.summary now = ⟨drafted k v.before v.after v.verdict now, .done, none⟩ ∧
        res.attestation = (Attestation.nextRecord b.bytes (drafted k v.before v.after v.verdict now)).own ∧
        e.Tended ((e.learned b k (lessons k v) report (some v) now).attest (drafted k v.before v.after v.verdict now))
          r.workspace := by
  have hwalk : k.walk.advance? .learn = some ⟨.learn, [.observe, .decide, .act, .verify, .learn]⟩ := by
    rw [hk]
    rfl
  refine (yields_enter_tended hwalk).bind fun _ r res r' hr hrun => ?_
  have hdone : ({ k with walk := ⟨.learn, [.observe, .decide, .act, .verify, .learn]⟩ } : Cycle).walk.advance? .done =
      some ⟨.done, [.observe, .decide, .act, .verify, .learn, .done]⟩ := rfl
  have hrest : Yields (fun r => r.cycle = { k with walk := ⟨.learn, [.observe, .decide, .act, .verify, .learn]⟩ } ∧
      e.Tended b r.workspace) (do
        e.learn (lessons k v) report (some v) now
        let digest ← attest v.before v.after v.verdict now
        Run.enter .done
        result v.verdict v.before v.after none digest) fun res r =>
      res.summary now = ⟨drafted k v.before v.after v.verdict now, .done, none⟩ ∧
        res.attestation = (Attestation.nextRecord b.bytes (drafted k v.before v.after v.verdict now)).own ∧
        e.Tended ((e.learned b k (lessons k v) report (some v) now).attest (drafted k v.before v.after v.verdict now))
          r.workspace := by
    refine (yields_learn_tended _ _ _).bind fun _ => (yields_attest_tended _ _ _).bind fun digest => ?_
    rintro r res r' ⟨hcycle, hdigest, hbooks⟩ hrun
    rw [bytes_learned] at hdigest
    obtain ⟨hsummary, hattestation, hbooks'⟩ := ((yields_enter_tended hdone).bind fun _ =>
      yields_result_summary v.verdict v.before v.after none digest) r res r' ⟨hcycle, hbooks⟩ hrun
    exact ⟨hsummary, hattestation.trans hdigest, hbooks'⟩
  rw [exec_bind_ok (exec_get _), hr.1] at hrun
  exact hrest r res r' hr hrun

/-- What a cycle teaches that failed. -/
def Failure.lessons (c : Failure) : List Lesson := c.run.cycle.recipes.map (lessonOf c.error)

/-- What the end of a failed cycle tells. -/
def Failure.summary (c : Failure) (now : Time) : Summary :=
  ⟨drafted c.run.cycle c.acting.report.count (countAfter c.acting.report c.verification) .failure now, .rolledBack,
    some c.error⟩

/-- The books after a failed cycle was recorded. -/
def Failure.booked (e : Engine) (c : Failure) (b : Books) (now : Time) : Books :=
  (e.learned b c.run.cycle c.lessons c.acting.report c.verification now).attest (c.summary now).draft

theorem yields_record_summary (hbooks : e.Tended b (c.restored e).workspace)
    (hcycle : (c.restored e).cycle = c.run.cycle) {digest : Digest} {r : Run}
    (hrun : (e.record c.acting.report c.verification c.error now).exec (c.restored e) = (.ok digest, r)) :
    r.cycle = c.run.cycle ∧ digest = (Attestation.nextRecord b.bytes (c.summary now).draft).own ∧
      e.Tended (c.booked e b now) r.workspace := by
  have hrest : Yields (fun r => r.cycle = c.run.cycle ∧ e.Tended b r.workspace) (do
      e.learn c.lessons c.acting.report c.verification now
      attest c.acting.report.count (countAfter c.acting.report c.verification) .failure now) fun digest r =>
        r.cycle = c.run.cycle ∧ digest = (Attestation.nextRecord b.bytes (c.summary now).draft).own ∧
          e.Tended (c.booked e b now) r.workspace := by
    refine (yields_learn_tended _ _ _).bind fun _ r digest r' hr hrun => ?_
    have hattested := yields_attest_tended _ _ _ r digest r' hr hrun
    rw [bytes_learned] at hattested
    exact hattested
  rw [record.eq_def, exec_bind_ok (exec_get _), hcycle] at hrun
  exact hrest _ _ _ ⟨hcycle, hbooks⟩ hrun

/-- A failed cycle that is recorded ends as rolled back, or with what kept it from being undone. -/
theorem rollBack_tended (hwalk : c.run.cycle.walk = toAct ∨ c.run.cycle.walk = toVerify)
    (hbooks : e.Tended b (c.restored e).workspace) {res : Except Engine.Error CycleResult} {r : Run}
    (hrun : (e.rollBack c.acting.report c.verification c.error now).exec c.run = (res, r)) :
    (∃ error, c.recorded e now = .error error ∧ res = .error error) ∨
      (∃ digest, c.recorded e now = .ok digest) ∧ e.Tended (c.booked e b now) r.workspace ∧
        ∃ told, (e.restoreCycle.exec c.run).1 = .ok told ∧
          ((∃ cause, told = some cause ∧ res = .error (.rollbackFailed cause)) ∨
            told = none ∧ ∃ result, res = .ok result ∧ result.summary now = c.summary now ∧
              result.attestation = (Attestation.nextRecord b.bytes (c.summary now).draft).own) := by
  obtain ⟨told, d, hrestore, -⟩ := restoreCycle_cases e c
  have hcycle : (c.restored e).cycle = c.run.cycle := by rw [Failure.restored, hrestore]
  have htold : e.restoreCycle.exec c.run = (.ok told, c.restored e) := by rw [Failure.restored, hrestore]
  rw [rollBack_eq, exec_bind_ok htold, exec_bind] at hrun
  rw [Failure.recorded]
  rcases hrecord : (e.record c.acting.report c.verification c.error now).exec (c.restored e) with ⟨error | digest, r'⟩
  · rw [hrecord] at hrun
    obtain ⟨rfl, -⟩ := Prod.mk.inj hrun
    exact .inl ⟨error, rfl, rfl⟩
  rw [hrecord] at hrun
  obtain ⟨hcycle', hdigest, hbooks'⟩ := yields_record_summary hbooks hcycle hrecord
  refine .inr ⟨⟨digest, rfl⟩, ?_⟩
  rw [htold]
  cases told with
  | some cause =>
    obtain ⟨rfl, rfl⟩ := Prod.mk.inj hrun
    exact ⟨hbooks', some cause, rfl, .inl ⟨cause, rfl, rfl⟩⟩
  | none =>
    have hadvance : ∃ walk, r'.cycle.walk.advance? .rolledBack = some walk ∧ walk.current = .rolledBack := by
      rw [hcycle']
      rcases hwalk with hwalk | hwalk <;> rw [hwalk] <;> exact ⟨_, rfl, rfl⟩
    obtain ⟨walk, hadvance, hcurrent⟩ := hadvance
    dsimp only at hrun
    rw [exec_bind_ok (Run.exec_enter hadvance)] at hrun
    obtain ⟨rfl, rfl⟩ := Prod.mk.inj hrun
    refine ⟨hbooks', none, rfl, .inr ⟨rfl, _, rfl, ?_, hdigest⟩⟩
    rw [Failure.summary, ← hcycle', ← hcurrent]
    rfl

end Engine
end Mend
