import Mend.Proofs.Engine.Books

/-!
# What the end of a cycle tells

The end of a cycle tells what is attested of it, which entries the history gets, and for which recipes an outcome
counts (`Summary`). `Accounts` are the books that have grown by that and by nothing else. Surveying gives records to
recipes that were never seen, and then a cycle is recorded and learned from: together these are the accounts of the
cycle (`Accounts.of_surveyed`).
-/

namespace Mend

open Fs Fs.Disk Ledger
open Action

/-! ## Counting -/

namespace Trust.Table

/-- The table after the outcomes that lessons tell. -/
def observeAll (t : Table) (rate : Float) (now : Time) (ls : List Lesson) : Table :=
  ls.foldl (fun t l => t.observe l.recipe l.outcome rate now) t

variable {ls : List Lesson} {q : String}

theorem record_observeAll (t : Table) (rate : Float) (now : Time) (h : q ∉ ls.map Lesson.recipe) :
    (t.observeAll rate now ls).record q = t.record q := by
  induction ls generalizing t with
  | nil => rfl
  | cons l ls ih =>
    have hq : q ≠ l.recipe := fun e => h (by simp [e])
    rw [observeAll, List.foldl_cons]
    refine (ih (t.observe l.recipe l.outcome rate now) fun hmem => h (List.mem_cons_of_mem _ hmem)).trans ?_
    rw [observe, record_insert, if_neg hq]

/-- An outcome is counted once for each recipe that a lesson tells it of. -/
theorem tally_observeAll (t : Table) (rate : Float) (now : Time) (hnodup : (ls.map Lesson.recipe).Nodup) (o : Outcome) :
    ((t.observeAll rate now ls).record q).tally o =
      if ∃ l ∈ ls, l.recipe = q ∧ l.outcome = o then Count.add ((t.record q).tally o) 1 else (t.record q).tally o := by
  induction ls generalizing t with
  | nil => simp [observeAll]
  | cons l ls ih =>
    obtain ⟨hnew, hnodup⟩ := List.nodup_cons.mp hnodup
    rw [observeAll, List.foldl_cons]
    by_cases hq : q = l.recipe
    · -- no later lesson is about this recipe
      subst hq
      have hrest := record_observeAll (t.observe l.recipe l.outcome rate now) rate now hnew
      rw [observeAll] at hrest
      have hother : (∃ l' ∈ l :: ls, l'.recipe = l.recipe ∧ l'.outcome = o) ↔ o = l.outcome := by
        constructor
        · rintro ⟨l', hl', hr, rfl⟩
          rcases List.mem_cons.mp hl' with rfl | hl'
          · rfl
          · exact absurd (hr ▸ List.mem_map_of_mem hl') hnew
        · rintro rfl
          exact ⟨l, List.mem_cons_self, rfl, rfl⟩
      rw [hrest, tally_observe]
      by_cases ho : o = l.outcome
      · rw [if_pos ⟨rfl, ho⟩, if_pos (hother.mpr ho)]
      · rw [if_neg fun h => ho h.2, if_neg fun h => ho (hother.mp h)]
    · have hstep : ((t.observe l.recipe l.outcome rate now).record q).tally o = (t.record q).tally o := by
        rw [tally_observe, if_neg fun h => hq h.1]
      have hother : (∃ l' ∈ l :: ls, l'.recipe = q ∧ l'.outcome = o) ↔ ∃ l' ∈ ls, l'.recipe = q ∧ l'.outcome = o := by
        constructor
        · rintro ⟨l', hl', hr, ho⟩
          rcases List.mem_cons.mp hl' with rfl | hl'
          · exact absurd hr.symm hq
          · exact ⟨l', hl', hr, ho⟩
        · rintro ⟨l', hl', hr, ho⟩
          exact ⟨l', List.mem_cons_of_mem _ hl', hr, ho⟩
      have hrest := ih (t.observe l.recipe l.outcome rate now) hnodup
      rw [observeAll] at hrest
      rw [hrest, hstep]
      simp only [hother]

end Trust.Table

namespace Books

variable {b b' : Books} {rate : Float} {now : Time}

/-- The books after the outcomes that lessons tell, each of which is written through. -/
def score (b : Books) (rate : Float) (now : Time) (ls : List Lesson) : Books :=
  ls.foldl (fun b l => b.commit fun t => t.observe l.recipe l.outcome rate now) b

theorem score_eq (b : Books) (ls : List Lesson) : b.score rate now ls =
    { b with
      trust := { b.trust with table := b.trust.table.observeAll rate now ls }
      page := if ls.isEmpty then b.page
        else b.trust.file.bind fun _ => some (Stored.page (b.trust.table.observeAll rate now ls)) } := by
  induction ls generalizing b with
  | nil => rfl
  | cons l ls ih =>
    rw [score, List.foldl_cons]
    refine (ih (b.commit fun t => t.observe l.recipe l.outcome rate now)).trans ?_
    cases ls with
    | nil => rfl
    | cons next rest => rfl

@[simp] theorem booked_score (b : Books) (ls : List Lesson) : (b.score rate now ls).Booked = b.Booked := by
  rw [score_eq]
  rfl

theorem append_nil (b : Books) : b.append [] = b := by
  rw [append]
  split
  · next old hold => rw [List.append_nil, ← hold]
  · rfl

/-- The entries of the history, if it can be read. -/
def entries? (b : Books) : Option (List History.Entry) :=
  match b.history with
  | .memory es => some es
  | .file _ => History.parse? (b.past.getD ByteArray.empty)

/-- The last line of the history is ended. -/
def Whole (b : Books) : Prop := terminated (b.past.getD ByteArray.empty) = b.past.getD ByteArray.empty

theorem entries?_append {es : List History.Entry} (hwhole : b.Whole) (hes : ∀ x ∈ es, x.recordedAt.Storable) :
    (b.append es).entries? = b.entries?.map (· ++ es) := by
  cases hstore : b.history with
  | memory old =>
    have hread : b.entries? = some old := by rw [entries?, hstore]
    rw [hread, entries?, append, hstore]
    rfl
  | file p =>
    have hread : b.entries? = History.parse? (b.past.getD ByteArray.empty) := by rw [entries?, hstore]
    rw [hread, append_file hstore, entries?]
    simp only [hstore]
    split
    · next hempty =>
      obtain rfl := List.isEmpty_iff.mp hempty
      simp
    · exact History.parse?_withLines hwhole hes

theorem entries?_attest (d : Attestation.Draft) : (b.attest d).entries? = b.entries? := by
  rw [attest_eq]
  rfl

theorem entries?_score (ls : List Lesson) : (b.score rate now ls).entries? = b.entries? := by
  rw [score_eq]
  rfl

/-! ## Surveying -/

/-- A survey has read the table of trust, and has given records to recipes that were never seen. -/
structure Surveyed (b : Books) (t : Trust.Table) (b' : Books) : Prop where
  file : b'.trust.file = b.trust.file
  record : ∀ q, b'.trust.table.record q = t.record q
  page : b'.page = b.trust.file.bind (fun _ => some (Stored.page b'.trust.table)) ∨ b'.page = b.page ∧ b'.trust.table = t
  history : b'.history = b.history
  past : b'.past = b.past
  attestations : b'.attestations = b.attestations
  log : b'.log = b.log

theorem surveyed_withTable (b : Books) (t : Trust.Table) : b.Surveyed t (b.withTable t) :=
  ⟨rfl, fun _ => rfl, .inr ⟨rfl, rfl⟩, rfl, rfl, rfl, rfl⟩

variable {t : Trust.Table}

theorem Surveyed.ensure (h : b.Surveyed t b') (recipe : String) :
    b.Surveyed t (b'.commit fun table => table.ensure recipe) where
  file := h.file
  record q := (Trust.Table.record_ensure _ _ _).trans (h.record q)
  page := by
    left
    rw [← h.file]
    rfl
  history := h.history
  past := h.past
  attestations := h.attestations
  log := h.log

theorem Surveyed.booked (h : b.Surveyed t b') : b'.Booked = b.Booked := by
  funext p
  rw [Booked, Booked, h.file, h.history, h.attestations]

theorem Surveyed.covers (h : b.Surveyed t b') : b'.Covers = b.Covers := by
  funext m
  simp only [Covers, h.booked]

end Books

/-! ## The end of a cycle -/

/-- What the end of a cycle tells: what is attested of it, the phase that it ends in, and why it failed if it did. -/
structure Summary where
  draft : Attestation.Draft
  phase : Phase
  error : Option Engine.Error

/-- What a result tells. -/
def CycleResult.summary (r : CycleResult) (now : Time) : Summary :=
  ⟨⟨r.id, now, r.before, r.after, r.recipes, r.files, r.verdict⟩, r.phase, r.error⟩

namespace Summary

/-- Whether the build passed, if it ran. -/
def passed (x : Summary) : Option Bool :=
  match x.phase, x.error with
  | .done, _ => some true
  | _, some (.buildFailed _) => some false
  | _, some (.regression _ _) => some true
  | _, _ => none

/-- The effect of the cycle. -/
def delta (x : Summary) : History.Delta :=
  ⟨x.draft.issuesBefore, x.draft.issuesAfter, Count.ofNatClamped x.draft.files.length, x.passed⟩

/-- An entry for each recipe that was applied, in their order. A cycle that had nothing to do has none. -/
def entries (x : Summary) : List History.Entry :=
  match x.draft.verdict.outcome? with
  | none => []
  | some o => x.draft.recipes.map fun r => ⟨x.draft.cycle, r, o, x.delta, x.draft.recordedAt⟩

/-- What the end of a cycle counts for. At a good end that is its outcome for each recipe that was applied. After a
failure it is a failure for each of them if the build failed or issues came up, or for the recipe that failed on an
issue. -/
def Counts (x : Summary) (r : String) (o : Outcome) : Prop :=
  x.phase = .done ∧ x.draft.verdict.outcome? = some o ∧ r ∈ x.draft.recipes ∨
    x.phase = .rolledBack ∧ o = .failure ∧ ∃ error, x.error = some error ∧
      ((error.kind = .buildFailedAfterApply ∨ error.kind = .regressionDetected) ∧ r ∈ x.draft.recipes ∨
        ∃ i cause, error = .patchGeneration r i cause)

/-- A cycle ends well, or it is rolled back. It knows each of its recipes once. -/
structure Sound (x : Summary) (id : CycleId) : Prop where
  cycle : x.draft.cycle = id
  nodup : x.draft.recipes.Nodup
  ends : x.phase = .done ∧ x.draft.verdict ≠ .failure ∨ x.phase = .rolledBack ∧ x.draft.verdict = .failure

end Summary

theorem recordedAt_of_mem_entries {x : Summary} {entry : History.Entry} (h : entry ∈ x.entries) :
    entry.recordedAt = x.draft.recordedAt := by
  rw [Summary.entries] at h
  split at h
  · cases h
  · obtain ⟨r, -, rfl⟩ := List.mem_map.mp h
    rfl

/-- The books after a cycle, as its end tells. The history and the log have grown by the entries and the record of the
cycle, and every recipe is trusted as before, but for one count for each that the end counts for. What could be read of
them is read as before, and then what was added. -/
structure Accounts (b b' : Books) (x : Summary) : Prop where
  trust : ∃ t, b.table? = some t ∧
    (∀ q o, x.Counts q o → (b'.trust.table.record q).tally o = Count.add ((t.record q).tally o) 1) ∧
    (∀ q o, ¬ x.Counts q o → (b'.trust.table.record q).tally o = (t.record q).tally o) ∧
    (∀ q, (∀ o, ¬ x.Counts q o) → b'.trust.table.record q = t.record q) ∧
    (b'.page = b.trust.file.bind (fun _ => some (Stored.page b'.trust.table)) ∨ b'.page = b.page ∧ b'.trust.table = t)
  history : b'.history = (b.append x.entries).history ∧ b'.past = (b.append x.entries).past
  attestations : b'.attestations = (b.attest x.draft).attestations ∧ b'.log = (b.attest x.draft).log
  entries : ∀ es, b.entries? = some es → b.Whole → x.draft.recordedAt.Storable → b'.entries? = some (es ++ x.entries)
  records : ∀ rs, Attestation.checkChain b.bytes = .ok rs → rs.length < UInt64.size → x.draft.Storable →
    Attestation.checkChain b'.bytes = .ok (rs ++ [Attestation.sealed rs x.draft])

namespace Accounts

variable {b b' b₁ : Books} {x : Summary} {t : Trust.Table} {rate : Float} {now : Time}

/-- What was surveyed, recorded and learned is all that the books need. -/
theorem of_surveyed (htable : b.table? = some t) (h : b.Surveyed t b₁) {ls : List Lesson}
    (hnodup : (ls.map Lesson.recipe).Nodup)
    (hcounts : ∀ q o, x.Counts q o ↔ ∃ l ∈ ls, l.recipe = q ∧ l.outcome = o) :
    Accounts b (((b₁.append x.entries).score rate now ls).attest x.draft) x := by
  have happend := Books.append_congr h.history h.past x.entries
  have hscored : (b₁.append x.entries).score rate now ls =
      { trust := { b₁.trust with table := b₁.trust.table.observeAll rate now ls }
        history := (b₁.append x.entries).history
        attestations := b₁.attestations
        page := if ls.isEmpty then b₁.page
          else b₁.trust.file.bind fun _ => some (Stored.page (b₁.trust.table.observeAll rate now ls))
        past := (b₁.append x.entries).past
        log := b₁.log } := by
    rw [Books.score_eq, Books.append_eq]
  have hlog : ((b₁.append x.entries).score rate now ls).attestations = b.attestations ∧
      ((b₁.append x.entries).score rate now ls).log = b.log := by
    rw [hscored]
    exact ⟨h.attestations, h.log⟩
  have hattest := Books.attest_congr hlog.1 hlog.2 x.draft
  have htrust : (((b₁.append x.entries).score rate now ls).attest x.draft).trust =
      { b₁.trust with table := b₁.trust.table.observeAll rate now ls } := by
    rw [Books.attest_eq, hscored]
  have hhistory : (((b₁.append x.entries).score rate now ls).attest x.draft).history = (b.append x.entries).history ∧
      (((b₁.append x.entries).score rate now ls).attest x.draft).past = (b.append x.entries).past := by
    rw [Books.attest_eq, hscored]
    exact happend
  refine ⟨⟨t, htable, fun q o hq => ?_, fun q o hq => ?_, fun q hq => ?_, ?_⟩, hhistory, hattest, ?_, ?_⟩
  · rw [htrust, Trust.Table.tally_observeAll _ _ _ hnodup, if_pos ((hcounts q o).mp hq), h.record]
  · rw [htrust, Trust.Table.tally_observeAll _ _ _ hnodup, if_neg fun hl => hq ((hcounts q o).mpr hl), h.record]
  · rw [htrust, Trust.Table.record_observeAll, h.record]
    intro hmem
    obtain ⟨l, hl, hrecipe⟩ := List.mem_map.mp hmem
    exact hq l.outcome ((hcounts q l.outcome).mpr ⟨l, hl, hrecipe, rfl⟩)
  · rw [htrust, Books.attest_eq, hscored]
    dsimp only
    split
    · next hempty =>
      obtain rfl := List.isEmpty_iff.mp hempty
      exact h.page
    · left
      rw [h.file]
  · intro es hes hwhole htime
    have hread := Books.entries?_append hwhole fun entry hentry => by rwa [recordedAt_of_mem_entries (x := x) hentry]
    rw [hes, Option.map_some] at hread
    rwa [Books.entries?, ← hhistory.1, ← hhistory.2] at hread
  · -- the chain goes on with one link
    intro rs hlog hcount hdraft
    rw [Books.bytes_congr hattest.1 hattest.2, Books.bytes_attest, Attestation.nextRecord_eq hlog,
      Attestation.withLine_of_checkChain hlog]
    exact Attestation.checkChain_sealed hlog hcount hdraft

end Accounts

end Mend
