import Mend.Proofs.Engine.Selection

/-!
# The order of a report does not matter

Issues in another order lead to the same counts, and to pairs that are the same in everything but the issue's
column, category, message and hint (**`decide_perm`**). Those are left out of what the decision looks at (`Fix.seen`).

What a ranked pair does to the selection is determined by what is seen of it (`seen_step`), so the run over the
ranked pairs is, too (`seen_select`). Sorting need not give the same list for two orders, since pairs may be alike
in all keys. But what is seen of such pairs is the same (`seen_eq_of_rank`), the span and the estimate included:
they come from the recipe, which its name determines, and from the line. So what is seen of the sorted lists is the
same (`seen_ranked`).
-/

namespace Mend

/-! ## What is seen of a pair -/

namespace Fix

variable {σ : Type}

/-- Both are for issues with the same identifier at the same line of the same file, with the same severity, by the
same recipe, with the same score, and they touch the same lines. -/
structure Alike (a b : Fix σ) : Prop where
  id : a.issue.id = b.issue.id
  file : a.issue.file = b.issue.file
  line : a.issue.line = b.issue.line
  severity : a.issue.severity = b.issue.severity
  recipe : a.recipe = b.recipe
  score : a.score = b.score
  span : a.span = b.span
  estimate : a.estimate = b.estimate

/-- The pair with an issue of which only what the decision looks at is left. -/
def seen (f : Fix σ) : Fix σ :=
  { f with issue := { f.issue with column := none, category := "", message := "", eligible := true, hint := none } }

theorem alike_iff {a b : Fix σ} : a.Alike b ↔ a.seen = b.seen := by
  constructor
  · intro h
    simp only [seen, h.id, h.file, h.line, h.severity, h.recipe, h.score, h.span, h.estimate]
  · intro h
    simp only [seen, Fix.mk.injEq, Issue.mk.injEq] at h
    obtain ⟨⟨hid, hfile, hline, -, hseverity, -⟩, hrecipe, hscore, hspan, hestimate⟩ := h
    exact ⟨hid, hfile, hline, hseverity, hrecipe, hscore, hspan, hestimate⟩

@[simp] theorem conflicts_seen (a b : Fix σ) : a.seen.conflicts b.seen = a.conflicts b := rfl

@[simp] theorem before_seen [Ord σ] (a b : Fix σ) : a.seen.before b.seen = a.before b := rfl

end Fix

instance : Std.LawfulEqOrd Severity where
  compare_self {a} := Nat.compare_eq_eq.mpr rfl
  eq_of_compare {a b} h := by
    have hrank : a.rank = b.rank := Nat.compare_eq_eq.mp h
    cases a <;> cases b <;> simp_all [Severity.rank]

theorem Score.key_inj {x y : Float} (h : Score.key x = Score.key y) : x = y := by
  have hlt (z : Float) : z.toBits.toNat < 2 ^ 64 := z.toBits.toNat_lt
  have hx := hlt x
  have hy := hlt y
  have hbits : x.toBits.toNat = y.toBits.toNat := by
    have hpow : Nat.pow 2 63 = 2 ^ 63 := rfl
    simp only [Score.key, hpow, Int.ofNat_eq_natCast] at h
    split at h <;> split at h <;> omega
  obtain ⟨⟨a, ha⟩⟩ := x
  obtain ⟨⟨b, hb⟩⟩ := y
  obtain rfl : a = b := UInt64.toNat_inj.mp hbits
  rfl

instance : Std.LawfulEqOrd Score where
  compare_self {a} := show compare (Score.key a.value) (Score.key a.value) = .eq from Std.ReflCmp.compare_self
  eq_of_compare {a b} h := by
    obtain ⟨a⟩ := a
    obtain ⟨b⟩ := b
    have hkey : compare (Score.key a) (Score.key b) = .eq := h
    exact congrArg Score.mk (Score.key_inj (Std.LawfulEqCmp.eq_of_compare hkey))

/-- What the recipe may touch depends on the line of the issue only. -/
theorem Recipe.span_congr {i j : Issue} (h : i.line = j.line) (r : Recipe) : r.span i = r.span j := by
  cases r <;> simp only [Recipe.span, h]

namespace Decision

open Budget

variable {σ : Type}

/-- The decisions count the same, and select alike pairs in the same order. -/
structure Alike (d e : Decision σ) : Prop where
  selected : List.Forall₂ Fix.Alike d.selected e.selected
  eligible : d.eligible = e.eligible
  considered : d.considered = e.considered
  belowThreshold : d.belowThreshold = e.belowThreshold
  conflicts : d.conflicts = e.conflicts
  overBudget : d.overBudget = e.overBudget

theorem forall₂_alike {xs ys : List (Fix σ)} (h : xs.map Fix.seen = ys.map Fix.seen) : List.Forall₂ Fix.Alike xs ys := by
  induction xs generalizing ys with
  | nil =>
    rw [List.map_nil, eq_comm, List.map_eq_nil_iff] at h
    rw [h]
    exact .nil
  | cons x xs ih =>
    cases ys with
    | nil => simp at h
    | cons y ys =>
      simp only [List.map_cons, List.cons.injEq] at h
      exact .cons (Fix.alike_iff.mpr h.1) (ih h.2)

/-! ## Selecting -/

/-- The progress with what is seen of the selected pairs. -/
def Progress.seen (p : Progress σ) : Progress σ := { p with selected := p.selected.map Fix.seen }

/-- A step looks at nothing else. -/
theorem seen_step (p : Progress σ) (f : Fix σ) : (p.step f).seen = p.seen.step f.seen := by
  have hconflict : (p.seen.selected.any fun s => s.conflicts f.seen) = p.selected.any fun s => s.conflicts f := by
    simp only [Progress.seen, List.any_map, Function.comp_def, Fix.conflicts_seen]
  unfold Progress.step
  rw [hconflict]
  by_cases h : (p.selected.any fun s => s.conflicts f) = true
  · rw [if_pos h, if_pos h]
    rfl
  · rw [if_neg h, if_neg h]
    have hguard : p.seen.guard.accept f.seen.issue.file f.seen.estimate = p.guard.accept f.issue.file f.estimate := rfl
    rw [hguard]
    cases p.guard.accept f.issue.file f.estimate with
    | error e => rfl
    | ok guard => simp only [Progress.seen, List.map_append, List.map_cons, List.map_nil]

theorem seen_run (p : Progress σ) (fs : List (Fix σ)) :
    (fs.foldl Progress.step p).seen = (fs.map Fix.seen).foldl Progress.step p.seen := by
  induction fs generalizing p with
  | nil => rfl
  | cons f fs ih => rw [List.foldl_cons, ih, seen_step, List.map_cons, List.foldl_cons]

theorem seen_select (limits : Limits) (fs : List (Fix σ)) : (select limits fs).seen = select limits (fs.map Fix.seen) :=
  seen_run _ fs

/-! ## Ranking -/

section

variable {g : Registry} {disabled : String → Bool} {score : Recipe → Issue → σ} {issues issues' : List Issue}

theorem exists_recipe (hg : g.Sound) {f : Fix σ} (h : f ∈ pairs g disabled score issues) :
    ∃ r ∈ Registry.recipes g, r.id = f.recipe ∧ r.span f.issue = f.span ∧ r.estimate = f.estimate := by
  rw [← map_placed] at h
  obtain ⟨x, hx, rfl⟩ := List.mem_map.mp h
  obtain ⟨r, hr, -, hid, -, hspan, hestimate⟩ := ((mem_placed hg).mp hx).recipe
  exact ⟨r, hr, hid, hspan, hestimate⟩

/-- Of pairs that are alike in the order of selection the same is seen. -/
theorem seen_eq_of_rank [Ord σ] [Std.LawfulEqOrd σ] (hg : g.Sound) (hproper : ∀ i ∈ issues, i.file.Proper)
    {a b : Fix σ} (ha : a ∈ pairs g disabled score issues) (hb : b ∈ pairs g disabled score issues)
    (h : a.rank b = .eq) : a.seen = b.seen := by
  obtain ⟨q, hq, hqid, hqspan, hqestimate⟩ := exists_recipe hg ha
  obtain ⟨r, hr, hrid, hrspan, hrestimate⟩ := exists_recipe hg hb
  simp only [Fix.rank, Ordering.then_eq_eq] at h
  obtain ⟨hscore, hseverity, hrecipe, hid, hfile, hline⟩ := h
  have hrecipe : a.recipe = b.recipe := Std.LawfulEqCmp.eq_of_compare hrecipe
  have hline : a.issue.line = b.issue.line := Std.LawfulEqCmp.eq_of_compare hline
  have hsame : q = r := by
    have hfind : Registry.find? g a.recipe = some q := hg.find?_eq_some_iff.mpr ⟨hq, hqid⟩
    rw [hrecipe, hg.find?_eq_some_iff.mpr ⟨hr, hrid⟩] at hfind
    exact (Option.some.inj hfind).symm
  subst hsame
  refine Fix.alike_iff.mp ⟨Std.LawfulEqCmp.eq_of_compare hid, ?_, hline, ?_, hrecipe, ?_, ?_, ?_⟩
  · exact (hproper _ (mem_pairs ha).1).eq_of_compare (hproper _ (mem_pairs hb).1) hfile
  · exact (Std.LawfulEqCmp.eq_of_compare hseverity).symm
  · exact (Std.LawfulEqCmp.eq_of_compare hscore).symm
  · rw [← hqspan, ← hrspan, Recipe.span_congr hline]
  · rw [← hqestimate, ← hrestimate]

theorem pairs_perm (h : issues.Perm issues') :
    (pairs g disabled score issues).Perm (pairs g disabled score issues') :=
  (h.filter _).flatMap_right _

/-- Of pairs in two orders the same is seen when they are ranked. -/
theorem seen_ranked [Ord σ] [Std.TransOrd σ] [Std.LawfulEqOrd σ] (hg : g.Sound)
    (hproper : ∀ i ∈ issues, i.file.Proper) {fs fs' : List (Fix σ)} (h : fs.Perm fs')
    (hfs : ∀ f ∈ fs, f ∈ pairs g disabled score issues) :
    (fs.mergeSort Fix.before).map Fix.seen = (fs'.mergeSort Fix.before).map Fix.seen := by
  have hsorted (gs : List (Fix σ)) : ((gs.mergeSort Fix.before).map Fix.seen).Pairwise fun a b => a.before b = true := by
    rw [List.pairwise_map]
    exact List.pairwise_mergeSort Fix.before_trans Fix.before_total gs
  have hperm := (((List.mergeSort_perm fs Fix.before).trans h).trans (List.mergeSort_perm fs' Fix.before).symm).map Fix.seen
  refine List.Perm.eq_of_pairwise (fun a b ha hb hab hba => ?_) (hsorted fs) (hsorted fs') hperm
  obtain ⟨a, hmem, rfl⟩ := List.mem_map.mp ha
  obtain ⟨b, hmem', rfl⟩ := List.mem_map.mp hb
  have ha : a ∈ fs := List.mem_mergeSort.mp hmem
  have hb : b ∈ fs := h.mem_iff.mpr (List.mem_mergeSort.mp hmem')
  refine seen_eq_of_rank hg hproper (hfs a ha) (hfs b hb) ?_
  -- neither comes after the other
  have hab : (a.rank b).isLE = true := Fix.before_iff_isLE.mp hab
  have hba : (b.rank a).isLE = true := Fix.before_iff_isLE.mp hba
  exact Std.OrientedCmp.isLE_antisymm hab hba

end

/-! ## Deciding -/

theorem decide_alike [LT σ] [DecidableLT σ] [Ord σ] [Std.TransOrd σ] [Std.LawfulEqOrd σ] {g : Registry} (hg : g.Sound)
    (disabled : String → Bool) (score : Recipe → Issue → σ) (minScore : σ) (limits : Limits)
    {issues issues' : List Issue} (h : issues.Perm issues') (hproper : ∀ i ∈ issues, i.file.Proper) :
    Alike (decide g disabled score minScore limits issues) (decide g disabled score minScore limits issues') := by
  have hpairs : (pairs g disabled score issues).Perm (pairs g disabled score issues') := pairs_perm h
  have hselect : (select limits ((ranking g disabled score minScore issues).map Prod.fst)).seen =
      (select limits ((ranking g disabled score minScore issues').map Prod.fst)).seen := by
    rw [seen_select, seen_select, map_ranking, map_ranking,
      seen_ranked hg hproper (hpairs.filter _) fun f hf => (List.mem_filter.mp hf).1]
  simp only [Progress.seen, Progress.mk.injEq] at hselect
  obtain ⟨hselected, -, hconflicts, hoverBudget⟩ := hselect
  rw [decide_eq, decide_eq]
  exact ⟨forall₂_alike hselected, (h.filter _).length_eq, hpairs.length_eq, (hpairs.filter _).length_eq, hconflicts,
    hoverBudget⟩

/-- **Decide does not depend on the order of the report.** Whatever the registry, the trust, the sizes of the files
and the confidence in the recipes are, the decisions on reports of the same issues in different orders count the
same and select alike pairs in the same order. -/
theorem decide_perm {g : Registry} (hg : g.Sound) (c : Config) {issues issues' : List Issue}
    (h : issues.Perm issues') (hproper : ∀ i ∈ issues, i.file.Proper) :
    (∀ (disabled : String → Bool) (score : Recipe → Issue → Score),
      Alike (decide g disabled score ⟨c.minScore⟩ (limitsOf c) issues)
        (decide g disabled score ⟨c.minScore⟩ (limitsOf c) issues')) ∧
    ∀ (trust : Trust.Table) (scorer : Scorer) (sizes : RelPath → UInt64),
      Alike (byTrust g c trust scorer sizes issues) (byTrust g c trust scorer sizes issues') :=
  ⟨fun disabled score => decide_alike hg disabled score _ _ h hproper,
    fun trust scorer sizes => decide_alike hg (isDisabled trust) (scoreOf g trust scorer sizes) _ _ h hproper⟩

/-- Two findings at one line that differ in their messages, with a third one between them or at the end. -/
theorem decide_perm_twice :
    Registry.usual.Sound ∧
    Alike
      (byTrust Registry.usual {} [] default (fun _ => 0)
        [⟨"W", ⟨["a"]⟩, 3, none, .low, "whitespace", "first", true, none⟩,
          ⟨"V", ⟨["b"]⟩, 1, none, .high, "debug-statement", "", true, none⟩,
          ⟨"W", ⟨["a"]⟩, 3, none, .low, "whitespace", "second", true, none⟩])
      (byTrust Registry.usual {} [] default (fun _ => 0)
        [⟨"W", ⟨["a"]⟩, 3, none, .low, "whitespace", "second", true, none⟩,
          ⟨"W", ⟨["a"]⟩, 3, none, .low, "whitespace", "first", true, none⟩,
          ⟨"V", ⟨["b"]⟩, 1, none, .high, "debug-statement", "", true, none⟩]) := by
  refine ⟨Registry.sound_usual, (decide_perm Registry.sound_usual {} (by decide) ?_).2 [] default fun _ => 0⟩
  intro i hi
  simp only [List.mem_cons, List.not_mem_nil, or_false] at hi
  rcases hi with rfl | rfl | rfl
  all_goals exact RelPath.proper_name (by decide) (by decide)

end Decision
end Mend
