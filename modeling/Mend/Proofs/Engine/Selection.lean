import Mathlib.Data.List.Nodup
import Mathlib.Data.List.Pairwise
import Mathlib.Order.Defs.LinearOrder
import Mend.Proofs.Engine.Budget

/-!
# The selection is greedy

Where scores are in a linear order, `decide` takes the pairs of eligible issues and enabled recipes from the best
on, and passes one over only for what it took before (**`decide_greedy`**): nothing that is taken conflicts or
breaks a limit, and everything sufficient that is not taken conflicts with something taken before it, or would
break a limit together with all that was taken before it.

Equal issues may stand in a report twice, so a pair is followed together with the place of its issue
(`Candidate`). That sorting keeps pairs that are alike in everything that the order looks at in the order of the
report is `pairwise_ranked`. The loop is followed by two invariants: `Progress.Admissible` for what is selected,
which a step keeps whatever the order is, and `Followed` for what was passed over.
-/

namespace Mend

/-! ## Registries -/

/-- A registry that was made by registering recipes: each recipe is under its own name, and no name is taken
twice. -/
structure Registry.Sound (g : Registry) : Prop where
  ascending : Ordered.Ascending g
  own : ∀ e ∈ g, e.1 = e.2.id

namespace Registry

variable {g g' : Registry} {r : Recipe}

theorem sound_nil : Sound [] := ⟨List.Pairwise.nil, by simp⟩

theorem Sound.insert (h : g.Sound) (r : Recipe) : Registry.Sound (Ordered.insert g r.id r) := by
  refine ⟨h.ascending.insert _ _, ?_⟩
  intro e he
  rcases Ordered.mem_insert he with rfl | he
  · rfl
  · exact h.own e he

theorem Sound.register (h : g.Sound) (hr : register g r = .ok g') : g'.Sound := by
  rw [Registry.register] at hr
  split at hr
  · cases hr
  · obtain rfl := Except.ok.inj hr
    exact h.insert r

theorem sound_usual : usual.Sound := by
  have hlist (rs : List Recipe) : ∀ g : Registry, g.Sound → Registry.Sound
      ((rs.map fun r => (r.id, r)).foldl (fun t e => Ordered.insert t e.1 e.2) g) := by
    induction rs with
    | nil => exact fun g h => h
    | cons r rs ih => exact fun g h => ih _ (h.insert r)
  exact hlist _ [] sound_nil

theorem Sound.find?_eq_some_iff (h : g.Sound) {id : String} : find? g id = some r ↔ r ∈ recipes g ∧ r.id = id := by
  rw [find?, Ordered.get?_eq_some_iff h.ascending]
  constructor
  · intro hmem
    exact ⟨List.mem_map_of_mem hmem, (h.own _ hmem).symm⟩
  · rintro ⟨hmem, rfl⟩
    obtain ⟨e, he, rfl⟩ := List.mem_map.mp hmem
    rwa [← h.own e he]

/-- Different recipes have different names. -/
theorem Sound.nodup (h : g.Sound) : ((recipes g).map Recipe.id).Nodup := by
  have hkeys : (recipes g).map Recipe.id = Ordered.keys g := by
    rw [recipes, Ordered.keys, List.map_map]
    exact List.map_congr_left fun e he => (h.own e he).symm
  rw [hkeys]
  exact h.ascending.nodup

end Registry

/-! ## Sorting -/

section

variable {α : Type} {cmp : α → α → Ordering}

theorem bne_gt_iff_isLE {o : Ordering} : (o != .gt) = true ↔ o.isLE = true := by
  cases o <;> simp [Ordering.isLE]

theorem bne_gt_trans [Std.TransCmp cmp] (a b c : α) (hab : (cmp a b != .gt) = true) (hbc : (cmp b c != .gt) = true) :
    (cmp a c != .gt) = true := by
  rw [bne_gt_iff_isLE] at *
  exact Std.TransCmp.isLE_trans hab hbc

theorem bne_gt_total [Std.OrientedCmp cmp] (a b : α) : (cmp a b != .gt || cmp b a != .gt) = true := by
  have hswap : cmp b a = (cmp a b).swap := Std.OrientedCmp.eq_swap
  rw [Bool.or_eq_true, bne_gt_iff_isLE, bne_gt_iff_isLE, hswap]
  cases cmp a b <;> simp [Ordering.isLE]

end

/-! ## The order of selection -/

instance : Std.TransOrd Severity := inferInstanceAs (Std.TransCmp (compareOn Severity.rank))

namespace Fix

variable {σ : Type}

theorem conflicts_comm (a b : Fix σ) : a.conflicts b = b.conflicts a := by
  have hfile : decide (a.issue.file = b.issue.file) = decide (b.issue.file = a.issue.file) :=
    decide_eq_decide.mpr eq_comm
  rw [conflicts, conflicts, BEq.comm (a := a.issue.id), hfile, Span.overlaps_comm]

variable [Ord σ] [Std.TransOrd σ]

instance : Std.TransCmp (rank : Fix σ → Fix σ → Ordering) :=
  inferInstanceAs (Std.TransCmp (compareLex (fun a b : Fix σ => compareOn score b a)
    (compareLex (fun a b : Fix σ => compareOn (fun f => f.issue.severity) b a) (compareLex (compareOn recipe)
      (compareLex (compareOn fun f => f.issue.id) (compareLex (compareOn fun f => f.issue.file)
        (compareOn fun f => f.issue.line)))))))

omit [Std.TransOrd σ] in
theorem recipe_eq_of_rank {a b : Fix σ} (h : a.rank b = .eq) : a.recipe = b.recipe := by
  simp only [rank, Ordering.then_eq_eq] at h
  exact Std.LawfulEqCmp.eq_of_compare h.2.2.1

omit [Std.TransOrd σ] in
theorem before_iff_isLE {a b : Fix σ} : a.before b = true ↔ (a.rank b).isLE = true :=
  bne_gt_iff_isLE

theorem before_trans (a b c : Fix σ) : a.before b = true → b.before c = true → a.before c = true :=
  @bne_gt_trans _ rank _ a b c

theorem before_total (a b : Fix σ) : (a.before b || b.before a) = true :=
  @bne_gt_total _ rank _ a b

end Fix

/-- Sorting keeps elements that are alike in the order that they had. -/
theorem filter_mergeSort {α : Type} {le : α → α → Bool} {p : α → Bool} {xs : List α}
    (htrans : ∀ a b c, le a b = true → le b c = true → le a c = true)
    (htotal : ∀ a b, (le a b || le b a) = true) (h : (xs.filter p).Pairwise fun a b => le a b = true) :
    (xs.mergeSort le).filter p = xs.filter p := by
  have hsub : ((xs.filter p).filter p).Sublist ((xs.mergeSort le).filter p) :=
    (List.sublist_mergeSort htrans htotal h List.filter_sublist).filter p
  rw [List.filter_filter] at hsub
  simp only [Bool.and_self] at hsub
  exact (hsub.eq_of_length ((List.mergeSort_perm xs le).filter p).length_eq.symm).symm

namespace Decision

open Budget

variable {σ : Type}

/-! ## Distinct texts -/

/-- Of texts in their order each is kept once. -/
theorem foldr_distinct {xs : List String} (h : xs.Pairwise (· ≤ ·)) :
    (xs.foldr (fun x rest => if rest.head? = some x then rest else x :: rest) []).Nodup ∧
      ∀ y, y ∈ xs.foldr (fun x rest => if rest.head? = some x then rest else x :: rest) [] ↔ y ∈ xs := by
  suffices hsorted : ∀ xs : List String, xs.Pairwise (· ≤ ·) →
      let kept := xs.foldr (fun x rest => if rest.head? = some x then rest else x :: rest) []
      kept.Pairwise (· < ·) ∧ ∀ y, y ∈ kept ↔ y ∈ xs by
    obtain ⟨hkept, hmem⟩ := hsorted xs h
    refine ⟨hkept.imp ?_, hmem⟩
    rintro a b hlt rfl
    exact String.lt_irrefl a hlt
  intro xs
  induction xs with
  | nil => exact fun _ => ⟨.nil, fun _ => .rfl⟩
  | cons x xs ih =>
    intro hxs
    obtain ⟨hfirst, hrest⟩ := List.pairwise_cons.mp hxs
    obtain ⟨hkept, hmem⟩ := ih hrest
    dsimp only at hkept hmem ⊢
    rw [List.foldr_cons]
    generalize xs.foldr (fun x rest => if rest.head? = some x then rest else x :: rest) [] = kept at hkept hmem
    split
    · next hhead =>
      refine ⟨hkept, fun y => ?_⟩
      rw [hmem, List.mem_cons]
      refine ⟨.inr, fun hy => hy.elim (fun heq => ?_) id⟩
      rw [heq, ← hmem]
      exact List.mem_of_head? hhead
    · next hhead =>
      refine ⟨List.pairwise_cons.mpr ⟨fun y hy => ?_, hkept⟩, fun y => by rw [List.mem_cons, List.mem_cons, hmem]⟩
      have hle : x ≤ y := hfirst y ((hmem y).mp hy)
      rw [← String.not_le]
      intro hge
      -- then the text is the first that was kept
      obtain rfl := String.le_antisymm hle hge
      obtain ⟨z, zs, rfl⟩ := List.exists_cons_of_ne_nil (List.ne_nil_of_mem hy)
      rcases List.mem_cons.mp hy with rfl | hmore
      · exact hhead rfl
      · have hlt : z < x := (List.pairwise_cons.mp hkept).1 x hmore
        exact String.not_le.mpr hlt (hfirst z ((hmem z).mp List.mem_cons_self))

theorem distinct_spec (xs : List String) : (distinct xs).Nodup ∧ ∀ y, y ∈ distinct xs ↔ y ∈ xs := by
  have hsorted : (xs.mergeSort fun a b => Decidable.decide (a ≤ b)).Pairwise (· ≤ ·) := by
    refine (List.pairwise_mergeSort ?_ ?_ xs).imp fun hle => of_decide_eq_true hle
    · intro a b c hab hbc
      exact decide_eq_true (String.le_trans (of_decide_eq_true hab) (of_decide_eq_true hbc))
    · intro a b
      simpa using String.le_total a b
  obtain ⟨hnodup, hmem⟩ := foldr_distinct hsorted
  exact ⟨hnodup, fun y => (hmem y).trans List.mem_mergeSort⟩

/-! ## Candidates -/

section

variable (g : Registry) (disabled : String → Bool) (score : Recipe → Issue → σ) (issues : List Issue)

/-- The pair is one of an eligible issue, at a place of the report, and a recipe that is enabled for it and that
a hint does not rule out. -/
structure Candidate (x : Fix σ × Nat) : Prop where
  place : issues[x.2]? = some x.1.issue
  eligible : x.1.issue.eligible = true
  recipe : ∃ r ∈ Registry.recipes g, r.appliesTo x.1.issue = true ∧ r.id = x.1.recipe ∧
    score r x.1.issue = x.1.score ∧ r.span x.1.issue = x.1.span ∧ r.estimate = x.1.estimate
  enabled : disabled x.1.recipe = false
  hinted : ∀ id, x.1.issue.hint = some id → (∃ r ∈ Registry.recipes g, r.id = id) → x.1.recipe = id

/-- The pairs that are scored, each with the place of its issue. -/
def placed : List (Fix σ × Nat) :=
  (issues.zipIdx.filter fun x => x.1.eligible).flatMap fun x =>
    (candidates g disabled x.1).map fun r => (⟨x.1, r.id, score r x.1, r.span x.1, r.estimate⟩, x.2)

variable {g disabled score issues}

theorem map_placed : (placed g disabled score issues).map Prod.fst = pairs g disabled score issues := by
  have hfilter : issues.filter Issue.eligible = (issues.zipIdx.filter fun x => x.1.eligible).map Prod.fst := by
    conv_lhs => rw [← List.zipIdx_map_fst 0 issues, List.filter_map]
    rfl
  rw [pairs, placed, hfilter, List.flatMap_map, List.map_flatMap]
  simp only [List.map_map]
  rfl

theorem mem_pairs {f : Fix σ} (h : f ∈ pairs g disabled score issues) :
    f.issue ∈ issues ∧ f.issue.eligible = true := by
  obtain ⟨i, hi, hpair⟩ := List.mem_flatMap.mp h
  obtain ⟨r, -, rfl⟩ := List.mem_map.mp hpair
  exact List.mem_filter.mp hi

theorem mem_candidates (hg : g.Sound) {i : Issue} {r : Recipe} :
    r ∈ candidates g disabled i ↔ r ∈ Registry.recipes g ∧ r.appliesTo i = true ∧ disabled r.id = false ∧
      ∀ id, i.hint = some id → (∃ r ∈ Registry.recipes g, r.id = id) → r.id = id := by
  have hfind (id : String) : g.find? id = none ↔ ¬ ∃ r ∈ Registry.recipes g, r.id = id := by
    rw [Option.eq_none_iff_forall_ne_some]
    simp [hg.find?_eq_some_iff]
  rw [candidates]
  cases hhint : i.hint with
  | none => simp
  | some id =>
    cases hfound : g.find? id with
    | none =>
      have hnone := (hfind id).mp hfound
      simp only [Option.bind_some, hfound, List.mem_filter, Option.some.injEq]
      simp_all
    | some q =>
      obtain ⟨hq, rfl⟩ := hg.find?_eq_some_iff.mp hfound
      simp only [Option.bind_some, hfound, List.mem_filter, List.mem_singleton, Option.some.injEq, Bool.and_eq_true,
        Bool.not_eq_true']
      constructor
      · rintro ⟨rfl, happlies, henabled⟩
        exact ⟨hq, happlies, henabled, fun id hid _ => hid⟩
      · rintro ⟨hr, happlies, henabled, hhinted⟩
        have hsame : Registry.find? g q.id = some r := hg.find?_eq_some_iff.mpr ⟨hr, hhinted _ rfl ⟨q, hq, rfl⟩⟩
        exact ⟨Option.some.inj (hsame.symm.trans hfound), happlies, henabled⟩

theorem mem_placed (hg : g.Sound) {x : Fix σ × Nat} :
    x ∈ placed g disabled score issues ↔ Candidate g disabled score issues x := by
  obtain ⟨f, n⟩ := x
  rw [placed, List.mem_flatMap]
  constructor
  · rintro ⟨⟨i, m⟩, hi, hx⟩
    obtain ⟨r, hr, heq⟩ := List.mem_map.mp hx
    obtain ⟨rfl, rfl⟩ := Prod.mk.inj heq
    obtain ⟨hplace, heligible⟩ := List.mem_filter.mp hi
    obtain ⟨hmem, happlies, henabled, hhinted⟩ := (mem_candidates hg).mp hr
    exact ⟨List.mem_zipIdx_iff_getElem?.mp hplace, heligible, ⟨r, hmem, happlies, rfl, rfl, rfl, rfl⟩, henabled, hhinted⟩
  · rintro ⟨hplace, heligible, ⟨r, hmem, happlies, hid, hscore, hspan, hestimate⟩, henabled, hhinted⟩
    refine ⟨(f.issue, n), List.mem_filter.mpr ⟨List.mem_zipIdx_iff_getElem?.mpr hplace, heligible⟩, ?_⟩
    refine List.mem_map.mpr ⟨r, (mem_candidates hg).mpr ⟨hmem, happlies, hid ▸ henabled, hid ▸ hhinted⟩, ?_⟩
    dsimp only at *
    rw [hid, hscore, hspan, hestimate]

theorem nodup_candidates (hg : g.Sound) (i : Issue) : ((candidates g disabled i).map Recipe.id).Nodup := by
  have hfilter (p : Recipe → Bool) (rs : List Recipe) (h : (rs.map Recipe.id).Nodup) :
      ((rs.filter p).map Recipe.id).Nodup := (List.filter_sublist.map _).nodup h
  rw [candidates]
  dsimp only
  split
  · exact hfilter _ _ (by simp)
  · exact hfilter _ _ hg.nodup

/-- The pairs are in the order of the report, and those of one issue are of different recipes. -/
theorem pairwise_placed (hg : g.Sound) :
    (placed g disabled score issues).Pairwise fun x y => x.2 < y.2 ∨ x.1.recipe ≠ y.1.recipe := by
  have hzip : issues.zipIdx.Pairwise fun x y => x.2 < y.2 := by
    have hrange := List.pairwise_lt_range' (s := 0) (n := issues.length)
    rw [← List.zipIdx_map_snd, List.pairwise_map] at hrange
    exact hrange
  rw [placed, List.pairwise_flatMap]
  constructor
  · intro x _
    rw [List.pairwise_map]
    have hne : (candidates g disabled x.1).Pairwise fun r q => r.id ≠ q.id :=
      List.pairwise_map.mp (nodup_candidates hg x.1)
    exact hne.imp fun hid => .inr hid
  · refine (hzip.filter _).imp fun {x y} hxy a ha b hb => .inl ?_
    obtain ⟨r, -, rfl⟩ := List.mem_map.mp ha
    obtain ⟨q, -, rfl⟩ := List.mem_map.mp hb
    exact hxy

end

/-! ## Ranking -/

/-- Comes first in the order of selection; of pairs that are alike in it, the one whose issue the report has
first. -/
def Precedes [Ord σ] (x y : Fix σ × Nat) : Prop :=
  x.1.rank y.1 = .lt ∨ x.1.rank y.1 = .eq ∧ x.2 < y.2

theorem pairwise_ranked [Ord σ] [Std.TransOrd σ] {xs : List (Fix σ × Nat)}
    (h : xs.Pairwise fun x y => x.2 < y.2 ∨ x.1.recipe ≠ y.1.recipe) :
    (xs.mergeSort fun x y => x.1.before y.1).Pairwise Precedes := by
  have htrans (a b c : Fix σ × Nat) : a.1.before b.1 = true → b.1.before c.1 = true → a.1.before c.1 = true :=
    Fix.before_trans a.1 b.1 c.1
  have htotal (a b : Fix σ × Nat) : (a.1.before b.1 || b.1.before a.1) = true := Fix.before_total a.1 b.1
  rw [List.pairwise_iff_forall_sublist]
  intro a b hab
  have hle : (a.1.rank b.1).isLE = true :=
    Fix.before_iff_isLE.mp (List.pairwise_iff_forall_sublist.mp (List.pairwise_mergeSort htrans htotal xs) hab)
  cases hrank : a.1.rank b.1 with
  | lt => exact .inl hrank
  | gt => simp [hrank] at hle
  | eq =>
    -- among the pairs that are alike, those two are still as they were
    let alike (x : Fix σ × Nat) : Bool := x.1.rank a.1 == .eq
    have halike : (xs.filter alike).Pairwise fun x y => x.1.before y.1 = true := by
      refine List.pairwise_of_forall_mem_list fun x hx y hy => Fix.before_iff_isLE.mpr ?_
      have hx := eq_of_beq (List.mem_filter.mp hx).2
      have hy := eq_of_beq (List.mem_filter.mp hy).2
      have hxy : x.1.rank y.1 = .eq := Std.TransCmp.eq_trans hx (Std.OrientedCmp.eq_symm hy)
      simp [hxy]
    have hkept : [a, b].Sublist xs := by
      have hsub := hab.filter alike
      rw [filter_mergeSort htrans htotal halike] at hsub
      have ha : alike a = true := by simp [alike, Std.ReflCmp.compare_self]
      have hb : alike b = true := by simp [alike, Std.OrientedCmp.eq_symm hrank]
      rw [List.filter_cons_of_pos ha, List.filter_cons_of_pos hb, List.filter_nil] at hsub
      exact hsub.trans List.filter_sublist
    rcases List.pairwise_iff_forall_sublist.mp h hkept with hlt | hne
    · exact .inr ⟨hrank, hlt⟩
    · exact absurd (Fix.recipe_eq_of_rank hrank) hne

/-! ## The loop -/

/-- The pair may not be selected beside those: it conflicts with one of them, or with it they would break a
limit. -/
def Refused (limits : Limits) (fs : List (Fix σ)) (f : Fix σ) : Prop :=
  (∃ s ∈ fs, s.conflicts f = true) ∨ ¬ Within limits (fs ++ [f])

namespace Progress

variable {limits : Limits} {p : Progress σ} {f : Fix σ} {seen chosen : List (Fix σ × Nat)}

/-- A step passes over a pair that conflicts or that the guard refuses, and selects any other. -/
theorem step_cases (p : Progress σ) (f : Fix σ) :
    ((∃ s ∈ p.selected, s.conflicts f = true) ∧ p.step f = { p with conflicts := p.conflicts + 1 }) ∨
    (∃ r, p.guard.accept f.issue.file f.estimate = .error r ∧ p.step f = { p with overBudget := p.overBudget + 1 }) ∨
    ((∀ s ∈ p.selected, s.conflicts f = false) ∧ ∃ guard, p.guard.accept f.issue.file f.estimate = .ok guard ∧
      p.step f = { p with selected := p.selected ++ [f], guard := guard }) := by
  rw [step]
  split
  · next h => exact .inl ⟨List.any_eq_true.mp h, rfl⟩
  · next h =>
    have hapart : ∀ s ∈ p.selected, s.conflicts f = false := by simpa using h
    cases haccept : p.guard.accept f.issue.file f.estimate with
    | error r => exact .inr (.inl ⟨r, rfl, rfl⟩)
    | ok guard => exact .inr (.inr ⟨hapart, guard, rfl, rfl⟩)

/-- The guard has admitted what is selected, and nothing of it conflicts. -/
structure Admissible (p : Progress σ) (limits : Limits) : Prop where
  admits : p.guard.Admits limits p.selected
  apart : p.selected.Pairwise fun a b => a.conflicts b = false

theorem Admissible.step (h : p.Admissible limits) (hproper : f.issue.file.Proper) : (p.step f).Admissible limits := by
  rcases p.step_cases f with ⟨-, hstep⟩ | ⟨r, -, hstep⟩ | ⟨hapart, guard, haccept, hstep⟩
  · rw [hstep]
    exact ⟨h.admits, h.apart⟩
  · rw [hstep]
    exact ⟨h.admits, h.apart⟩
  · rw [hstep]
    refine ⟨h.admits.accept hproper haccept, List.pairwise_append.mpr ⟨h.apart, by simp, ?_⟩⟩
    intro s hs k hk
    rw [List.mem_singleton.mp hk]
    exact hapart s hs

theorem admissible_select {ranked : List (Fix σ)} (hproper : ∀ f ∈ ranked, f.issue.file.Proper) :
    (select limits ranked).Admissible limits := by
  have hrun (p : Progress σ) (h : p.Admissible limits) : (ranked.foldl Progress.step p).Admissible limits := by
    induction ranked generalizing p with
    | nil => exact h
    | cons f ranked ih =>
      exact ih (fun k hk => hproper k (List.mem_cons_of_mem _ hk)) _ (h.step (hproper f List.mem_cons_self))
  exact hrun _ ⟨Guard.admits_start limits, List.Pairwise.nil⟩

/-- Nothing else is selected than what was looked at. -/
theorem mem_of_mem_select {ranked : List (Fix σ)} (h : f ∈ (select limits ranked).selected) : f ∈ ranked := by
  have hrun (p : Progress σ) : f ∈ (ranked.foldl Progress.step p).selected → f ∈ p.selected ∨ f ∈ ranked := by
    clear h
    induction ranked generalizing p with
    | nil => exact .inl
    | cons k ranked ih =>
      intro hf
      rcases ih (p.step k) hf with hf | hf
      · rcases p.step_cases k with ⟨-, hstep⟩ | ⟨r, -, hstep⟩ | ⟨-, guard, -, hstep⟩
        · exact .inl (by simpa only [hstep] using hf)
        · exact .inl (by simpa only [hstep] using hf)
        · rw [hstep, List.mem_append, List.mem_singleton] at hf
          rcases hf with hf | rfl
          · exact .inl hf
          · exact .inr List.mem_cons_self
      · exact .inr (List.mem_cons_of_mem _ hf)
  exact (hrun _ h).resolve_left (by simp)

/-- Of the pairs that were looked at, some were selected. Each of the others was passed over for what was selected
before it. -/
structure Followed (limits : Limits) (seen chosen : List (Fix σ × Nat)) (p : Progress σ) : Prop where
  selected : p.selected = chosen.map Prod.fst
  sublist : chosen.Sublist seen
  counted : seen.length = p.conflicts + p.overBudget + chosen.length
  passed : ∀ x ∈ seen, x ∉ chosen → ∃ before after earlier later, seen = before ++ x :: after ∧
    chosen = earlier ++ later ∧ earlier ⊆ before ∧ later ⊆ after ∧ Refused limits (earlier.map Prod.fst) x.1

/-- A pair that is passed over changes nothing but what is counted. -/
theorem Followed.pass (h : Followed limits seen chosen p) {x : Fix σ × Nat} (hx : Refused limits p.selected x.1)
    {p' : Progress σ} (hselected : p'.selected = p.selected)
    (hcounted : p'.conflicts + p'.overBudget = p.conflicts + p.overBudget + 1) :
    Followed limits (seen ++ [x]) chosen p' := by
  refine ⟨hselected.trans h.selected, h.sublist.trans (List.sublist_append_left _ _), ?_, ?_⟩
  · rw [List.length_append, h.counted, hcounted, List.length_singleton]
    omega
  · intro y hy hnot
    rcases List.mem_append.mp hy with hy | hy
    · obtain ⟨before, after, earlier, later, rfl, rfl, hearlier, hlater, hrefused⟩ := h.passed y hy hnot
      exact ⟨before, after ++ [x], earlier, later, by simp, rfl, hearlier,
        List.Subset.trans hlater (List.subset_append_left _ _), hrefused⟩
    · rw [List.mem_singleton.mp hy]
      exact ⟨seen, [], chosen, [], rfl, by simp, h.sublist.subset, by simp, h.selected ▸ hx⟩

/-- A pair that is selected comes last, so that nothing before it is refused for it. -/
theorem Followed.take (h : Followed limits seen chosen p) (x : Fix σ × Nat) (guard : Guard) :
    Followed limits (seen ++ [x]) (chosen ++ [x]) { p with selected := p.selected ++ [x.1], guard := guard } := by
  refine ⟨by simp [h.selected], h.sublist.append_right [x], by simp [h.counted, Nat.add_assoc], ?_⟩
  intro y hy hnot
  have hold : y ∈ seen := by
    rcases List.mem_append.mp hy with hy | hy
    · exact hy
    · exact absurd (List.mem_append_right _ hy) hnot
  obtain ⟨before, after, earlier, later, rfl, rfl, hearlier, hlater, hrefused⟩ :=
    h.passed y hold fun hmem => hnot (List.mem_append_left _ hmem)
  refine ⟨before, after ++ [x], earlier, later ++ [x], by simp, by simp, hearlier, ?_, hrefused⟩
  exact List.append_subset.mpr ⟨List.Subset.trans hlater (List.subset_append_left _ _), List.subset_append_right _ _⟩

theorem Followed.step (h : Followed limits seen chosen p) (hp : p.Admissible limits)
    (hlimit : limits.maxLines < Count.max) (x : Fix σ × Nat) (hproper : x.1.issue.file.Proper) :
    ∃ chosen', Followed limits (seen ++ [x]) chosen' (p.step x.1) := by
  rcases p.step_cases x.1 with ⟨hconflict, hstep⟩ | ⟨r, herror, hstep⟩ | ⟨-, guard, -, hstep⟩
  · rw [hstep]
    exact ⟨chosen, h.pass (.inl hconflict) rfl (by dsimp only; omega)⟩
  · rw [hstep]
    exact ⟨chosen, h.pass (.inr (hp.admits.not_within_of_error hlimit hproper herror)) rfl (by dsimp only; omega)⟩
  · rw [hstep]
    exact ⟨_, h.take x guard⟩

theorem followed_select (hlimit : limits.maxLines < Count.max) {ranked : List (Fix σ × Nat)}
    (hproper : ∀ x ∈ ranked, x.1.issue.file.Proper) :
    ∃ chosen, Followed limits ranked chosen (select limits (ranked.map Prod.fst)) := by
  induction ranked using List.reverseRecOn with
  | nil => exact ⟨[], rfl, .slnil, rfl, by simp⟩
  | append_singleton ranked x ih =>
    have hbefore : ∀ y ∈ ranked, y.1.issue.file.Proper := fun y hy => hproper y (List.mem_append_left _ hy)
    obtain ⟨chosen, h⟩ := ih hbefore
    have hadmissible : (select limits (ranked.map Prod.fst)).Admissible limits := by
      refine admissible_select fun f hf => ?_
      obtain ⟨y, hy, rfl⟩ := List.mem_map.mp hf
      exact hbefore y hy
    rw [List.map_append, select, List.foldl_append]
    exact h.step hadmissible hlimit x (hproper x (by simp))

end Progress

/-! ## The decision -/

/-- The decision takes candidates with a sufficient score from the best on, and leaves none out but for what comes
before it. -/
structure Greedy [Ord σ] (g : Registry) (disabled : String → Bool) (score : Recipe → Issue → σ)
    (Sufficient : σ → Prop) (limits : Limits) (issues : List Issue) (d : Decision σ) (chosen : List (Fix σ × Nat)) :
    Prop where
  selected : d.selected = chosen.map Prod.fst
  candidate : ∀ x ∈ chosen, Candidate g disabled score issues x
  sufficient : ∀ x ∈ chosen, Sufficient x.1.score
  ranked : chosen.Pairwise Precedes
  apart : ∀ x ∈ chosen, ∀ y ∈ chosen, x ≠ y → x.1.conflicts y.1 = false
  within : Within limits d.selected
  maximal : ∀ x, Candidate g disabled score issues x → Sufficient x.1.score → x ∉ chosen →
    ∃ earlier later, chosen = earlier ++ later ∧ (∀ y ∈ earlier, Precedes y x) ∧ (∀ y ∈ later, Precedes x y) ∧
      Refused limits (earlier.map Prod.fst) x.1
  counted : d.considered = d.belowThreshold + d.conflicts + d.overBudget + d.selected.length

section

variable [LT σ] [DecidableLT σ] [Ord σ]

/-- The pairs with a sufficient score in the order of selection, with the places of their issues. -/
def ranking (g : Registry) (disabled : String → Bool) (score : Recipe → Issue → σ) (minScore : σ)
    (issues : List Issue) : List (Fix σ × Nat) :=
  ((placed g disabled score issues).filter fun x => !(Decidable.decide (x.1.score < minScore))).mergeSort
    fun x y => x.1.before y.1

variable {g : Registry} {disabled : String → Bool} {score : Recipe → Issue → σ} {minScore : σ} {limits : Limits}
  {issues : List Issue}

theorem map_ranking : (ranking g disabled score minScore issues).map Prod.fst =
    ((pairs g disabled score issues).filter fun f => !(Decidable.decide (f.score < minScore))).mergeSort Fix.before := by
  rw [ranking, List.map_mergeSort (s := Fix.before) fun _ _ _ _ => rfl, ← map_placed, List.filter_map]
  rfl

theorem mem_ranking (hg : g.Sound) {x : Fix σ × Nat} : x ∈ ranking g disabled score minScore issues ↔
    Candidate g disabled score issues x ∧ ¬ x.1.score < minScore := by
  simp [ranking, mem_placed hg]

theorem decide_eq : decide g disabled score minScore limits issues =
    ⟨(select limits ((ranking g disabled score minScore issues).map Prod.fst)).selected,
      (issues.filter Issue.eligible).length, (pairs g disabled score issues).length,
      ((pairs g disabled score issues).filter fun f => Decidable.decide (f.score < minScore)).length,
      (select limits ((ranking g disabled score minScore issues).map Prod.fst)).conflicts,
      (select limits ((ranking g disabled score minScore issues).map Prod.fst)).overBudget⟩ := by
  rw [map_ranking, decide]
  simp only [List.partition_eq_filter_filter]
  rfl

theorem mem_pairs_of_mem_ranking {f : Fix σ} (h : f ∈ (ranking g disabled score minScore issues).map Prod.fst) :
    f ∈ pairs g disabled score issues := by
  rw [map_ranking, List.mem_mergeSort] at h
  exact (List.mem_filter.mp h).1

/-- What is selected repairs an eligible issue of the report. -/
theorem mem_selected {f : Fix σ} (h : f ∈ (decide g disabled score minScore limits issues).selected) :
    f.issue ∈ issues ∧ f.issue.eligible = true := by
  rw [decide_eq] at h
  exact mem_pairs (mem_pairs_of_mem_ranking (Progress.mem_of_mem_select h))

/-- What is selected is admissible, whatever the registry and the scores are. -/
theorem admissible_decide (hproper : ∀ i ∈ issues, i.file.Proper) :
    (select limits ((ranking g disabled score minScore issues).map Prod.fst)).Admissible limits :=
  Progress.admissible_select fun _ hf => hproper _ (mem_pairs (mem_pairs_of_mem_ranking hf)).1

/-- The selection is greedy in any order of scores, also where a score that is not below the threshold need not be
above it in that order. -/
theorem exists_greedy [Std.TransOrd σ] (hg : g.Sound) (hlimit : limits.maxLines < Count.max)
    (hproper : ∀ i ∈ issues, i.file.Proper) :
    ∃ chosen, Greedy g disabled score (fun s => ¬ s < minScore) limits issues
      (decide g disabled score minScore limits issues) chosen := by
  have hranked : (ranking g disabled score minScore issues).Pairwise Precedes :=
    pairwise_ranked ((pairwise_placed hg).filter _)
  have hadmissible : (select limits ((ranking g disabled score minScore issues).map Prod.fst)).Admissible limits :=
    admissible_decide hproper
  have hfiles : ∀ x ∈ ranking g disabled score minScore issues, x.1.issue.file.Proper := fun x hx =>
    hproper _ (List.mem_of_getElem? ((mem_ranking hg).mp hx).1.place)
  obtain ⟨chosen, h⟩ := Progress.followed_select hlimit hfiles
  have hlength : (pairs g disabled score issues).length =
      ((pairs g disabled score issues).filter fun f => Decidable.decide (f.score < minScore)).length +
        (ranking g disabled score minScore issues).length := by
    rw [List.length_eq_length_filter_add fun f => Decidable.decide (f.score < minScore), ← List.length_map Prod.fst,
      map_ranking, List.length_mergeSort]
  rw [decide_eq]
  refine ⟨chosen, h.selected, ?_, ?_, hranked.sublist h.sublist, ?_, hadmissible.admits.within hlimit, ?_, ?_⟩
  · exact fun x hx => ((mem_ranking hg).mp (h.sublist.subset hx)).1
  · exact fun x hx => ((mem_ranking hg).mp (h.sublist.subset hx)).2
  · have hapart : chosen.Pairwise fun x y => x.1.conflicts y.1 = false := by
      have hselected := hadmissible.apart
      rwa [h.selected, List.pairwise_map] at hselected
    have : Std.Symm fun x y : Fix σ × Nat => x.1.conflicts y.1 = false :=
      ⟨fun x y hxy => (Fix.conflicts_comm y.1 x.1).trans hxy⟩
    exact fun x hx y hy hne => hapart.forall hx hy hne
  · intro x hx hscore hnot
    obtain ⟨before, after, earlier, later, hsplit, rfl, hearlier, hlater, hrefused⟩ :=
      h.passed x ((mem_ranking hg).mpr ⟨hx, hscore⟩) hnot
    rw [hsplit, List.pairwise_append, List.pairwise_cons] at hranked
    obtain ⟨-, ⟨hfirst, -⟩, hcross⟩ := hranked
    exact ⟨earlier, later, rfl, fun y hy => hcross y (hearlier hy) x List.mem_cons_self,
      fun y hy => hfirst y (hlater hy), hrefused⟩
  · have hcounted := h.counted
    rw [h.selected, List.length_map]
    dsimp only
    omega

end

/-- **The selection is greedy.** Where the limit of lines is below the largest count, the decision takes, in the
order of selection, exactly the sufficient candidates that neither conflict with one taken before nor break a limit
with those taken before. Each pair that was scored is counted once. -/
theorem decide_greedy [LinearOrder σ] {g : Registry} (hg : g.Sound) (disabled : String → Bool)
    (score : Recipe → Issue → σ) (minScore : σ) {limits : Limits} (hlimit : limits.maxLines < Count.max)
    {issues : List Issue} (hproper : ∀ i ∈ issues, i.file.Proper) :
    ∃ chosen, Greedy g disabled score (fun s => minScore ≤ s) limits issues
      (decide g disabled score minScore limits issues) chosen := by
  have hsufficient : (fun s => minScore ≤ s) = fun s => ¬ s < minScore := funext fun s => propext not_lt.symm
  rw [hsufficient]
  exact exists_greedy hg hlimit hproper

/-- Two blanks on one line and one on another, with a budget of one file. -/
theorem decide_greedy_usual :
    Registry.usual.Sound ∧ (⟨1, 2⟩ : Limits).maxLines < Count.max ∧
    ∃ chosen, Greedy Registry.usual (fun _ => false) (fun _ i => i.line.toNat) (fun s => 1 ≤ s) ⟨1, 2⟩
      [⟨"W1", ⟨["a"]⟩, 3, none, .low, "whitespace", "", true, none⟩,
        ⟨"W2", ⟨["a"]⟩, 3, none, .low, "whitespace", "", true, none⟩,
        ⟨"W3", ⟨["b"]⟩, 2, none, .high, "whitespace", "", true, some "trailing-whitespace"⟩]
      (decide Registry.usual (fun _ => false) (fun _ i => i.line.toNat) 1 ⟨1, 2⟩
        [⟨"W1", ⟨["a"]⟩, 3, none, .low, "whitespace", "", true, none⟩,
          ⟨"W2", ⟨["a"]⟩, 3, none, .low, "whitespace", "", true, none⟩,
          ⟨"W3", ⟨["b"]⟩, 2, none, .high, "whitespace", "", true, some "trailing-whitespace"⟩]) chosen := by
  refine ⟨Registry.sound_usual, by decide, decide_greedy Registry.sound_usual _ _ _ (by decide) ?_⟩
  intro i hi
  simp only [List.mem_cons, List.not_mem_nil, or_false] at hi
  rcases hi with rfl | rfl | rfl
  all_goals exact RelPath.proper_name (by decide) (by decide)

/-! ## Scoring by trust -/

instance : Std.TransOrd Score := inferInstanceAs (Std.TransCmp (compareOn fun s : Score => Score.key s.value))

/-- What is done by trust is greedy in the order of the scores that come of it. -/
theorem byTrust_greedy {g : Registry} (hg : g.Sound) {c : Config} (hlimit : c.maxLines < Count.max)
    (trust : Trust.Table) (scorer : Scorer) (sizes : RelPath → UInt64) {issues : List Issue}
    (hproper : ∀ i ∈ issues, i.file.Proper) :
    ∃ chosen, Greedy g (isDisabled trust) (scoreOf g trust scorer sizes) (fun s => ¬ s < ⟨c.minScore⟩) (limitsOf c)
      issues (byTrust g c trust scorer sizes issues) chosen :=
  exists_greedy hg hlimit hproper

end Decision
end Mend
