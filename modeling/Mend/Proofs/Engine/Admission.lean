import Mathlib.Data.List.Nodup
import Mend.Proofs.Engine.Selection

/-!
# What a budget keeps

`withinBudget` takes repairs in their order. Those that it keeps break no limit, and one that it drops would have
broken a limit together with those that were kept before it. Taken through the same budget again, what was kept is
kept, and so is all that a decision selected within these limits (**`withinBudget_keeps`**).

The largest count is no limit of lines: a sum that was cut off passes as the largest count, and the account of the
file goes on with what is left of the sum (`past_largest_count`). Then only the number of files is limited.
-/

namespace Mend

namespace Budget

variable {σ : Type} {limits : Limits} {fs : List (Fix σ)} {f : Fix σ}

namespace Guard

variable {g : Guard}

theorem count_le_max (n : Count) : n ≤ Count.max := by
  have hn : n.toNat < UInt32.size := n.toNat_lt
  rw [UInt32.le_iff_toNat_le, show Count.max.toNat = UInt32.size - 1 from rfl]
  omega

/-- With the largest count as the limit of lines, a repair is refused only for its file. -/
theorem Admits.files_of_error (h : g.Admits limits fs) (hlimit : limits.maxLines = Count.max)
    (hproper : f.issue.file.Proper) {r : Refusal} (herror : g.accept f.issue.file f.estimate = .error r) :
    limits.maxFiles < (files (fs ++ [f])).card := by
  have hrefused := accept_eq_error herror
  rw [ne_eq, refusal?_eq_none_iff, h.limits_eq, h.filesUsed, h.known _ hproper, hlimit] at hrefused
  have hnew : f.issue.file ∉ files fs ∧ limits.maxFiles ≤ (files fs).card := by
    by_contra hnot
    refine hrefused ⟨?_, count_le_max _⟩
    by_cases hknown : f.issue.file ∈ files fs
    · exact .inl hknown
    · exact .inr (Nat.lt_of_not_le fun hle => hnot ⟨hknown, hle⟩)
  rw [files_append, Finset.card_insert_of_notMem hnew.1]
  omega

/-- A repair is refused only if it would break a limit, whatever the limits are. -/
theorem Admits.not_within (h : g.Admits limits fs) (hproper : f.issue.file.Proper) {r : Refusal}
    (herror : g.accept f.issue.file f.estimate = .error r) : ¬ Within limits (fs ++ [f]) := by
  by_cases hlimit : limits.maxLines < Count.max
  · exact h.not_within_of_error hlimit hproper herror
  · intro hwithin
    have hlargest : limits.maxLines = Count.max := UInt32.le_antisymm (count_le_max _) (UInt32.not_lt.mp hlimit)
    have hfiles := h.files_of_error hlargest hproper herror
    have hfew := hwithin.files
    omega

end Guard
end Budget

namespace Decision

open Budget

variable {σ : Type} {limits : Limits} {fs ranked : List (Fix σ)}

/-! ## One repair after the other -/

/-- Keeps one repair more if the guard accepts it. -/
def admitNext (kept : List (Fix σ) × Guard) (f : Fix σ) : List (Fix σ) × Guard :=
  match kept.2.accept f.issue.file f.estimate with
  | .error _ => kept
  | .ok guard => (kept.1 ++ [f], guard)

/-- What is kept of some repairs, and the guard that keeps account of it. -/
def admitted (limits : Limits) (fs : List (Fix σ)) : List (Fix σ) × Guard := fs.foldl admitNext ([], .start limits)

theorem withinBudget_eq (limits : Limits) (fs : List (Fix σ)) : withinBudget limits fs = (admitted limits fs).1 := rfl

theorem admitted_append (limits : Limits) (fs : List (Fix σ)) (f : Fix σ) :
    admitted limits (fs ++ [f]) = admitNext (admitted limits fs) f := by
  rw [admitted, List.foldl_append]
  rfl

/-- A repair is dropped, and then nothing changes, or it is kept as the last one. -/
theorem admitNext_cases (kept : List (Fix σ) × Guard) (f : Fix σ) :
    (∃ r, kept.2.accept f.issue.file f.estimate = .error r ∧ admitNext kept f = kept) ∨
      ∃ guard, kept.2.accept f.issue.file f.estimate = .ok guard ∧ admitNext kept f = (kept.1 ++ [f], guard) := by
  unfold admitNext
  cases h : kept.2.accept f.issue.file f.estimate with
  | error r => exact .inl ⟨r, rfl, rfl⟩
  | ok guard => exact .inr ⟨guard, rfl, rfl⟩

theorem admits_admitted (limits : Limits) (hproper : ∀ f ∈ fs, f.issue.file.Proper) :
    (admitted limits fs).2.Admits limits (admitted limits fs).1 := by
  induction fs using List.reverseRecOn with
  | nil => exact Guard.admits_start limits
  | append_singleton fs f ih =>
    have h := ih fun k hk => hproper k (List.mem_append_left _ hk)
    rw [admitted_append]
    rcases admitNext_cases (admitted limits fs) f with ⟨r, -, hstep⟩ | ⟨guard, hok, hstep⟩
    · rwa [hstep]
    · rw [hstep]
      exact h.accept (hproper f (by simp)) hok

/-! ## What is kept, and what is dropped -/

/-- What a budget keeps of repairs, each with its place among them. Those that were kept before a repair are those at
lower places. -/
structure Admission (limits : Limits) (fs : List (Fix σ)) (kept : List (Fix σ × Nat)) : Prop where
  sublist : kept.Sublist fs.zipIdx
  files : (files (kept.map Prod.fst)).card ≤ limits.maxFiles
  lines : limits.maxLines < Count.max → ∀ file, lines (kept.map Prod.fst) file ≤ limits.maxLines.toNat
  dropped : ∀ x ∈ fs.zipIdx, x ∉ kept → ¬ Within limits ((kept.filter fun y => y.2 < x.2).map Prod.fst ++ [x.1])
  only_files : limits.maxLines = Count.max → ∀ x ∈ fs.zipIdx, x ∉ kept →
    limits.maxFiles < (Budget.files ((kept.filter fun y => y.2 < x.2).map Prod.fst ++ [x.1])).card

/-- What is said of every repair that is dropped follows from the refusals: the guard has admitted what was kept before
the repair. -/
theorem exists_admission (limits : Limits) (hproper : ∀ f ∈ fs, f.issue.file.Proper) :
    ∃ kept, (admitted limits fs).1 = kept.map Prod.fst ∧ Admission limits fs kept := by
  -- the places of what is kept are the only thing that the guard does not know
  suffices h : ∃ kept : List (Fix σ × Nat), (admitted limits fs).1 = kept.map Prod.fst ∧ kept.Sublist fs.zipIdx ∧
      ∀ x ∈ fs.zipIdx, x ∉ kept → ∃ g : Guard, ∃ r,
        g.Admits limits ((kept.filter fun y => y.2 < x.2).map Prod.fst) ∧ x.1.issue.file.Proper ∧
          g.accept x.1.issue.file x.1.estimate = .error r by
    obtain ⟨kept, heq, hsub, hrefused⟩ := h
    have hadmits := admits_admitted limits hproper
    rw [heq] at hadmits
    refine ⟨kept, heq, hsub, hadmits.files_le, hadmits.lines_le, fun x hx hnot => ?_, fun hlimit x hx hnot => ?_⟩
    · obtain ⟨g, r, hg, hfile, herror⟩ := hrefused x hx hnot
      exact hg.not_within hfile herror
    · obtain ⟨g, r, hg, hfile, herror⟩ := hrefused x hx hnot
      exact hg.files_of_error hlimit hfile herror
  induction fs using List.reverseRecOn with
  | nil => exact ⟨[], rfl, .slnil, by simp⟩
  | append_singleton fs f ih =>
    have hbefore : ∀ k ∈ fs, k.issue.file.Proper := fun k hk => hproper k (List.mem_append_left _ hk)
    obtain ⟨kept, heq, hsub, hrefused⟩ := ih hbefore
    have hplaces : ∀ x ∈ fs.zipIdx, x.2 < fs.length := fun x hx => List.snd_lt_of_mem_zipIdx hx
    have hzip : (fs ++ [f]).zipIdx = fs.zipIdx ++ [(f, fs.length)] := by simp [List.zipIdx_append]
    rw [admitted_append, hzip]
    rcases admitNext_cases (admitted limits fs) f with ⟨r, herror, hstep⟩ | ⟨guard, -, hstep⟩
    · refine ⟨kept, by rw [hstep, heq], hsub.trans (List.sublist_append_left _ _), fun x hx hnot => ?_⟩
      rcases List.mem_append.mp hx with hx | hx
      · exact hrefused x hx hnot
      · obtain rfl := List.mem_singleton.mp hx
        have hall : (kept.filter fun y => y.2 < fs.length) = kept := by
          rw [List.filter_eq_self]
          exact fun y hy => decide_eq_true (hplaces y (hsub.subset hy))
        have hadmits := admits_admitted limits hbefore
        rw [heq] at hadmits
        exact ⟨(admitted limits fs).2, r, by rwa [hall], hproper f (by simp), herror⟩
    · refine ⟨kept ++ [(f, fs.length)], by simp [hstep, heq], hsub.append_right _, fun x hx hnot => ?_⟩
      -- what was dropped stands at a lower place than the repair that is kept now
      have hold : x ∈ fs.zipIdx := by
        rcases List.mem_append.mp hx with hx | hx
        · exact hx
        · exact absurd (List.mem_append_right _ hx) hnot
      have hlater : ¬ fs.length < x.2 := Nat.not_lt.mpr (Nat.le_of_lt (hplaces x hold))
      have hsame : ((kept ++ [(f, fs.length)]).filter fun y => y.2 < x.2) = kept.filter fun y => y.2 < x.2 := by
        simp [List.filter_append, hlater]
      rw [hsame]
      exact hrefused x hold fun hmem => hnot (List.mem_append_left _ hmem)

/-! ## Once more through the budget -/

/-- What is dropped leaves no trace: what is kept leads to the same guard. -/
theorem admitted_kept (limits : Limits) (fs : List (Fix σ)) : admitted limits (admitted limits fs).1 = admitted limits fs := by
  induction fs using List.reverseRecOn with
  | nil => rfl
  | append_singleton fs f ih =>
    rw [admitted_append]
    rcases admitNext_cases (admitted limits fs) f with ⟨r, -, hstep⟩ | ⟨guard, -, hstep⟩
    · rw [hstep, ih]
    · rw [hstep, admitted_append, ih, hstep]

/-- A selection drops more, for conflicts, and leads to the same guard as what it keeps. -/
theorem admitted_selected (limits : Limits) (ranked : List (Fix σ)) :
    admitted limits (select limits ranked).selected = ((select limits ranked).selected, (select limits ranked).guard) := by
  induction ranked using List.reverseRecOn with
  | nil => rfl
  | append_singleton ranked f ih =>
    have hstep : select limits (ranked ++ [f]) = (select limits ranked).step f := by
      rw [select, List.foldl_append]
      rfl
    rw [hstep]
    rcases (select limits ranked).step_cases f with ⟨-, hstep⟩ | ⟨r, -, hstep⟩ | ⟨-, guard, hok, hstep⟩
    · rw [hstep]
      exact ih
    · rw [hstep]
      exact ih
    · rw [hstep, admitted_append, ih, admitNext]
      simp only [hok]

/-- **A budget keeps to its limits.** Of repairs in any order it keeps some that need no more files than the limit and,
where the limit of lines is below the largest count, no more lines of any file; whatever it drops would have broken a
limit beside those that it kept before. It keeps all of what it kept once, and all of what was selected. -/
theorem withinBudget_keeps [LT σ] [DecidableLT σ] [Ord σ] (limits : Limits) {fs : List (Fix σ)}
    (hproper : ∀ f ∈ fs, f.issue.file.Proper) :
    (∃ kept, withinBudget limits fs = kept.map Prod.fst ∧ Admission limits fs kept) ∧
      withinBudget limits (withinBudget limits fs) = withinBudget limits fs ∧
      ∀ (g : Registry) (disabled : String → Bool) (score : Recipe → Issue → σ) (minScore : σ) (issues : List Issue),
        withinBudget limits (decide g disabled score minScore limits issues).selected =
          (decide g disabled score minScore limits issues).selected := by
  refine ⟨exists_admission limits hproper, ?_, fun g disabled score minScore issues => ?_⟩
  · rw [withinBudget_eq, withinBudget_eq, admitted_kept]
  · rw [decide_eq, withinBudget_eq, admitted_selected]

/-- A repair of one file of a workspace. -/
def oneOf (file : String) (estimate : Count) : Fix Nat :=
  ⟨⟨file, ⟨[file]⟩, 1, none, .low, "c", "", true, none⟩, "r", 1, .line 1, estimate⟩

/-- One file and three lines: the second repair is for another file, and the third needs too many lines. -/
theorem withinBudget_keeps_few :
    (∀ f ∈ [oneOf "a" 2, oneOf "b" 1, oneOf "a" 2, oneOf "a" 1], f.issue.file.Proper) ∧
      withinBudget ⟨1, 3⟩ [oneOf "a" 2, oneOf "b" 1, oneOf "a" 2, oneOf "a" 1] = [oneOf "a" 2, oneOf "a" 1] ∧
      ∃ kept, [oneOf "a" 2, oneOf "a" 1] = kept.map Prod.fst ∧
        Admission ⟨1, 3⟩ [oneOf "a" 2, oneOf "b" 1, oneOf "a" 2, oneOf "a" 1] kept := by
  have hproper : ∀ f ∈ [oneOf "a" 2, oneOf "b" 1, oneOf "a" 2, oneOf "a" 1], f.issue.file.Proper := by
    intro f hf
    simp only [List.mem_cons, List.not_mem_nil, or_false] at hf
    rcases hf with rfl | rfl | rfl | rfl
    all_goals exact RelPath.proper_name (by decide) (by decide)
  have hkept : withinBudget ⟨1, 3⟩ [oneOf "a" 2, oneOf "b" 1, oneOf "a" 2, oneOf "a" 1] = [oneOf "a" 2, oneOf "a" 1] := by
    decide
  obtain ⟨hadmission, -⟩ := withinBudget_keeps ⟨1, 3⟩ hproper
  rw [hkept] at hadmission
  exact ⟨hproper, hkept, hadmission⟩

/-- With the largest count as the limit of lines, repairs of one file are kept that need more lines than that. -/
theorem past_largest_count :
    ∃ (limits : Limits) (fs : List (Fix Nat)) (file : RelPath), 1 ≤ limits.maxFiles ∧ 1 ≤ limits.maxLines ∧
      limits.maxLines.toNat < lines (withinBudget limits fs) file := by
  have hkept : withinBudget ⟨1, Count.max⟩ [oneOf "a" Count.max, oneOf "a" 1] = [oneOf "a" Count.max, oneOf "a" 1] := by
    decide
  refine ⟨⟨1, Count.max⟩, [oneOf "a" Count.max, oneOf "a" 1], ⟨["a"]⟩, by decide, by decide, ?_⟩
  rw [hkept]
  decide

end Decision
end Mend
