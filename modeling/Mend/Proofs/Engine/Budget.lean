import Mathlib.Algebra.GroupWithZero.Nat
import Mathlib.Data.Finset.Card
import Mend.Engine.Decision
import Mend.Proofs.Ordered
import Mend.Proofs.Path

/-!
# Budgets

A guard keeps account of the repairs that it admitted: how many files they are for, and how many lines they are
expected to change in each (`Guard.Admits`). It admits one more only if they then still break no limit
(`Guard.Admits.accept`), and refuses one only if they would (`Guard.Admits.not_within_of_error`).

Counts stop at the largest count. Where that is itself the limit of lines, a sum that was cut off would pass
unnoticed; the account of lines is for smaller limits.
-/

namespace Mend.Budget

variable {σ : Type}

/-! ## What repairs need -/

/-- The files that repairs are for. -/
def files (fs : List (Fix σ)) : Finset RelPath := (fs.map fun f => f.issue.file).toFinset

/-- How many lines of a file the repairs are expected to change. -/
def lines (fs : List (Fix σ)) (file : RelPath) : Nat :=
  ((fs.filter fun f => f.issue.file = file).map fun f => f.estimate.toNat).sum

/-- The repairs together break no limit. -/
structure Within (limits : Limits) (fs : List (Fix σ)) : Prop where
  files : (files fs).card ≤ limits.maxFiles
  lines : ∀ file, lines fs file ≤ limits.maxLines.toNat

variable {fs : List (Fix σ)} {f : Fix σ} {limits : Limits}

theorem mem_files {file : RelPath} : file ∈ files fs ↔ ∃ f ∈ fs, f.issue.file = file := by
  simp [files]

theorem files_append (fs : List (Fix σ)) (f : Fix σ) : files (fs ++ [f]) = insert f.issue.file (files fs) := by
  ext file
  simp [files]

theorem lines_append (fs : List (Fix σ)) (f : Fix σ) (file : RelPath) :
    lines (fs ++ [f]) file = lines fs file + if f.issue.file = file then f.estimate.toNat else 0 := by
  rw [lines, List.filter_append, List.map_append, List.sum_append]
  split <;> simp [lines, *]

/-! ## The account of a guard -/

namespace Guard

variable {g g' : Guard}

/-- The guard has admitted these repairs. -/
structure Admits (g : Guard) (limits : Limits) (fs : List (Fix σ)) : Prop where
  limits_eq : g.limits = limits
  proper : ∀ f ∈ fs, f.issue.file.Proper
  known : ∀ file, file.Proper → (Ordered.contains g.used file = true ↔ file ∈ files fs)
  filesUsed : g.filesUsed = (files fs).card
  files_le : (files fs).card ≤ limits.maxFiles
  linesUsed : limits.maxLines < Count.max → ∀ file, file.Proper → (g.linesUsed file).toNat = lines fs file
  lines_le : limits.maxLines < Count.max → ∀ file, lines fs file ≤ limits.maxLines.toNat

theorem Admits.within (h : g.Admits limits fs) (hlimit : limits.maxLines < Count.max) : Within limits fs :=
  ⟨h.files_le, h.lines_le hlimit⟩

theorem admits_start (limits : Limits) : (start limits).Admits limits ([] : List (Fix σ)) where
  limits_eq := rfl
  proper := by simp
  known := by simp [start, Ordered.contains, Ordered.get?, files]
  filesUsed := rfl
  files_le := Nat.zero_le _
  linesUsed := by simp [start, Guard.linesUsed, Ordered.get?, lines]
  lines_le := by simp [lines]

theorem refusal?_eq_none_iff {file : RelPath} {n : Count} :
    g.refusal? file n = none ↔ (Ordered.contains g.used file = true ∨ g.filesUsed < g.limits.maxFiles) ∧
      Count.add (g.linesUsed file) n ≤ g.limits.maxLines := by
  rw [refusal?]
  split
  · next h =>
    simp only [Bool.and_eq_true, Bool.not_eq_true', decide_eq_true_eq] at h
    simp [h.1, Nat.not_lt.mpr h.2]
  · next h =>
    have hfiles : Ordered.contains g.used file = true ∨ g.filesUsed < g.limits.maxFiles := by
      by_contra hnot
      simp only [not_or, Bool.not_eq_true, Nat.not_lt] at hnot
      exact h (by simp [hnot.1, hnot.2])
    simp [hfiles]

theorem accept_eq_ok {file : RelPath} {n : Count} (h : g.accept file n = .ok g') :
    g.refusal? file n = none ∧ g' = { g with used := Ordered.insert g.used file (g.linesUsed file + n) } := by
  rw [accept] at h
  split at h
  · cases h
  · next hnone => exact ⟨hnone, (Except.ok.inj h).symm⟩

theorem accept_eq_error {file : RelPath} {n : Count} {r : Refusal} (h : g.accept file n = .error r) :
    g.refusal? file n ≠ none := by
  rw [accept] at h
  split at h
  · next hsome => simp [hsome]
  · cases h

/-- The table does not show what was admitted for other files differently. -/
theorem linesUsed_insert {file other : RelPath} {n : Count} (hfile : file.Proper) (hother : other.Proper) :
    linesUsed { g with used := Ordered.insert g.used file n } other = if file = other then n else g.linesUsed other := by
  rw [linesUsed, Ordered.get?_insert]
  split
  · next heq => simp [hother.eq_of_compare hfile heq]
  · next hne =>
    have hdiff : file ≠ other := by
      rintro rfl
      exact hne Std.ReflCmp.compare_self
    simp [hdiff, linesUsed]

/-- Where the sum of two counts is below the largest one, nothing is cut off. -/
theorem toNat_add_of_le {a b limit : Count} (hlimit : limit < Count.max) (h : Count.add a b ≤ limit) :
    (a + b).toNat = a.toNat + b.toNat ∧ a.toNat + b.toNat ≤ limit.toNat := by
  have hmax : limit.toNat < UInt32.size - 1 := UInt32.lt_iff_toNat_lt.mp hlimit
  have hle : (Count.add a b).toNat ≤ limit.toNat := UInt32.le_iff_toNat_le.mp h
  rw [Count.toNat_add] at hle
  refine ⟨?_, by omega⟩
  rw [UInt32.toNat_add, Nat.mod_eq_of_lt]
  change _ < UInt32.size
  omega

/-- A repair that is admitted is taken into the account, and no limit is broken. -/
theorem Admits.accept (h : g.Admits limits fs) (hproper : f.issue.file.Proper)
    (hok : g.accept f.issue.file f.estimate = .ok g') : g'.Admits limits (fs ++ [f]) := by
  obtain ⟨hnone, rfl⟩ := accept_eq_ok hok
  obtain ⟨hfiles, hlines⟩ := refusal?_eq_none_iff.mp hnone
  rw [h.limits_eq] at hfiles hlines
  have hcard : (files (fs ++ [f])).card =
      (files fs).card + if Ordered.contains g.used f.issue.file then 0 else 1 := by
    rw [files_append, Finset.card_insert_eq_ite]
    simp only [h.known _ hproper]
    split <;> rfl
  refine ⟨h.limits_eq, ?_, ?_, ?_, ?_, ?_, ?_⟩
  · intro k hk
    rcases List.mem_append.mp hk with hk | hk
    · exact h.proper k hk
    · rwa [List.mem_singleton.mp hk]
  · intro file hfile
    have hsame : compare file f.issue.file = .eq ↔ file = f.issue.file :=
      ⟨hfile.eq_of_compare hproper, fun e => e ▸ Std.ReflCmp.compare_self⟩
    simp [Ordered.contains_insert, files_append, h.known file hfile, hsame]
  · rw [hcard, ← h.filesUsed]
    exact Ordered.length_keys_insert _ _ _
  · rw [hcard, ← h.filesUsed]
    rcases hfiles with hknown | hfew
    · simpa [hknown, h.filesUsed] using h.files_le
    · split <;> omega
  · intro hlimit file hfile
    obtain ⟨hsum, -⟩ := toNat_add_of_le hlimit hlines
    rw [linesUsed_insert hproper hfile, lines_append]
    split
    · next heq => rw [hsum, h.linesUsed hlimit _ hproper, heq]
    · rw [h.linesUsed hlimit file hfile, Nat.add_zero]
  · intro hlimit file
    obtain ⟨-, hle⟩ := toNat_add_of_le hlimit hlines
    rw [lines_append]
    split
    · next heq => rwa [h.linesUsed hlimit _ hproper, heq] at hle
    · exact h.lines_le hlimit file

/-- A repair is refused only if it would break a limit. -/
theorem Admits.not_within_of_error (h : g.Admits limits fs) (hlimit : limits.maxLines < Count.max)
    (hproper : f.issue.file.Proper) {r : Refusal} (herror : g.accept f.issue.file f.estimate = .error r) :
    ¬ Within limits (fs ++ [f]) := by
  intro hwithin
  refine accept_eq_error herror (refusal?_eq_none_iff.mpr ⟨?_, ?_⟩)
  · rw [h.limits_eq, h.filesUsed, h.known _ hproper]
    by_contra hnot
    simp only [not_or, Nat.not_lt] at hnot
    have hcard := hwithin.files
    rw [files_append, Finset.card_insert_of_notMem hnot.1] at hcard
    omega
  · have hlines := hwithin.lines f.issue.file
    rw [lines_append, if_pos rfl, ← h.linesUsed hlimit _ hproper] at hlines
    rw [h.limits_eq, UInt32.le_iff_toNat_le, Count.toNat_add]
    omega

end Guard
end Mend.Budget
