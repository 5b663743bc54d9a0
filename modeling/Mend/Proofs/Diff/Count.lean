import Mathlib.Algebra.GroupWithZero.Nat
import Mathlib.Tactic.Common
import Mend.Diff

/-!
# How many lines a diff changes

A diff changes no more lines than the longer text has, or than the largest table has cells
(`changedLines_between_le`). Where the middle is walked with its table, the lines that are deleted and inserted all
lie in the middle, which is small then; otherwise the middle is one stretch, and counts as its longer side.
-/

namespace Mend.Diff

/-- How many lines the steps delete and insert. -/
def effort (ops : List Op) : Nat := (ops.map fun op => op.deleted + op.inserted).sum

@[simp] theorem effort_nil : effort [] = 0 := rfl

@[simp] theorem effort_cons (op : Op) (ops : List Op) :
    effort (op :: ops) = op.deleted + op.inserted + effort ops := rfl

theorem effort_reverse (ops : List Op) : effort ops.reverse = effort ops := by
  rw [effort, List.map_reverse, List.sum_reverse, effort]

theorem effort_push (ops : List Op) (op : Op) : effort (push ops op) = effort ops + (op.deleted + op.inserted) := by
  unfold push
  split
  all_goals simp [Op.deleted, Op.inserted] <;> omega

theorem effort_walk (xs ys : List String) (rows : List (List Nat)) (acc : List Op) :
    effort (walk xs ys rows acc) ≤ effort acc + (xs.length + ys.length) := by
  induction xs, ys, rows, acc using walk.induct with
  | case1 ys _ acc =>
    rw [walk, effort_push]
    simp [Op.deleted, Op.inserted]
  | case2 x xs _ acc =>
    rw [walk, effort_push]
    simp [Op.deleted, Op.inserted]
  | case3 xs y ys rows acc ih =>
    rw [walk, if_pos rfl]
    rw [effort_push] at ih
    simp only [Op.deleted, Op.inserted, List.length_cons] at ih ⊢
    omega
  | case4 x xs y ys rows acc hne down right =>
    rename_i hle ih
    rw [walk, if_neg hne, if_pos hle]
    rw [effort_push] at ih
    simp only [Op.deleted, Op.inserted, List.length_cons] at ih ⊢
    omega
  | case5 x xs y ys rows acc hne down right =>
    rename_i hlt ih
    rw [walk, if_neg hne, if_neg hlt]
    rw [effort_push] at ih
    simp only [List.map_subtype, List.unattach_attach, Op.deleted, Op.inserted, List.length_cons, List.length_nil] at ih ⊢
    omega

theorem countChanged_le (ops : List Op) (deleted inserted : Nat) :
    countChanged ops deleted inserted ≤ deleted + inserted + effort ops := by
  induction ops generalizing deleted inserted with
  | nil =>
    rw [countChanged, effort_nil]
    omega
  | cons op ops ih =>
    cases op with
    | keep n =>
      have h := ih 0 0
      simp only [countChanged, effort_cons, Op.deleted, Op.inserted]
      omega
    | delete n =>
      have h := ih (deleted + n) inserted
      simp only [countChanged, effort_cons, Op.deleted, Op.inserted]
      omega
    | insert ls =>
      have h := ih deleted (inserted + ls.length)
      simp only [countChanged, effort_cons, Op.deleted, Op.inserted]
      omega

/-- One replacement between kept lines counts as its longer side. -/
theorem changedLines_replacement (front back n : Nat) (ls : List String) :
    changedLines ⟨(push (push (push (push [] (.keep front)) (.delete n)) (.insert ls)) (.keep back)).reverse⟩ =
      max n ls.length := by
  cases front <;> cases n <;> cases ls <;> cases back <;> simp [push, changedLines, countChanged]

theorem changedLines_middle_le (xs ys : List String) (front back : Nat) :
    changedLines ⟨(push (middle xs ys (push [] (.keep front))) (.keep back)).reverse⟩ ≤
      max maxCells (max xs.length ys.length) := by
  unfold middle
  split
  · rw [changedLines_replacement]
    exact Nat.le_max_right _ _
  · next hsmall =>
    simp only [Bool.or_eq_true, decide_eq_true_eq, not_or, Nat.not_lt] at hsmall
    have hcells : xs.length + ys.length ≤ maxCells := by
      have hproduct : (xs.length + 1) * (ys.length + 1) =
          xs.length * ys.length + xs.length + ys.length + 1 := by
        rw [Nat.succ_mul, Nat.mul_succ, Nat.add_assoc _ ys.length 1]
      omega
    have hcount := countChanged_le (push (walk xs ys (table xs ys) (push [] (.keep front))) (.keep back)).reverse 0 0
    have hwalk := effort_walk xs ys (table xs ys) (push [] (.keep front))
    rw [effort_reverse, effort_push] at hcount
    rw [effort_push] at hwalk
    simp only [Op.deleted, Op.inserted, effort_nil] at hcount hwalk
    exact Nat.le_trans hcount (by omega)

/-- No more lines are changed than the longer text has, or than the largest table has cells. -/
theorem changedLines_between_le (source target : String) :
    (between source target).changedLines ≤
      max maxCells (max (Text.lines source).length (Text.lines target).length) := by
  refine Nat.le_trans (changedLines_middle_le _ _ _ _) ?_
  simp only [List.length_take, List.length_drop]
  omega

end Mend.Diff
