import Mend.Proofs.Diff.Count
import Mend.Proofs.Diff.Minimal

/-!
# How far apart two texts are

Where some lines of a text are rewritten and some are deleted (`Edits`), a diff that is walked with its table deletes
no more lines than these, and inserts no more than were rewritten (`Edits.changedLines_le`). It may count both: a
rewritten line can be kept as another line of the source, and the diff then deletes and inserts at different places.
A diff that is not walked counts all lines between the shared ends (`changedLines_of_not_fits`), and these lie
between the first line and the last one that were edited (`length_differing_le`).
-/

namespace Mend.Diff

/-! ## Edited lines -/

/-- Of the lines `flagged` many are rewritten or deleted, and `rewritten` many of them are rewritten. A line that is
rewritten has a line feed if it had one before. -/
inductive Edits : Nat → Nat → List String → List String → Prop where
  | nil : Edits 0 0 [] []
  | keep {flagged rewritten xs ys} (l : String) (h : Edits flagged rewritten xs ys) :
      Edits flagged rewritten (l :: xs) (l :: ys)
  | rewrite {flagged rewritten xs ys} {l m : String} (hterminated : Text.Terminated l → Text.Terminated m)
      (hloose : Text.Loose l → Text.Loose m) (h : Edits flagged rewritten xs ys) :
      Edits (flagged + 1) (rewritten + 1) (l :: xs) (m :: ys)
  | delete {flagged rewritten xs ys} (l : String) (h : Edits flagged rewritten xs ys) :
      Edits (flagged + 1) rewritten (l :: xs) ys

namespace Edits

variable {flagged rewritten flagged' rewritten' : Nat} {xs ys xs' ys' : List String}

theorem refl (xs : List String) : Edits 0 0 xs xs := by
  induction xs with
  | nil => exact .nil
  | cons x xs ih => exact ih.keep x

theorem append (h : Edits flagged rewritten xs ys) (h' : Edits flagged' rewritten' xs' ys') :
    Edits (flagged + flagged') (rewritten + rewritten') (xs ++ xs') (ys ++ ys') := by
  induction h with
  | nil => rwa [Nat.zero_add, Nat.zero_add]
  | keep l _ ih => exact ih.keep l
  | rewrite hterminated hloose _ ih =>
    rw [Nat.add_right_comm _ 1, Nat.add_right_comm _ 1]
    exact ih.rewrite hterminated hloose
  | delete l _ ih =>
    rw [Nat.add_right_comm _ 1]
    exact ih.delete l

/-- Edited lines are lines as a text has them. -/
theorem lined (h : Edits flagged rewritten xs ys) (hxs : Text.Lined xs) : Text.Lined ys := by
  induction h with
  | nil => exact .nil
  | keep l h ih =>
    cases hxs with
    | last hl =>
      cases h
      exact .last hl
    | cons hl hls => exact .cons hl (ih hls)
  | rewrite hterminated hloose h ih =>
    cases hxs with
    | last hl =>
      cases h
      exact .last (hloose hl)
    | cons hl hls => exact .cons (hterminated hl) (ih hls)
  | delete l h ih =>
    cases hxs with
    | last hl => exact ih .nil
    | cons hl hls => exact ih hls

/-- The lines that were not edited are in both texts. -/
theorem exists_common (h : Edits flagged rewritten xs ys) : ∃ zs : List String,
    zs.Sublist xs ∧ zs.Sublist ys ∧ xs.length = zs.length + flagged ∧ ys.length = zs.length + rewritten := by
  induction h with
  | nil => exact ⟨[], .slnil, .slnil, rfl, rfl⟩
  | keep l _ ih =>
    obtain ⟨zs, hx, hy, hxs, hys⟩ := ih
    exact ⟨l :: zs, hx.cons_cons l, hy.cons_cons l, by simp [hxs]; omega, by simp [hys]; omega⟩
  | rewrite _ _ _ ih =>
    obtain ⟨zs, hx, hy, hxs, hys⟩ := ih
    exact ⟨zs, hx.cons _, hy.cons _, by simp [hxs]; omega, by simp [hys]; omega⟩
  | delete l _ ih =>
    obtain ⟨zs, hx, hy, hxs, hys⟩ := ih
    exact ⟨zs, hx.cons _, hy, by simp [hxs]; omega, hys⟩

theorem length_le (h : Edits flagged rewritten xs ys) : ys.length ≤ xs.length := by
  induction h with
  | nil => exact Nat.le_refl 0
  | keep l _ ih => exact Nat.succ_le_succ ih
  | rewrite _ _ _ ih => exact Nat.succ_le_succ ih
  | delete l _ ih => exact Nat.le_succ_of_le ih

end Edits

/-! ## With the table -/

/-- A diff changes no more lines than it deletes and inserts. -/
theorem changedLines_le (d : Diff) : d.changedLines ≤ d.deletedLines + d.insertedLines := by
  have heffort (ops : List Op) :
      effort ops = (ops.map Op.deleted).foldr (· + ·) 0 + (ops.map Op.inserted).foldr (· + ·) 0 := by
    induction ops with
    | nil => rfl
    | cons op ops ih =>
      rw [effort_cons, ih, List.map_cons, List.map_cons, List.foldr_cons, List.foldr_cons]
      omega
  have hcount := countChanged_le d.ops 0 0
  rw [heffort, Nat.zero_add] at hcount
  exact hcount

/-- Each edited line is deleted at most once, and each rewritten one inserted at most once. -/
theorem Edits.changedLines_le {flagged rewritten : Nat} {xs ys : List String} (h : Edits flagged rewritten xs ys)
    (hfits : Fits xs ys) : (ofLines xs ys).changedLines ≤ flagged + rewritten := by
  obtain ⟨zs, hx, hy, hxs, hys⟩ := h.exists_common
  obtain ⟨hdeleted, hinserted⟩ := lengths_ofLines xs ys
  have hkept := keptLines_ofLines hfits
  have hlongest := length_le_lcsLength hx hy
  have hchanged := Diff.changedLines_le (ofLines xs ys)
  omega

/-! ## Without the table -/

/-- A diff that is not walked counts the longer side of what lies between the shared ends. -/
theorem changedLines_of_not_fits {xs ys : List String} (h : ¬ Fits xs ys) :
    (ofLines xs ys).changedLines = max (differing xs ys).1.length (differing xs ys).2.length := by
  obtain ⟨front, back, -, -, hops⟩ := exists_ends xs ys
  have hlarge : ((differing xs ys).1.length + 1) * ((differing xs ys).2.length + 1) > maxCells := Nat.not_le.mp h
  rw [hops, middle, if_pos (by simp [hlarge]), changedLines_replacement]

theorem le_sharedPrefix {xs ys : List String} {ps : List String} (hx : ps <+: xs) (hy : ps <+: ys) :
    ps.length ≤ sharedPrefix xs ys := by
  obtain ⟨xs, rfl⟩ := hx
  obtain ⟨ys, rfl⟩ := hy
  induction ps with
  | nil => exact Nat.zero_le _
  | cons p ps ih =>
    rw [List.cons_append, List.cons_append, sharedPrefix, if_pos rfl, List.length_cons]
    omega

theorem sharedPrefix_le_right (xs ys : List String) : sharedPrefix xs ys ≤ ys.length := by
  have hlength := congrArg List.length (take_sharedPrefix xs ys)
  have hle := sharedPrefix_le_left xs ys
  rw [List.length_take, List.length_take] at hlength
  omega

/-- What lies between the shared ends lies between lines that both texts begin with and end in. -/
theorem length_differing_le (front back : List String) {mid mid' : List String} (h : mid'.length ≤ mid.length) :
    (differing (front ++ (mid ++ back)) (front ++ (mid' ++ back))).1.length ≤ mid.length ∧
      (differing (front ++ (mid ++ back)) (front ++ (mid' ++ back))).2.length ≤ mid'.length := by
  let xs := front ++ (mid ++ back)
  let ys := front ++ (mid' ++ back)
  let n := sharedPrefix xs ys
  let k := sharedPrefix (xs.drop n).reverse (ys.drop n).reverse
  have hfront : front.length ≤ n := le_sharedPrefix (List.prefix_append _ _) (List.prefix_append _ _)
  have hx : n ≤ xs.length := sharedPrefix_le_left xs ys
  have hy : n ≤ ys.length := sharedPrefix_le_right xs ys
  -- the shared end is as long as `back`, unless one of the texts is used up before
  have hback : min back.length (min (xs.length - n) (ys.length - n)) ≤ k := by
    have hprefix (as : List String) (m : Nat) (hm : m ≤ back.length) (hm' : m ≤ (as ++ back).length - n) :
        back.reverse.take m <+: ((as ++ back).drop n).reverse := by
      rw [List.reverse_drop, List.reverse_append, List.prefix_take_iff]
      refine ⟨(List.take_prefix _ _).trans (List.prefix_append _ _), ?_⟩
      rw [List.length_take]
      omega
    let m := min back.length (min (xs.length - n) (ys.length - n))
    have hxs : xs = front ++ mid ++ back := (List.append_assoc _ _ _).symm
    have hys : ys = front ++ mid' ++ back := (List.append_assoc _ _ _).symm
    have hle : (back.reverse.take m).length ≤ k := by
      refine le_sharedPrefix ?_ ?_
      · rw [hxs]
        exact hprefix _ m (by omega) (by rw [← hxs]; omega)
      · rw [hys]
        exact hprefix _ m (by omega) (by rw [← hys]; omega)
    rw [List.length_take, List.length_reverse] at hle
    omega
  have hxs : xs.length = front.length + (mid.length + back.length) := by simp [xs]
  have hys : ys.length = front.length + (mid'.length + back.length) := by simp [ys]
  show ((xs.drop n).take ((xs.drop n).length - k)).length ≤ _ ∧ ((ys.drop n).take ((ys.drop n).length - k)).length ≤ _
  simp only [List.length_take, List.length_drop]
  omega

/-- Where at most one line differs, at most one line is changed. -/
theorem changedLines_le_one {xs ys : List String} (hx : (differing xs ys).1.length ≤ 1)
    (hy : (differing xs ys).2.length ≤ 1) : (ofLines xs ys).changedLines ≤ 1 := by
  obtain ⟨front, back, -, -, hops⟩ := exists_ends xs ys
  rw [hops]
  generalize (differing xs ys).1 = ms at hx
  generalize (differing xs ys).2 = ns at hy
  match ms, ns with
  | [], ns =>
    rw [middle, if_pos (by simp), changedLines_replacement]
    exact Nat.max_le.mpr ⟨hx, hy⟩
  | m :: ms, [] =>
    rw [middle, if_pos (by simp), changedLines_replacement]
    exact Nat.max_le.mpr ⟨hx, hy⟩
  | [m], [n] =>
    rw [middle, if_neg (by simp [maxCells])]
    by_cases hsame : m = n
    · subst hsame
      have hwalk (acc : List Op) (rows : List (List Nat)) : walk [m] [m] rows acc = push acc (.keep 1) := by
        simp [walk, push]
      have hcount := countChanged_le (push (push (push [] (.keep front.length)) (.keep 1)) (.keep back.length)).reverse 0 0
      rw [effort_reverse, effort_push, effort_push, effort_push] at hcount
      rw [hwalk]
      exact Nat.le_trans hcount (Nat.zero_le 1)
    · have hwalk (acc : List Op) : walk [m] [n] (table [m] [n]) acc = push (push acc (.delete 1)) (.insert [n]) := by
        simp [walk, hsame, table, row]
      rw [hwalk, changedLines_replacement]
      exact Nat.max_le.mpr ⟨hx, hy⟩

end Mend.Diff
