import Mathlib.Tactic.Common
import Mend.Diff

/-!
# Replaying a diff

A diff between two texts, replayed on the first one, gives the second one: `apply_between`. Nothing is
assumed of the texts or of the table of common subsequences, so that the block replacement of large
middles is covered as well.

The steps are built as a reversed list that only ever grows at its head. `Rebuilds ops xs ys` says that
such a list consumes the lines `xs` and writes the lines `ys`; `push` keeps it (`Rebuilds.keep`,
`Rebuilds.delete`, `Rebuilds.insert`), hence so do the walk and the middle, and `Rebuilds.replay` turns it
into what replaying does.
-/

namespace Mend.Diff

/-- The steps, the last one first, consume the lines `xs` and write the lines `ys`. -/
inductive Rebuilds : List Op → List String → List String → Prop where
  | nil : Rebuilds [] [] []
  | consKeep {ops xs ys} (ls : List String) (h : Rebuilds ops xs ys) :
      Rebuilds (.keep ls.length :: ops) (xs ++ ls) (ys ++ ls)
  | consDelete {ops xs ys} (ls : List String) (h : Rebuilds ops xs ys) :
      Rebuilds (.delete ls.length :: ops) (xs ++ ls) ys
  | consInsert {ops xs ys} (ls : List String) (h : Rebuilds ops xs ys) :
      Rebuilds (.insert ls :: ops) xs (ys ++ ls)

namespace Rebuilds

variable {ops : List Op} {xs ys : List String}

/-- No step takes more lines than there are. -/
theorem count_le (h : Rebuilds ops xs ys) : ∀ n, .keep n ∈ ops ∨ .delete n ∈ ops → n ≤ xs.length := by
  induction h with
  | nil => simp
  | consKeep ls h ih =>
    intro n hn
    rw [List.length_append]
    simp only [List.mem_cons, Op.keep.injEq, reduceCtorEq, false_or] at hn
    rcases hn with (rfl | hn) | hn
    · omega
    · have := ih n (.inl hn)
      omega
    · have := ih n (.inr hn)
      omega
  | consDelete ls h ih =>
    intro n hn
    rw [List.length_append]
    simp only [List.mem_cons, Op.delete.injEq, reduceCtorEq, false_or] at hn
    rcases hn with hn | rfl | hn
    · have := ih n (.inl hn)
      omega
    · omega
    · have := ih n (.inr hn)
      omega
  | consInsert ls h ih =>
    intro n hn
    simp only [List.mem_cons, reduceCtorEq, false_or] at hn
    exact ih n hn

/-! ## Adding a step -/

theorem keep (h : Rebuilds ops xs ys) (ls : List String) :
    Rebuilds (push ops (.keep ls.length)) (xs ++ ls) (ys ++ ls) := by
  cases ls with
  | nil => simpa [push] using h
  | cons l ls =>
    cases h with
    | consKeep ks h =>
      have := h.consKeep (ks ++ l :: ls)
      simpa [push, List.append_assoc, Nat.add_assoc] using this
    | nil => exact nil.consKeep (l :: ls)
    | consDelete ks h => exact (h.consDelete ks).consKeep (l :: ls)
    | consInsert ks h => exact (h.consInsert ks).consKeep (l :: ls)

theorem delete (h : Rebuilds ops xs ys) (ls : List String) :
    Rebuilds (push ops (.delete ls.length)) (xs ++ ls) ys := by
  cases ls with
  | nil => simpa [push] using h
  | cons l ls =>
    cases h with
    | consDelete ks h =>
      have := h.consDelete (ks ++ l :: ls)
      simpa [push, List.append_assoc, Nat.add_assoc] using this
    | nil => exact nil.consDelete (l :: ls)
    | consKeep ks h => exact (h.consKeep ks).consDelete (l :: ls)
    | consInsert ks h => exact (h.consInsert ks).consDelete (l :: ls)

theorem insert (h : Rebuilds ops xs ys) (ls : List String) :
    Rebuilds (push ops (.insert ls)) xs (ys ++ ls) := by
  cases ls with
  | nil => simpa [push] using h
  | cons l ls =>
    cases h with
    | consInsert ks h =>
      have := h.consInsert (ks ++ l :: ls)
      simpa [push, List.append_assoc] using this
    | nil => exact nil.consInsert (l :: ls)
    | consKeep ks h => exact (h.consKeep ks).consInsert (l :: ls)
    | consDelete ks h => exact (h.consDelete ks).consInsert (l :: ls)

/-! ## The middle -/

theorem walk (h : Rebuilds ops xs ys) (as bs : List String) (rows : List (List Nat)) :
    Rebuilds (Diff.walk as bs rows ops) (xs ++ as) (ys ++ bs) := by
  induction as, bs, rows, ops using Diff.walk.induct generalizing xs ys with
  | case1 bs _ ops =>
    rw [Diff.walk]
    simpa using h.insert bs
  | case2 a as _ ops =>
    rw [Diff.walk]
    simpa using h.delete (a :: as)
  | case3 as b bs rows ops ih =>
    rw [Diff.walk, if_pos rfl]
    simpa using ih (h.keep [b])
  | case4 a as b bs rows ops hne down right =>
    rename_i hle ih
    rw [Diff.walk, if_neg hne, if_pos hle]
    simpa using ih (h.delete [a])
  | case5 a as b bs rows ops hne down right =>
    rename_i hlt ih
    rw [Diff.walk, if_neg hne, if_neg hlt]
    simpa using ih (h.insert [b])

theorem middle (h : Rebuilds ops xs ys) (as bs : List String) :
    Rebuilds (Diff.middle as bs ops) (xs ++ as) (ys ++ bs) := by
  unfold Diff.middle
  split
  · exact (h.delete as).insert bs
  · exact h.walk as bs _

/-! ## Replaying -/

/-- What the steps do when they are replayed before further steps. -/
theorem replay (h : Rebuilds ops xs ys) {total cursor : Nat} (more : List Op) (rest acc : List String)
    (htotal : cursor + (xs.length + rest.length) = total) :
    Diff.replay total (ops.reverse ++ more) cursor (xs ++ rest) acc =
      Diff.replay total more (cursor + xs.length) rest (ys.reverse ++ acc) := by
  -- the last step of the list is the first of `more` once the steps before it are done
  induction h generalizing more rest acc with
  | nil => simp
  | consKeep ls h ih =>
    simp only [List.length_append] at htotal
    rw [List.reverse_cons, List.append_assoc, List.append_assoc,
      ih _ (ls ++ rest) _ (by simp only [List.length_append]; omega)]
    simp only [List.cons_append, List.nil_append, Diff.replay]
    rw [if_neg (by omega)]
    simp [Nat.add_assoc]
  | consDelete ls h ih =>
    simp only [List.length_append] at htotal
    rw [List.reverse_cons, List.append_assoc, List.append_assoc,
      ih _ (ls ++ rest) _ (by simp only [List.length_append]; omega)]
    simp only [List.cons_append, List.nil_append, Diff.replay]
    rw [if_neg (by omega)]
    simp [Nat.add_assoc]
  | consInsert ls h ih =>
    rw [List.reverse_cons, List.append_assoc, ih _ rest _ htotal]
    simp [Diff.replay]

end Rebuilds

/-! ## Shared ends -/

theorem take_sharedPrefix (xs ys : List String) :
    xs.take (sharedPrefix xs ys) = ys.take (sharedPrefix xs ys) := by
  induction xs generalizing ys with
  | nil => simp [sharedPrefix]
  | cons x xs ih =>
    cases ys with
    | nil => simp [sharedPrefix]
    | cons y ys =>
      by_cases h : x = y
      · simp [sharedPrefix, h, ih]
      · simp [sharedPrefix, h]

theorem sharedPrefix_le_left (xs ys : List String) : sharedPrefix xs ys ≤ xs.length := by
  induction xs generalizing ys with
  | nil => simp [sharedPrefix]
  | cons x xs ih =>
    cases ys with
    | nil => simp [sharedPrefix]
    | cons y ys =>
      have := ih ys
      simp only [sharedPrefix, List.length_cons]
      split <;> omega

/-- The lines that two lists share at their ends. -/
theorem drop_sharedSuffix (xs ys : List String) :
    xs.drop (xs.length - sharedPrefix xs.reverse ys.reverse) =
      ys.drop (ys.length - sharedPrefix xs.reverse ys.reverse) := by
  have h := take_sharedPrefix xs.reverse ys.reverse
  rw [List.take_reverse, List.take_reverse] at h
  exact List.reverse_inj.mp h

/-! ## The whole diff -/

/-- What lies between the lines that two lists share at their ends. -/
def differing (xs ys : List String) : List String × List String :=
  let front := sharedPrefix xs ys
  let xs' := xs.drop front
  let ys' := ys.drop front
  let back := sharedPrefix xs'.reverse ys'.reverse
  (xs'.take (xs'.length - back), ys'.take (ys'.length - back))

/-- A diff keeps the shared ends, and has the steps for what lies between them. -/
theorem exists_ends (xs ys : List String) : ∃ front back : List String,
    xs = front ++ (differing xs ys).1 ++ back ∧ ys = front ++ (differing xs ys).2 ++ back ∧
      ofLines xs ys = ⟨(push (middle (differing xs ys).1 (differing xs ys).2 (push [] (.keep front.length)))
        (.keep back.length)).reverse⟩ := by
  let front := sharedPrefix xs ys
  let xs' := xs.drop front
  let ys' := ys.drop front
  let back := sharedPrefix xs'.reverse ys'.reverse
  have hfront : xs.take front = ys.take front := take_sharedPrefix xs ys
  have hback : xs'.drop (xs'.length - back) = ys'.drop (ys'.length - back) := drop_sharedSuffix xs' ys'
  have hfrontLength : (xs.take front).length = front :=
    List.length_take_of_le (sharedPrefix_le_left xs ys)
  have hbackLength : (xs'.drop (xs'.length - back)).length = back := by
    have := sharedPrefix_le_left xs'.reverse ys'.reverse
    rw [List.length_reverse] at this
    rw [List.length_drop]
    omega
  refine ⟨xs.take front, xs'.drop (xs'.length - back), ?_, ?_, ?_⟩
  · show xs = xs.take front ++ xs'.take (xs'.length - back) ++ xs'.drop (xs'.length - back)
    rw [List.append_assoc, List.take_append_drop, List.take_append_drop]
  · show ys = xs.take front ++ ys'.take (ys'.length - back) ++ xs'.drop (xs'.length - back)
    rw [hfront, hback, List.append_assoc, List.take_append_drop, List.take_append_drop]
  · rw [hfrontLength, hbackLength]
    rfl

theorem rebuilds_ofLines (xs ys : List String) : Rebuilds (ofLines xs ys).ops.reverse xs ys := by
  obtain ⟨front, back, hx, hy, hops⟩ := exists_ends xs ys
  have h := ((Rebuilds.nil.keep front).middle (differing xs ys).1 (differing xs ys).2).keep back
  rw [List.nil_append, ← hx, ← hy] at h
  rwa [hops, List.reverse_reverse]

/-- A diff whose steps rebuild the lines of a text makes this text. -/
theorem apply_of_rebuilds {d : Diff} {source target : String}
    (h : Rebuilds d.ops.reverse (Text.lines source) (Text.lines target)) : d.apply source = .ok target := by
  have htotal : 0 + ((Text.lines source).length + ([] : List String).length) = (Text.lines source).length := by simp
  have hreplay := h.replay [] [] [] htotal
  rw [List.reverse_reverse, List.append_nil, List.append_nil] at hreplay
  rw [apply, hreplay]
  simp [replay, Except.map, Text.join_lines]

/-- **A diff turns its source into its target.** -/
theorem apply_between (source target : String) : (between source target).apply source = .ok target :=
  apply_of_rebuilds (rebuilds_ofLines _ _)

end Mend.Diff
