import Mathlib.Algebra.GroupWithZero.Nat
import Mathlib.Data.List.Basic
import Mend.Proofs.Diff.Replay
import Mend.Proofs.Text.Lines

/-!
# Diffs are minimal

A diff keeps a longest list of lines that both texts have in this order, unless the lines between their shared ends are
too many for the table (`between_minimal`). No diff with the same effect stores fewer lines then.

The table holds the lengths of the longest common lists of all pairs of suffixes (`table_eq`), and the walk keeps as
many lines as the first entry says (`kept_walk`). Shared ends belong to a longest common list in any case
(`lcsLength_append_left`, `lcsLength_append_right`). On the other side, a script of any kind writes each line of its
target as a line of its source, or spends a line of what it inserts on it (`covers_of_replay`).
-/

namespace Mend.Diff

/-! ## Longest common lists -/

section

variable {α : Type} {xs ys zs : List α}

/-- Both lists have the elements of `zs` in this order, and there is no longer list of this kind. -/
structure Longest (zs xs ys : List α) : Prop where
  left : zs.Sublist xs
  right : zs.Sublist ys
  longest : ∀ ws : List α, ws.Sublist xs → ws.Sublist ys → ws.length ≤ zs.length

theorem Longest.reverse (h : Longest zs xs ys) : Longest zs.reverse xs.reverse ys.reverse where
  left := h.left.reverse
  right := h.right.reverse
  longest ws hx hy := by
    have hle := h.longest ws.reverse (List.reverse_sublist.mp (by simpa using hx)) (List.reverse_sublist.mp (by simpa using hy))
    simpa using hle

variable [DecidableEq α]

@[simp] theorem lcsLength_nil_left (ys : List α) : lcsLength [] ys = 0 := by rw [lcsLength]

@[simp] theorem lcsLength_nil_right (xs : List α) : lcsLength xs [] = 0 := by cases xs <;> rw [lcsLength]

theorem length_le_lcsLength (hx : zs.Sublist xs) (hy : zs.Sublist ys) : zs.length ≤ lcsLength xs ys := by
  induction xs, ys using lcsLength.induct generalizing zs with
  | case1 ys => simp [List.sublist_nil.mp hx]
  | case2 x xs => simp [List.sublist_nil.mp hy]
  | case3 xs x ys ih =>
    rw [lcsLength, if_pos rfl]
    have htail := ih hx.tail hy.tail
    rw [List.length_tail] at htail
    omega
  | case4 x xs y ys hne ihx ihy =>
    rw [lcsLength, if_neg hne]
    rcases List.sublist_cons_iff.mp hx with hx' | ⟨r, rfl, -⟩
    · exact Nat.le_trans (ihx hx' hy) (Nat.le_max_left _ _)
    rcases List.sublist_cons_iff.mp hy with hy' | ⟨s, hs, -⟩
    · exact Nat.le_trans (ihy hx hy') (Nat.le_max_right _ _)
    · exact absurd (List.cons.inj hs).1 hne

theorem exists_common (xs ys : List α) :
    ∃ zs : List α, zs.Sublist xs ∧ zs.Sublist ys ∧ zs.length = lcsLength xs ys := by
  induction xs, ys using lcsLength.induct with
  | case1 ys => exact ⟨[], .refl _, List.nil_sublist _, by simp⟩
  | case2 x xs => exact ⟨[], List.nil_sublist _, .refl _, by simp⟩
  | case3 xs x ys ih =>
    obtain ⟨zs, hx, hy, hlength⟩ := ih
    exact ⟨x :: zs, hx.cons_cons x, hy.cons_cons x, by rw [lcsLength, if_pos rfl, List.length_cons, hlength]⟩
  | case4 x xs y ys hne ihx ihy =>
    rw [lcsLength, if_neg hne]
    rcases Nat.le_total (lcsLength (x :: xs) ys) (lcsLength xs (y :: ys)) with hle | hle
    · obtain ⟨zs, hx, hy, hlength⟩ := ihx
      exact ⟨zs, hx.cons x, hy, by rw [Nat.max_eq_left hle, hlength]⟩
    · obtain ⟨zs, hx, hy, hlength⟩ := ihy
      exact ⟨zs, hx, hy.cons y, by rw [Nat.max_eq_right hle, hlength]⟩

theorem Longest.length_eq (h : Longest zs xs ys) : zs.length = lcsLength xs ys := by
  obtain ⟨ws, hx, hy, hlength⟩ := exists_common xs ys
  exact Nat.le_antisymm (length_le_lcsLength h.left h.right) (hlength ▸ h.longest ws hx hy)

theorem exists_longest (xs ys : List α) : ∃ zs : List α, Longest zs xs ys := by
  obtain ⟨zs, hx, hy, hlength⟩ := exists_common xs ys
  exact ⟨zs, hx, hy, fun ws hx' hy' => hlength ▸ length_le_lcsLength hx' hy'⟩

theorem lcsLength_reverse (xs ys : List α) : lcsLength xs.reverse ys.reverse = lcsLength xs ys := by
  obtain ⟨zs, h⟩ := exists_longest xs ys
  rw [← h.length_eq, ← h.reverse.length_eq, List.length_reverse]

/-- What both lists begin with is a part of a longest common list. -/
theorem lcsLength_append_left (ps xs ys : List α) : lcsLength (ps ++ xs) (ps ++ ys) = ps.length + lcsLength xs ys := by
  induction ps with
  | nil => simp
  | cons p ps ih =>
    rw [List.cons_append, List.cons_append, lcsLength, if_pos rfl, ih, List.length_cons]
    omega

/-- And so is what both lists end in. -/
theorem lcsLength_append_right (xs ys ss : List α) : lcsLength (xs ++ ss) (ys ++ ss) = lcsLength xs ys + ss.length := by
  rw [← lcsLength_reverse, List.reverse_append, List.reverse_append, lcsLength_append_left, lcsLength_reverse,
    List.length_reverse, Nat.add_comm]

/-! ## The table -/

/-- The lengths for a list and all suffixes of another one. -/
def lengths (xs ys : List α) : List Nat := ys.tails.map (lcsLength xs)

/-- The lengths for all pairs of suffixes. -/
def grid (xs ys : List α) : List (List Nat) := xs.tails.map fun suffix => lengths suffix ys

theorem lengths_cons (xs : List α) (y : α) (ys : List α) : lengths xs (y :: ys) = lcsLength xs (y :: ys) :: lengths xs ys :=
  rfl

theorem headD_lengths (xs ys : List α) : (lengths xs ys).headD 0 = lcsLength xs ys := by
  cases ys <;> rfl

theorem headD_grid (xs ys : List α) : (grid xs ys).headD [] = lengths xs ys := by
  cases xs <;> rfl

theorem tail_grid (x : α) (xs ys : List α) : (grid (x :: xs) ys).tail = grid xs ys := rfl

theorem map_tail_grid (xs : List α) (y : α) (ys : List α) : (grid xs (y :: ys)).map List.tail = grid xs ys := by
  rw [grid, List.map_map]
  rfl

/-- The entry below the first one. -/
theorem down_grid (x : α) (xs ys : List α) : ((grid (x :: xs) ys).tail.headD []).headD 0 = lcsLength xs ys := by
  rw [tail_grid, headD_grid, headD_lengths]

/-- The entry to the right of the first one. -/
theorem right_grid (xs : List α) (y : α) (ys : List α) :
    ((grid xs (y :: ys)).headD []).tail.headD 0 = lcsLength xs ys := by
  rw [headD_grid, lengths_cons, List.tail_cons, headD_lengths]

theorem row_eq (x : α) (xs ys : List α) : row x ys (lengths xs ys) = lengths (x :: xs) ys := by
  induction ys with
  | nil => simp [row, lengths]
  | cons y ys ih =>
    obtain ⟨more, hmore⟩ : ∃ more, lengths xs ys = lcsLength xs ys :: more := by
      cases ys <;> exact ⟨_, rfl⟩
    have hright : (row x ys (lengths xs ys)).headD 0 = lcsLength (x :: xs) ys := by rw [ih, headD_lengths]
    rw [lengths_cons, lengths_cons, ← ih, lcsLength, ← hright]
    rw [row, hmore]
    rfl

theorem table_eq (xs ys : List α) : table xs ys = grid xs ys := by
  induction xs with
  | nil =>
    have hzero : ∀ ys : List α, List.replicate (ys.length + 1) 0 = lengths [] ys := by
      intro ys
      induction ys with
      | nil => simp [lengths]
      | cons y ys ih => rw [List.length_cons, List.replicate_succ, ih, lengths_cons, lcsLength_nil_left]
    exact congrArg (· :: []) (hzero ys)
  | cons x xs ih =>
    show row x ys ((table xs ys).headD []) :: table xs ys = lengths (x :: xs) ys :: grid xs ys
    rw [ih, headD_grid, row_eq]

end

/-! ## What is kept -/

/-- How many source lines a step copies. -/
def Op.kept : Op → Nat
  | .keep n => n
  | .delete _ => 0
  | .insert _ => 0

/-- How many source lines are copied. -/
def keptLines (d : Diff) : Nat := (d.ops.map Op.kept).foldr (· + ·) 0

/-- How many lines the steps copy. -/
def kept (ops : List Op) : Nat := (ops.map Op.kept).sum

@[simp] theorem kept_nil : kept [] = 0 := rfl

@[simp] theorem kept_cons (op : Op) (ops : List Op) : kept (op :: ops) = op.kept + kept ops := rfl

theorem kept_reverse (ops : List Op) : kept ops.reverse = kept ops := by
  rw [kept, List.map_reverse, List.sum_reverse, kept]

theorem kept_push (ops : List Op) (op : Op) : kept (push ops op) = kept ops + op.kept := by
  unfold push
  split
  all_goals simp [Op.kept] <;> omega

/-- The walk keeps as many lines as the table promises. -/
theorem kept_walk {xs ys : List String} {rows : List (List Nat)} {acc : List Op} (hrows : rows = grid xs ys) :
    kept (walk xs ys rows acc) = kept acc + lcsLength xs ys := by
  induction xs, ys, rows, acc using walk.induct with
  | case1 ys rows acc => rw [walk, kept_push, lcsLength_nil_left, Op.kept]
  | case2 x xs rows acc => rw [walk, kept_push, lcsLength_nil_right, Op.kept]
  | case3 x xs ys rows acc ih =>
    subst hrows
    rw [walk, if_pos rfl, ih (by rw [tail_grid, map_tail_grid]), kept_push, lcsLength, if_pos rfl, Op.kept]
    omega
  | case4 x xs y ys rows acc hne down right =>
    rename_i hle ih
    subst hrows
    have hdown : down = lcsLength xs (y :: ys) := down_grid x xs (y :: ys)
    have hright : right = lcsLength (x :: xs) ys := right_grid (x :: xs) y ys
    rw [walk, if_neg hne, if_pos hle, ih (tail_grid x xs _), kept_push, lcsLength, if_neg hne, Op.kept]
    omega
  | case5 x xs y ys rows acc hne down right =>
    rename_i hlt ih
    subst hrows
    have hdown : down = lcsLength xs (y :: ys) := down_grid x xs (y :: ys)
    have hright : right = lcsLength (x :: xs) ys := right_grid (x :: xs) y ys
    rw [walk, if_neg hne, if_neg hlt]
    simp only [List.map_subtype, List.unattach_attach] at ih
    rw [ih (map_tail_grid _ y ys), kept_push, lcsLength, if_neg hne, Op.kept]
    omega

/-- The table for the lines between the shared ends is not too large. -/
def Fits (xs ys : List String) : Prop :=
  ((differing xs ys).1.length + 1) * ((differing xs ys).2.length + 1) ≤ maxCells

instance (xs ys : List String) : Decidable (Fits xs ys) := inferInstanceAs (Decidable (_ ≤ _))

theorem kept_middle {xs ys : List String} {acc : List Op} (hfits : (xs.length + 1) * (ys.length + 1) ≤ maxCells) :
    kept (middle xs ys acc) = kept acc + lcsLength xs ys := by
  rw [middle]
  split
  · next hempty =>
    simp only [Bool.or_eq_true, List.isEmpty_iff, decide_eq_true_eq] at hempty
    rw [kept_push, kept_push, Op.kept, Op.kept]
    rcases hempty with (rfl | rfl) | hlarge
    · rw [lcsLength_nil_left]
    · rw [lcsLength_nil_right]
    · omega
  · exact kept_walk (table_eq xs ys)

theorem keptLines_ofLines {xs ys : List String} (hfits : Fits xs ys) : (ofLines xs ys).keptLines = lcsLength xs ys := by
  obtain ⟨front, back, hx, hy, hops⟩ := exists_ends xs ys
  have hends : lcsLength xs ys = front.length + lcsLength (differing xs ys).1 (differing xs ys).2 + back.length := by
    rw [← lcsLength_append_left, ← lcsLength_append_right, ← hx, ← hy]
  rw [hops, hends]
  show kept _ = _
  rw [kept_reverse, kept_push, kept_middle hfits, kept_push, kept_nil, Op.kept, Op.kept, Nat.zero_add]

/-- The source lines are copied or deleted, and the target lines copied or inserted. -/
theorem Rebuilds.lengths {ops : List Op} {xs ys : List String} (h : Rebuilds ops xs ys) :
    kept ops + (ops.map Op.deleted).sum = xs.length ∧ kept ops + (ops.map Op.inserted).sum = ys.length := by
  induction h with
  | nil => exact ⟨rfl, rfl⟩
  | consKeep ls h ih =>
    simp only [kept_cons, List.map_cons, List.sum_cons, List.length_append, Op.kept, Op.deleted, Op.inserted]
    omega
  | consDelete ls h ih =>
    simp only [kept_cons, List.map_cons, List.sum_cons, List.length_append, Op.kept, Op.deleted, Op.inserted]
    omega
  | consInsert ls h ih =>
    simp only [kept_cons, List.map_cons, List.sum_cons, List.length_append, Op.kept, Op.deleted, Op.inserted]
    omega

theorem lengths_ofLines (xs ys : List String) :
    (ofLines xs ys).keptLines + (ofLines xs ys).deletedLines = xs.length ∧
      (ofLines xs ys).keptLines + (ofLines xs ys).insertedLines = ys.length := by
  have h := (rebuilds_ofLines xs ys).lengths
  rw [kept_reverse, List.map_reverse, List.map_reverse, List.sum_reverse, List.sum_reverse] at h
  exact h

/-! ## What any script stores -/

/-- How many lines are stored in a step. -/
def Op.stored : Op → Nat
  | .insert ls => (ls.map fun l => (Text.lines l).length).sum
  | .keep _ => 0
  | .delete _ => 0

/-- How many lines are stored in a script, however they are cut. -/
def storedLines (d : Diff) : Nat := (d.ops.map Op.stored).sum

/-- What the script inserts is cut into lines. -/
def InsertsLines (d : Diff) : Prop := ∀ ls, .insert ls ∈ d.ops → ∀ l ∈ ls, Text.lines l = [l]

theorem storedLines_eq {d : Diff} (h : d.InsertsLines) : d.storedLines = d.insertedLines := by
  have hop : ∀ op ∈ d.ops, op.stored = op.inserted := by
    intro op hop
    cases op with
    | keep n => rfl
    | delete n => rfl
    | insert ls =>
      have hone : (ls.map fun l => (Text.lines l).length) = ls.map fun _ => 1 :=
        List.map_congr_left fun l hl => by rw [h ls hop l hl, List.length_singleton]
      rw [Op.stored, Op.inserted, hone]
      simp
  rw [storedLines, List.map_congr_left hop]
  rfl

/-- All lines of the text but for `k` of them are lines of `xs`, in this order. -/
def Covers (k : Nat) (xs : List String) (text : String) : Prop :=
  ∃ zs : List String, zs.Sublist xs ∧ zs.Sublist (Text.lines text) ∧ (Text.lines text).length ≤ zs.length + k

section

variable {k : Nat} {xs : List String} {t : String}

theorem Covers.drop (h : Covers k xs t) (ls : List String) : Covers k (ls ++ xs) t := by
  obtain ⟨zs, hx, ht, hlength⟩ := h
  exact ⟨zs, hx.trans (List.sublist_append_right _ _), ht, hlength⟩

theorem Covers.keep {l : String} (h : Covers k xs t) (hl : Text.Lined (l :: xs)) : Covers k (l :: xs) (l ++ t) := by
  obtain ⟨zs, hx, ht, hlength⟩ := h
  cases hl with
  | cons hl _ =>
    have hlines := Text.lines_append_of_terminated hl t
    exact ⟨l :: zs, hx.cons_cons l, hlines ▸ ht.cons_cons l, by rw [hlines, List.length_cons, List.length_cons]; omega⟩
  | last hl =>
    -- nothing of the source follows, so that a line of `t` that is joined to this one was stored
    obtain rfl := List.sublist_nil.mp hx
    rcases Text.lines_append_cases l t with hlines | ⟨init, m, n, rest, hm, hn, hlines⟩
    · rw [Text.lines_of_loose hl] at hlines
      refine ⟨[l], .refl _, ?_, ?_⟩
      · rw [hlines]
        exact List.sublist_append_left _ _
      · rw [hlines, List.length_append]
        simp only [List.length_singleton, List.length_nil] at hlength ⊢
        omega
    · rw [Text.lines_of_loose hl] at hm
      have hinit : init.length = 0 := by
        have := congrArg List.length hm
        simp only [List.length_append, List.length_singleton] at this
        omega
      refine ⟨[], List.nil_sublist _, List.nil_sublist _, ?_⟩
      rw [hn] at hlength
      rw [hlines, List.length_append, hinit, List.length_cons]
      simpa using hlength

theorem Covers.insert (h : Covers k xs t) (u : String) : Covers ((Text.lines u).length + k) xs (u ++ t) := by
  obtain ⟨zs, hx, ht, hlength⟩ := h
  rcases Text.lines_append_cases u t with hlines | ⟨init, m, n, rest, hm, hn, hlines⟩
  · refine ⟨zs, hx, ?_, ?_⟩
    · rw [hlines]
      exact ht.trans (List.sublist_append_right _ _)
    · rw [hlines, List.length_append]
      omega
  · -- the line that the two texts share may have been the first one of `zs`
    refine ⟨zs.tail, (List.tail_sublist zs).trans hx, ?_, ?_⟩
    · rw [hn] at ht
      rw [hlines]
      exact (ht.tail.trans (List.sublist_cons_self _ _)).trans (List.sublist_append_right _ _)
    · rw [hn, List.length_cons] at hlength
      rw [hlines, hm, List.length_append, List.length_append, List.length_cons, List.length_tail, List.length_singleton]
      omega

theorem Covers.keepAll {ls : List String} (h : Covers k xs t) (hls : Text.Lined (ls ++ xs)) :
    Covers k (ls ++ xs) (String.join ls ++ t) := by
  induction ls with
  | nil => simpa using h
  | cons l ls ih =>
    rw [String.join_cons, String.append_assoc]
    exact (ih (@Text.Lined.of_append [l] _ hls)).keep hls

theorem Covers.insertAll (h : Covers k xs t) (us : List String) :
    Covers ((us.map fun u => (Text.lines u).length).sum + k) xs (String.join us ++ t) := by
  induction us with
  | nil => simpa using h
  | cons u us ih =>
    rw [String.join_cons, String.append_assoc, List.map_cons, List.sum_cons, Nat.add_assoc]
    exact ih.insert u

end

/-- What a script writes are lines of its source, but for those that it stores. -/
theorem covers_of_replay {total cursor : Nat} {ops : List Op} {rest acc out : List String}
    (h : replay total ops cursor rest acc = .ok out) (hrest : Text.Lined rest) (htotal : cursor + rest.length = total) :
    ∃ more, out = acc.reverse ++ more ∧ Covers (ops.map Op.stored).sum rest (String.join more) := by
  induction ops generalizing cursor rest acc with
  | nil =>
    rw [replay] at h
    split at h
    · obtain rfl := Except.ok.inj h
      exact ⟨[], by simp, [], List.nil_sublist _, List.nil_sublist _, by simp⟩
    · cases h
  | cons op ops ih =>
    cases op with
    | keep n =>
      rw [replay] at h
      split at h
      · cases h
      have hdrop : Text.Lined (rest.take n ++ rest.drop n) := by rwa [List.take_append_drop]
      obtain ⟨more, hout, hcovers⟩ := ih h hdrop.of_append (by rw [List.length_drop]; omega)
      refine ⟨rest.take n ++ more, by simp [hout], ?_⟩
      have hkept := hcovers.keepAll hdrop
      rw [List.take_append_drop, ← String.join_append] at hkept
      rwa [List.map_cons, List.sum_cons, Op.stored, Nat.zero_add]
    | delete n =>
      rw [replay] at h
      split at h
      · cases h
      have hdrop : Text.Lined (rest.take n ++ rest.drop n) := by rwa [List.take_append_drop]
      obtain ⟨more, hout, hcovers⟩ := ih h hdrop.of_append (by rw [List.length_drop]; omega)
      refine ⟨more, hout, ?_⟩
      have hdropped := hcovers.drop (rest.take n)
      rw [List.take_append_drop] at hdropped
      rwa [List.map_cons, List.sum_cons, Op.stored, Nat.zero_add]
    | insert ls =>
      rw [replay] at h
      obtain ⟨more, hout, hcovers⟩ := ih h hrest htotal
      refine ⟨ls ++ more, by simp [hout], ?_⟩
      rw [String.join_append, List.map_cons, List.sum_cons, Op.stored]
      exact hcovers.insertAll ls

theorem covers_of_apply {d : Diff} {source target : String} (h : d.apply source = .ok target) :
    Covers d.storedLines (Text.lines source) target := by
  rw [apply] at h
  cases hreplay : replay (Text.lines source).length d.ops 0 (Text.lines source) [] with
  | error e => rw [hreplay] at h; cases h
  | ok out =>
    rw [hreplay] at h
    obtain rfl := Except.ok.inj h
    obtain ⟨more, rfl, hcovers⟩ := covers_of_replay hreplay (Text.lined_lines source) (Nat.zero_add _)
    exact hcovers

/-! ## The whole -/

/-- **Diffs are minimal.** If the table is not too large, the lines that are kept are as many as those of a longest list
that both texts have in this order. All other lines of the source are deleted, and all other lines of the target inserted;
no script that turns the one text into the other stores fewer lines. -/
theorem between_minimal {source target : String} (hfits : Fits (Text.lines source) (Text.lines target)) :
    ∃ common, Longest common (Text.lines source) (Text.lines target) ∧
      (between source target).keptLines = common.length ∧
      (between source target).deletedLines + common.length = (Text.lines source).length ∧
      (between source target).insertedLines + common.length = (Text.lines target).length ∧
      ∀ d : Diff, d.apply source = .ok target →
        (between source target).insertedLines ≤ d.storedLines ∧
          (d.InsertsLines → (between source target).insertedLines ≤ d.insertedLines) := by
  obtain ⟨common, hlongest⟩ := exists_longest (Text.lines source) (Text.lines target)
  have hkept : (between source target).keptLines = common.length := by
    rw [hlongest.length_eq]
    exact keptLines_ofLines hfits
  obtain ⟨hdeleted, hinserted⟩ : (between source target).keptLines + (between source target).deletedLines = _ ∧
    (between source target).keptLines + (between source target).insertedLines = _ := lengths_ofLines _ _
  rw [hkept] at hdeleted hinserted
  have hstored {d : Diff} (hd : d.apply source = .ok target) : (between source target).insertedLines ≤ d.storedLines := by
    obtain ⟨zs, hx, ht, hlength⟩ := covers_of_apply hd
    have hle := hlongest.longest zs hx ht
    omega
  exact ⟨common, hlongest, hkept, by omega, by omega,
    fun d hd => ⟨hstored hd, fun hlines => storedLines_eq hlines ▸ hstored hd⟩⟩

/-- Seven lines and six lines that share no end and have four lines in common. -/
theorem between_minimal_letters :
    Fits (Text.lines "a\nb\nc\na\nb\nb\na\n") (Text.lines "c\nb\na\nb\na\nc\n") ∧
      (∀ ws : List String, ws.Sublist (Text.lines "a\nb\nc\na\nb\nb\na\n") →
        ws.Sublist (Text.lines "c\nb\na\nb\na\nc\n") → ws.length ≤ 4) ∧
      ∀ d : Diff, d.apply "a\nb\nc\na\nb\nb\na\n" = .ok "c\nb\na\nb\na\nc\n" → 2 ≤ d.storedLines := by
  have hfits : Fits (Text.lines "a\nb\nc\na\nb\nb\na\n") (Text.lines "c\nb\na\nb\na\nc\n") := by decide +kernel
  have hkept : (between "a\nb\nc\na\nb\nb\na\n" "c\nb\na\nb\na\nc\n").keptLines = 4 := by decide +kernel
  have hinserted : (between "a\nb\nc\na\nb\nb\na\n" "c\nb\na\nb\na\nc\n").insertedLines = 2 := by decide +kernel
  obtain ⟨common, hlongest, hcommon, -, -, hscripts⟩ := between_minimal hfits
  exact ⟨hfits, fun ws hx hy => hkept ▸ hcommon ▸ hlongest.longest ws hx hy, fun d hd => hinserted ▸ (hscripts d hd).1⟩

end Mend.Diff
