import Mathlib.Data.List.Chain
import Mend.Proofs.Diff.Distance

/-!
# The normal form of a diff

Every step of a diff between two texts is about some line, and the step after it is of another kind
(`normal_ofLines`). Steps are only ever added by `push`, which joins a step with one of its kind and drops one that
does nothing (`Normal.push`), so that this holds wherever they come from: the shared ends, the walk and what is left
after it, or the one replacement of a middle that is too large to be walked.

In normal form, a diff that changes no line is one that only copies (`Normal.isIdentity_iff`), and the diff between two
texts only copies exactly if the texts are equal (`between_normal`).
-/

namespace Mend.Diff

/-- What a step does. -/
inductive Kind where
  | keep
  | delete
  | insert
  deriving DecidableEq

/-- What a step does with its lines. -/
def Op.kind : Op → Kind
  | .keep _ => .keep
  | .delete _ => .delete
  | .insert _ => .insert

/-- How many lines a step is about. -/
def Op.size : Op → Nat
  | .keep n => n
  | .delete n => n
  | .insert ls => ls.length

/-- Every step is about some line, and neighbours are of different kinds. -/
structure Normal (ops : List Op) : Prop where
  positive : ∀ op ∈ ops, 0 < op.size
  apart : ops.IsChain fun a b => a.kind ≠ b.kind

namespace Normal

variable {ops : List Op}

theorem nil : Normal [] := ⟨by simp, .nil⟩

theorem tail {op : Op} (h : Normal (op :: ops)) : Normal ops :=
  ⟨fun x hx => h.positive x (List.mem_cons_of_mem op hx), h.apart.tail⟩

/-- A step that is about some line may be added before one of another kind. -/
theorem cons {op : Op} (h : Normal ops) (hop : 0 < op.size) (hhead : ∀ a ∈ ops.head?, op.kind ≠ a.kind) :
    Normal (op :: ops) := by
  refine ⟨?_, h.apart.cons hhead⟩
  intro x hx
  rcases List.mem_cons.mp hx with rfl | hx
  · exact hop
  · exact h.positive x hx

/-- A step may grow. -/
theorem grow {op op' : Op} (h : Normal (op :: ops)) (hkind : op'.kind = op.kind) (hsize : op.size ≤ op'.size) :
    Normal (op' :: ops) := by
  refine h.tail.cons (Nat.lt_of_lt_of_le (h.positive op List.mem_cons_self) hsize) fun a ha => ?_
  rw [hkind]
  exact (List.isChain_cons.mp h.apart).1 a ha

theorem reverse (h : Normal ops) : Normal ops.reverse := by
  refine ⟨fun op hop => h.positive op (List.mem_reverse.mp hop), List.isChain_reverse.mpr ?_⟩
  exact h.apart.imp fun _ _ hne => hne.symm

/-! ## Building -/

/-- A step that is added does nothing, or is joined with one of its kind, or follows one of another kind. -/
theorem push (h : Normal ops) (op : Op) : Normal (Diff.push ops op) := by
  fun_cases Diff.push ops op with
  | case1 => exact h
  | case2 => exact h
  | case3 => exact h
  | case4 => exact h.grow rfl (Nat.le_add_right _ _)
  | case5 => exact h.grow rfl (Nat.le_add_right _ _)
  | case6 => exact h.grow rfl (by simp [Op.size])
  | case7 _ _ hkeep hdelete hinsert hkeeps hdeletes hinserts =>
    have hpositive : 0 < op.size := by
      cases op with
      | keep n => exact Nat.pos_of_ne_zero fun hn => hkeep (congrArg Op.keep hn)
      | delete n => exact Nat.pos_of_ne_zero fun hn => hdelete (congrArg Op.delete hn)
      | insert ls => exact List.length_pos_of_ne_nil fun hls => hinsert (congrArg Op.insert hls)
    refine h.cons hpositive fun a ha hkind => ?_
    have hops : ops = a :: ops.tail := List.eq_cons_of_mem_head? ha
    -- the last step would have been joined with a step of its own kind
    cases op <;> cases a <;> try contradiction
    · exact hkeeps _ _ _ hops rfl
    · exact hdeletes _ _ _ hops rfl
    · exact hinserts _ _ _ hops rfl

theorem walk (h : Normal ops) (xs ys : List String) (rows : List (List Nat)) : Normal (Diff.walk xs ys rows ops) := by
  induction xs, ys, rows, ops using Diff.walk.induct with
  | case1 ys _ ops =>
    rw [Diff.walk]
    exact h.push _
  | case2 x xs _ ops =>
    rw [Diff.walk]
    exact h.push _
  | case3 xs y ys rows ops ih =>
    rw [Diff.walk, if_pos rfl]
    exact ih (h.push _)
  | case4 x xs y ys rows ops hne down right =>
    rename_i hle ih
    rw [Diff.walk, if_neg hne, if_pos hle]
    exact ih (h.push _)
  | case5 x xs y ys rows ops hne down right =>
    rename_i hlt ih
    rw [Diff.walk, if_neg hne, if_neg hlt]
    simpa using ih (h.push _)

theorem middle (h : Normal ops) (xs ys : List String) : Normal (Diff.middle xs ys ops) := by
  unfold Diff.middle
  split
  · exact (h.push _).push _
  · exact h.walk xs ys _

end Normal

/-- The steps of a diff are in normal form. -/
theorem normal_ofLines (xs ys : List String) : Normal (ofLines xs ys).ops := by
  obtain ⟨front, back, -, -, hops⟩ := exists_ends xs ys
  rw [hops]
  exact (((Normal.nil.push _).middle _ _).push _).reverse

/-! ## Counting -/

/-- The stretches between kept lines count at least what is deleted in all of them, and what is inserted. -/
theorem le_countChanged (ops : List Op) (deleted inserted : Nat) :
    deleted + (ops.map Op.deleted).sum ≤ countChanged ops deleted inserted ∧
      inserted + (ops.map Op.inserted).sum ≤ countChanged ops deleted inserted := by
  induction ops generalizing deleted inserted with
  | nil =>
    simp only [countChanged, List.map_nil, List.sum_nil]
    omega
  | cons op ops ih =>
    cases op with
    | keep n =>
      have h := ih 0 0
      simp only [countChanged, List.map_cons, List.sum_cons, Op.deleted, Op.inserted]
      omega
    | delete n =>
      have h := ih (deleted + n) inserted
      simp only [countChanged, List.map_cons, List.sum_cons, Op.deleted, Op.inserted]
      omega
    | insert ls =>
      have h := ih deleted (inserted + ls.length)
      simp only [countChanged, List.map_cons, List.sum_cons, Op.deleted, Op.inserted]
      omega

/-- A diff changes at least the lines that it deletes, and at least those that it inserts. -/
theorem le_changedLines (d : Diff) : max d.deletedLines d.insertedLines ≤ d.changedLines := by
  obtain ⟨hdeleted, hinserted⟩ := le_countChanged d.ops 0 0
  rw [Nat.zero_add] at hdeleted hinserted
  exact Nat.max_le.mpr ⟨hdeleted, hinserted⟩

/-! ## Copying -/

theorem isIdentity_iff_kind (d : Diff) : d.isIdentity ↔ ∀ op ∈ d.ops, op.kind = .keep := by
  rw [isIdentity, List.all_eq_true]
  refine forall₂_congr fun op _ => ?_
  cases op <;> simp [Op.kind]

/-- Steps that only copy write what they read. -/
theorem Rebuilds.eq_of_kind {ops : List Op} {xs ys : List String} (h : Rebuilds ops xs ys)
    (hkind : ∀ op ∈ ops, op.kind = .keep) : xs = ys := by
  induction h with
  | nil => rfl
  | consKeep ls _ ih => rw [ih fun op hop => hkind op (List.mem_cons_of_mem _ hop)]
  | consDelete ls _ ih => exact absurd (hkind _ List.mem_cons_self) (by simp [Op.kind])
  | consInsert ls _ ih => exact absurd (hkind _ List.mem_cons_self) (by simp [Op.kind])

theorem changedLines_eq_zero_iff (d : Diff) :
    d.changedLines = 0 ↔ ∀ op ∈ d.ops, op.deleted = 0 ∧ op.inserted = 0 := by
  have hsum (f : Op → Nat) : (d.ops.map f).sum = 0 ↔ ∀ op ∈ d.ops, f op = 0 := by
    rw [List.sum_eq_zero_iff_forall_eq_nat, List.forall_mem_map]
  have hdeleted : d.deletedLines = 0 ↔ ∀ op ∈ d.ops, op.deleted = 0 := hsum Op.deleted
  have hinserted : d.insertedLines = 0 ↔ ∀ op ∈ d.ops, op.inserted = 0 := hsum Op.inserted
  have hle := le_changedLines d
  have hge := changedLines_le d
  calc d.changedLines = 0
    _ ↔ d.deletedLines = 0 ∧ d.insertedLines = 0 := by omega
    _ ↔ ∀ op ∈ d.ops, op.deleted = 0 ∧ op.inserted = 0 := by rw [hdeleted, hinserted, forall₂_and]

/-- In normal form, the diffs that change no line are those that only copy. -/
theorem Normal.isIdentity_iff {d : Diff} (h : Normal d.ops) : d.isIdentity ↔ d.changedLines = 0 := by
  rw [isIdentity_iff_kind, changedLines_eq_zero_iff]
  refine forall₂_congr fun op hop => ?_
  have hpositive := h.positive op hop
  cases op with
  | keep n => simp [Op.kind, Op.deleted, Op.inserted]
  | delete n =>
    rw [Op.size] at hpositive
    simp [Op.kind, Op.deleted, Op.inserted, Nat.ne_of_gt hpositive]
  | insert ls =>
    rw [Op.size] at hpositive
    simp [Op.kind, Op.deleted, Op.inserted, List.ne_nil_of_length_pos hpositive]

/-- The diff between equal lists of lines changes nothing. -/
theorem changedLines_self (xs : List String) : (ofLines xs xs).changedLines = 0 := by
  obtain ⟨front, back, -, -, hops⟩ := exists_ends xs xs
  have hlength := @length_differing_le xs [] [] [] (Nat.le_refl 0)
  rw [List.append_nil, List.append_nil] at hlength
  have hleft : (differing xs xs).1 = [] := List.eq_nil_of_length_eq_zero (Nat.le_zero.mp hlength.1)
  have hright : (differing xs xs).2 = [] := List.eq_nil_of_length_eq_zero (Nat.le_zero.mp hlength.2)
  rw [hops, hleft, hright, middle, if_pos (by simp), changedLines_replacement]
  rfl

/-- Texts are equal exactly if the diff between them changes no line. -/
theorem eq_iff_changedLines (source target : String) :
    source = target ↔ (between source target).changedLines = 0 := by
  constructor
  · rintro rfl
    exact changedLines_self _
  · intro hchanged
    have hidentity := (normal_ofLines (Text.lines source) (Text.lines target)).isIdentity_iff.mpr hchanged
    have hlines : Text.lines source = Text.lines target := by
      refine (rebuilds_ofLines _ _).eq_of_kind fun op hop => ?_
      exact (isIdentity_iff_kind _).mp hidentity op (List.mem_reverse.mp hop)
    rw [← Text.join_lines source, hlines, Text.join_lines]

/-- **A diff is in normal form, and one that copies is known as such.** No step of the diff between two texts is
empty, and no two neighbours are of one kind. What is kept and deleted are the source lines, and what is kept and
inserted the target lines. At least as many lines are changed as are deleted, and as are inserted, and at most as many
as both together. The texts are equal exactly if every step copies, which is so exactly if no line is changed. -/
theorem between_normal (source target : String) :
    Normal (between source target).ops ∧
      (between source target).keptLines + (between source target).deletedLines = (Text.lines source).length ∧
      (between source target).keptLines + (between source target).insertedLines = (Text.lines target).length ∧
      max (between source target).deletedLines (between source target).insertedLines ≤
        (between source target).changedLines ∧
      (between source target).changedLines ≤
        (between source target).deletedLines + (between source target).insertedLines ∧
      (source = target ↔ (between source target).isIdentity) ∧
      ((between source target).isIdentity ↔ (between source target).changedLines = 0) := by
  have hnormal : Normal (between source target).ops := normal_ofLines _ _
  obtain ⟨hsource, htarget⟩ := lengths_ofLines (Text.lines source) (Text.lines target)
  exact ⟨hnormal, hsource, htarget, le_changedLines _, changedLines_le _,
    (eq_iff_changedLines source target).trans hnormal.isIdentity_iff.symm, hnormal.isIdentity_iff⟩

end Mend.Diff
