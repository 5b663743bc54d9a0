import Mend.Proofs.Text.Lines
import Mend.Recipe.Basic

/-!
# Repairs of one line

A recipe that is for a line makes its patch from that line alone: it has a patch for a text when it has an edit of
the line of the issue, and the patch puts the edited line in the place of the line (`patch_of_line`).
-/

namespace Mend

variable {file : RelPath} {content raw : String} {line : Count} {before after : List String}
  {edit : String → Except Patch.Error (Option String)}

/-- A number of a line leads to that line. -/
theorem exists_line {ls : List String} {n : Nat} (h : n ≠ 0) (hle : n ≤ ls.length) :
    ∃ first raw mid, ls = first ++ raw :: mid ∧ n = first.length + 1 := by
  obtain ⟨k, rfl⟩ := Nat.exists_eq_succ_of_ne_zero h
  refine ⟨ls.take k, ls[k], ls.drop (k + 1), ?_, ?_⟩
  · rw [← List.drop_eq_getElem_cons hle, List.take_append_drop]
  · rw [List.length_take, Nat.min_eq_left (Nat.le_of_succ_le hle)]

theorem editLine_of_lines (hlines : Text.lines content = before ++ raw :: after)
    (hline : line.toNat = before.length + 1) :
    editLine file content line edit =
      match edit (Text.body raw) with
      | .error e => .error e
      | .ok body => .ok (String.join (before ++ replaceBody raw body :: after)) := by
  have hraw : (before ++ raw :: after)[before.length]? = some raw := by simp
  have htake : (before ++ raw :: after).take before.length = before := by simp
  have hdrop : (before ++ raw :: after).drop (before.length + 1) = after := by simp
  cases hedit : edit (Text.body raw) <;> simp only [editLine, hlines, hline, hraw, htake, hdrop, hedit]

/-- The text has no line of this number. -/
theorem editLine_outOfRange (h : line.toNat = 0 ∨ (Text.lines content).length < line.toNat) :
    editLine file content line edit = .error (.lineOutOfRange file line (Text.lines content).length) := by
  rw [editLine]
  cases hline : line.toNat with
  | zero => rfl
  | succ k =>
    have hnone : (Text.lines content)[k]? = none := List.getElem?_eq_none (by omega)
    simp only [hnone]

/-- An edit that is carried out is one of a line that the text has. -/
theorem editLine_ok {made : String} (h : editLine file content line edit = .ok made) :
    ∃ before raw after body, Text.lines content = before ++ raw :: after ∧ line.toNat = before.length + 1 ∧
      edit (Text.body raw) = .ok body ∧ made = String.join (before ++ replaceBody raw body :: after) := by
  by_cases hline : line.toNat = 0 ∨ (Text.lines content).length < line.toNat
  · rw [editLine_outOfRange hline] at h
    cases h
  rw [not_or, Nat.not_lt] at hline
  obtain ⟨before, raw, after, hlines, hbefore⟩ := exists_line hline.1 hline.2
  rw [editLine_of_lines hlines hbefore] at h
  split at h
  · cases h
  next body hedit => exact ⟨before, raw, after, body, hlines, hbefore, hedit, (Except.ok.inj h).symm⟩

namespace Recipe

/-- What a recipe makes of a line: the line that takes its place, which is empty if the line is to be removed. A
line that would stay as it is has no edit. -/
def lineEdit (r : Recipe) (i : Issue) (raw : String) : Except Patch.Error String :=
  match r.editBody i (Text.body raw) with
  | .error e => .error e
  | .ok body => if replaceBody raw body = raw then .error (.noChange i.file) else .ok (replaceBody raw body)

variable {r : Recipe} {i : Issue} {files : Files}

/-- A recipe that is not for whole files has a line for its span. -/
theorem span_of_line (h : r.wholeFile? = none) (i : Issue) : r.span i = .line i.line := by
  cases r with
  | trimBlanks | removeLine => rfl
  | substitution s =>
    rw [Recipe.wholeFile?] at h
    rw [Recipe.span]
    split at h
    · cases h
    · next hscope => rw [if_neg hscope]

/-- A patch replaces a content that was read by another one that the recipe made of it. -/
theorem patch_ok {p : Patch} (h : r.patch i files = .ok p) :
    ∃ content, files i.file = .ok content ∧ p.file = i.file ∧ p.before = Digest.content content.toUTF8 ∧
      p.after ≠ content ∧ r.newContent i content = .ok p.after := by
  rw [patch] at h
  split at h
  · cases h
  next content hread =>
  split at h
  · cases h
  next made hmade =>
  rw [Patch.replace] at h
  split at h
  · cases h
  next hne =>
  obtain rfl := Except.ok.inj h
  exact ⟨content, hread, rfl, rfl, Ne.symm hne, hmade⟩

/-- No line is at fault for a recipe. -/
theorem lineEdit_error {e : Patch.Error} (h : r.lineEdit i raw = .error e) (id : String) (f : Fault) :
    e ≠ .invalidRecipe id f := by
  rintro rfl
  rw [lineEdit] at h
  split at h
  · next hedit =>
    cases h
    cases r with
    | trimBlanks => cases hedit
    | removeLine | substitution =>
      rw [editBody] at hedit
      split at hedit <;> cases hedit
  · split at h <;> cases h

/-- The content changes with the line. -/
theorem join_ne_of_ne {edited : String} (hlines : Text.lines content = before ++ raw :: after) (h : edited ≠ raw) :
    content ≠ String.join (before ++ edited :: after) := by
  intro hsame
  rw [← Text.join_lines content, hlines] at hsame
  simp only [String.join_append, String.join_cons, String.append_right_inj, String.append_left_inj] at hsame
  exact h hsame.symm

/-- The patch of a recipe that is for a line. -/
theorem patch_of_line (hscope : r.wholeFile? = none) (hread : files i.file = .ok content)
    (hlines : Text.lines content = before ++ raw :: after) (hline : i.line.toNat = before.length + 1) :
    r.patch i files =
      match r.lineEdit i raw with
      | .error e => .error e
      | .ok edited =>
        let made := String.join (before ++ edited :: after)
        .ok ⟨i.file, Digest.content content.toUTF8, made,
          Count.ofNatClamped (Diff.between content made).changedLines⟩ := by
  simp only [patch, hread, newContent, hscope, editLine_of_lines hlines hline, lineEdit]
  cases r.editBody i (Text.body raw) with
  | error e => rfl
  | ok body =>
    by_cases hsame : replaceBody raw body = raw
    · have hcontent : String.join (before ++ raw :: after) = content := by rw [← hlines, Text.join_lines]
      simp only [hsame, hcontent, Patch.replace, ↓reduceIte]
    · simp only [hsame, Patch.replace, join_ne_of_ne hlines hsame, ↓reduceIte]

theorem patch_outOfRange (hscope : r.wholeFile? = none) (hread : files i.file = .ok content)
    (h : i.line.toNat = 0 ∨ (Text.lines content).length < i.line.toNat) :
    r.patch i files = .error (.lineOutOfRange i.file i.line (Text.lines content).length) := by
  simp only [patch, hread, newContent, hscope, editLine_outOfRange h]

end Recipe
end Mend
