import Mend.Proofs.Recipe.LineEdit

/-!
# Repairs stay in their span

A recipe says beforehand which lines it may touch. Its patch leaves the lines above and below them as they are,
terminators included (`patch_within_span`): a repair of a line puts its edit, which may be of any number of lines, in
the place of that line, and a repair of a whole file has no lines above or below it.
-/

namespace Mend

namespace Span

variable {n : Count} {ls : List String}

/-- The lines of a text above a span. -/
def above (s : Span) (ls : List String) : List String := ls.take (s.first.toNat - 1)

/-- The lines of a text below a span. The span of all lines has none below it, whatever the length of the text. -/
def below (s : Span) (ls : List String) : List String := if s = wholeFile then [] else ls.drop s.last.toNat

theorem above_wholeFile : wholeFile.above ls = [] := rfl

theorem below_wholeFile : wholeFile.below ls = [] := if_pos rfl

/-- Where the lines can be counted, those below a span are the ones behind its last line. -/
theorem below_eq_drop (s : Span) (h : ls.length ≤ Count.max.toNat) : s.below ls = ls.drop s.last.toNat := by
  rw [below]
  split
  · next hs =>
    subst hs
    exact (List.drop_of_length_le h).symm
  · rfl

variable {before after : List String} {raw : String}

theorem above_line (h : n.toNat = before.length + 1) : (line n).above (before ++ raw :: after) = before := by
  have hn : n.toNat - 1 = before.length := by omega
  rw [above, line, hn, List.take_left]

theorem below_line (h : n.toNat = before.length + 1) : (line n).below (before ++ raw :: after) = after := by
  have hone : line n ≠ wholeFile := by
    intro heq
    have hfirst : n = 0 := congrArg first heq
    rw [hfirst] at h
    cases h
  rw [below, if_neg hone, line, h, List.drop_append]
  simp

end Span

variable {before after : List String} {raw : String}

/-- The lines around a line stay when its body is replaced or it is deleted. -/
theorem lines_replaceBody (h : Text.Lined (before ++ raw :: after)) (body : Option String) :
    Text.lines (String.join (before ++ replaceBody raw body :: after)) =
      before ++ Text.lines (replaceBody raw body) ++ after := by
  have hbefore : ∀ l ∈ before, Text.Terminated l := h.terminated (List.cons_ne_nil raw after)
  have hrest : Text.Lined ([raw] ++ after) := h.of_append
  have hafter : Text.lines (String.join after) = after := Text.lines_join hrest.of_append
  suffices hedit : Text.lines (replaceBody raw body ++ String.join after) = Text.lines (replaceBody raw body) ++ after by
    rw [String.join_append, String.join_cons, Text.lines_join_append hbefore, hedit, List.append_assoc]
  cases after with
  | nil => rw [String.join_nil, String.append_empty, List.append_nil]
  | cons next after =>
    cases body with
    | none => rw [replaceBody, String.empty_append, hafter, Text.lines_empty, List.nil_append]
    | some body =>
      -- a line with lines behind it has a terminator, which its replacement keeps
      have hraw : Text.Terminated raw := hrest.terminated (List.cons_ne_nil next after) raw (by simp)
      have hfeed : (replaceBody raw (some body)).toList.getLast? = some '\n' := by
        rcases hraw.terminator_cases with hend | hend <;> simp [replaceBody, hend]
      rw [Text.lines_append_of_feed hfeed, hafter]

namespace Recipe

variable {r : Recipe} {i : Issue} {files : Files} {p : Patch}

/-- Only a recipe that removes lines deletes one. -/
theorem exists_of_editBody_none {body : String} (h : r.editBody i body = .ok none) :
    ∃ id category guard, r = .removeLine id category guard := by
  cases r with
  | trimBlanks => cases h
  | removeLine id category guard => exact ⟨id, category, guard, rfl⟩
  | substitution s =>
    rw [editBody] at h
    split at h <;> cases h

/-- **A patch stays in the span of its recipe.** A patch is for the file of the issue and was made from the content
that was read, which it changes. The lines of that content above and below the declared span are the first and
the last lines of the new content. A recipe that is not for whole files puts something else in the place of one line:
another body before the terminator of this very line, or nothing at all if it removes lines. -/
theorem patch_within_span (h : r.patch i files = .ok p) :
    ∃ content made, files i.file = .ok content ∧
      p.file = i.file ∧ p.before = Digest.content content.toUTF8 ∧ p.after ≠ content ∧
      p.after = String.join ((r.span i).above (Text.lines content)) ++ made ++
        String.join ((r.span i).below (Text.lines content)) ∧
      Text.lines p.after = (r.span i).above (Text.lines content) ++ Text.lines made ++
        (r.span i).below (Text.lines content) ∧
      (r.wholeFile? = none → ∃ raw,
        Text.lines content = (r.span i).above (Text.lines content) ++ raw :: (r.span i).below (Text.lines content) ∧
        i.line.toNat = ((r.span i).above (Text.lines content)).length + 1 ∧
        ((∃ body, made = body ++ Text.terminator raw) ∨
          made = "" ∧ ∃ id category guard, r = .removeLine id category guard)) := by
  obtain ⟨content, hread, hfile, hbefore, hne, hmade⟩ := patch_ok h
  cases hscope : r.wholeFile? with
  | some w =>
    have hspan : r.span i = .wholeFile := by
      cases r with
      | trimBlanks | removeLine => cases hscope
      | substitution s =>
        rw [wholeFile?] at hscope
        split at hscope
        · next hfile => rw [span, if_pos hfile]
        · cases hscope
    refine ⟨content, p.after, hread, hfile, hbefore, hne, ?_, ?_, fun hnone => ?_⟩
    · rw [hspan, Span.above_wholeFile, Span.below_wholeFile, String.join_nil, String.empty_append, String.append_empty]
    · rw [hspan, Span.above_wholeFile, Span.below_wholeFile, List.nil_append, List.append_nil]
    · cases hnone
  | none =>
    rw [newContent, hscope] at hmade
    obtain ⟨before, raw, after, body, hlines, hline, hedit, hafter⟩ := editLine_ok hmade
    have habove : (r.span i).above (Text.lines content) = before := by
      rw [span_of_line hscope, hlines, Span.above_line hline]
    have hbelow : (r.span i).below (Text.lines content) = after := by
      rw [span_of_line hscope, hlines, Span.below_line hline]
    have hlined : Text.Lined (before ++ raw :: after) := hlines ▸ Text.lined_lines content
    refine ⟨content, replaceBody raw body, hread, hfile, hbefore, hne, ?_⟩
    rw [habove, hbelow]
    refine ⟨?_, ?_, fun _ => ⟨raw, hlines, hline, ?_⟩⟩
    · rw [hafter, String.join_append, String.join_cons, String.append_assoc]
    · rw [hafter, lines_replaceBody hlined]
    · cases body with
      | some body => exact .inl ⟨body, rfl⟩
      | none => exact .inr ⟨rfl, exists_of_editBody_none hedit⟩

/-- Every file has this content. -/
def holding (content : String) : Files := fun _ => .ok content

/-- A substitution that makes two lines of one. -/
def splitting : Recipe :=
  .substitution ⟨"split", "style", ⟨"b", fun text => text == "b", fun _ made => made⟩, "x\ny", .line, [], 1⟩

/-- The new lines are followed by the terminator of the line that they replace. -/
theorem patch_within_span_split :
    let i : Issue := ⟨"1", ⟨["a"]⟩, 2, none, .low, "style", "", true, none⟩
    ∃ p, splitting.patch i (holding "a\nb\r\nc") = .ok p ∧ p.file = i.file ∧
      ∃ body, p.after = "a\n" ++ (body ++ "\r\n") ++ "c" ∧
        Text.lines p.after = ["a\n"] ++ Text.lines (body ++ "\r\n") ++ ["c"] := by
  intro i
  have hlines : Text.lines "a\nb\r\nc" = ["a\n"] ++ "b\r\n" :: ["c"] := by decide +kernel
  have hread : holding "a\nb\r\nc" i.file = .ok "a\nb\r\nc" := rfl
  have hpatch := patch_of_line (r := splitting) (i := i) rfl hread hlines rfl
  rw [show splitting.lineEdit i "b\r\n" = .ok "x\ny\r\n" from rfl] at hpatch
  obtain ⟨content, made, hcontent, hfile, -, -, hafter, hnew, hscope⟩ := patch_within_span hpatch
  obtain rfl := Except.ok.inj hcontent
  have habove : (splitting.span i).above (Text.lines "a\nb\r\nc") = ["a\n"] := by decide +kernel
  have hbelow : (splitting.span i).below (Text.lines "a\nb\r\nc") = ["c"] := by decide +kernel
  obtain ⟨raw, hsplit, -, hmade⟩ := hscope rfl
  rw [habove, hbelow] at hafter hnew hsplit
  obtain rfl : "b\r\n" = raw := (List.cons.inj (List.append_cancel_left (hlines.symm.trans hsplit))).1
  refine ⟨_, hpatch, hfile, ?_⟩
  rcases hmade with ⟨body, rfl⟩ | ⟨-, id, category, guard, hremoves⟩
  · exact ⟨body, hafter, hnew⟩
  · cases hremoves

end Recipe
end Mend
