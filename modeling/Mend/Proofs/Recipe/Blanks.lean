import Mathlib.Data.List.DropRight
import Mend.Proofs.Recipe.Span

/-!
# Blanks at the end of a line

The blanks at the end of a line are taken off at once: the line that is left ends in none, and there is nothing to be
done a second time (`trimBlanks_once`). The body of a line is told from its terminator anew on each reading, and where
the blanks stood between a carriage return and a line feed, the two become one terminator. The statement leaves out the
lines in which this uncovers blanks (`HidesBlank`, `trimming_uncovers`). A last line of nothing but blanks is
gone with them.
-/

namespace Mend.Recipe

open Text

variable {i : Issue} {files : Files} {p : Patch} {raw : String}

/-- A body that does not end in a blank. -/
def Trimmed (body : String) : Prop := ∀ c ∈ body.toList.getLast?, isLineBlank c = false

/-- A line of nothing but blanks. It has no terminator, so that only the last line of a text can be one. -/
def AllBlank (raw : String) : Prop := ∀ c ∈ raw.toList, isLineBlank c = true

/-- The body of a line without the blanks at its end. -/
def trimmed (raw : String) : List Char := dropEndWhile isLineBlank (body raw).toList

/-- What is left of the body when the blanks are taken off ends in a blank and a carriage return, and a line feed alone
follows. The next reading takes the two for one terminator, with the blank before it. -/
def HidesBlank (raw : String) : Prop :=
  terminator raw = "\n" ∧ ∃ cs c, isLineBlank c = true ∧ trimmed raw = cs ++ [c, '\r']

/-- The line with the blanks taken off its end. -/
def trimmedLine (raw : String) : String := String.ofList (trimmed raw) ++ terminator raw

theorem trimmed_append : ∃ blanks, trimmed raw ++ blanks = (body raw).toList :=
  List.rdropWhile_prefix isLineBlank (body raw).toList

theorem not_mem_trimmed (h : Terminated raw ∨ Loose raw) : '\n' ∉ trimmed raw := by
  obtain ⟨blanks, hbody⟩ := @trimmed_append raw
  exact fun hmem => not_mem_body h (hbody ▸ List.mem_append_left blanks hmem)

theorem getLast?_dropEndWhile (cs : List Char) : ∀ c ∈ (dropEndWhile isLineBlank cs).getLast?, isLineBlank c = false := by
  intro c hc
  obtain ⟨hne, rfl⟩ := List.mem_getLast?_eq_getLast hc
  rw [← Bool.not_eq_true]
  exact List.rdropWhile_last_not isLineBlank cs hne

/-- No blank stands at the end of the line that is left. -/
theorem trimmed_trimmedLine (hraw : Terminated raw ∨ Loose raw) (h : ¬ HidesBlank raw) :
    Trimmed (body (trimmedLine raw)) := by
  have hlast : Trimmed (String.ofList (trimmed raw)) := by
    rw [Trimmed, String.toList_ofList]
    exact getLast?_dropEndWhile (body raw).toList
  rcases hraw with hraw | hraw
  · rcases hraw.terminator_cases with hend | hend
    · rw [trimmedLine, hend]
      by_cases hreturn : (trimmed raw).getLast? = some '\r'
      · -- the carriage return is read as a part of the terminator
        obtain ⟨cs, hcs⟩ := List.getLast?_eq_some_iff.mp hreturn
        have hline : String.ofList (trimmed raw) ++ "\n" = String.ofList cs ++ "\r\n" := by
          rw [hcs]
          apply String.ext
          simp
        rw [hline, body_append_return_feed, Trimmed, String.toList_ofList]
        intro c hc
        obtain ⟨ds, rfl⟩ := List.getLast?_eq_some_iff.mp hc
        rw [← Bool.not_eq_true]
        exact fun hblank => h ⟨hend, ds, c, hblank, by rw [hcs, List.append_assoc]; rfl⟩
      · rw [body_line (by rwa [String.toList_ofList])]
        exact hlast
    · rw [trimmedLine, hend, body_append_return_feed]
      exact hlast
  · have hfeed : '\n' ∉ (String.ofList (trimmed raw)).toList := by
      rw [String.toList_ofList]
      exact not_mem_trimmed (.inr hraw)
    rw [trimmedLine, terminator_of_loose hraw, String.append_empty, body_of_not_mem hfeed]
    exact hlast

/-- Nothing is left of blanks. -/
theorem trimmedLine_of_allBlank (hraw : Terminated raw ∨ Loose raw) (h : AllBlank raw) :
    Loose raw ∧ trimmedLine raw = "" := by
  have hfeed : '\n' ∉ raw.toList := fun hmem => absurd (h _ hmem) (by decide)
  rcases hraw with ⟨b, -, hraw⟩ | hraw
  · exact absurd (by simp [hraw]) hfeed
  · have hnone : trimmed raw = [] := by
      rw [trimmed, body_of_not_mem hfeed]
      exact List.rdropWhile_eq_nil_iff.mpr h
    exact ⟨hraw, by rw [trimmedLine, hnone, terminator_of_loose hraw]; rfl⟩

/-- What is left of any other line is one line. -/
theorem lines_trimmedLine (hraw : Terminated raw ∨ Loose raw) (h : ¬ AllBlank raw) :
    lines (trimmedLine raw) = [trimmedLine raw] := by
  have hfeed : '\n' ∉ (String.ofList (trimmed raw)).toList := by
    rw [String.toList_ofList]
    exact not_mem_trimmed hraw
  rcases hraw with hraw | hraw
  · exact lines_of_terminated (hraw.append_terminator hfeed)
  · rw [trimmedLine, terminator_of_loose hraw, String.append_empty]
    refine lines_of_loose ⟨fun hnone => h ?_, hfeed⟩
    have hnone : trimmed raw = [] := by simpa using hnone
    rw [trimmed, body_of_not_mem hraw.2] at hnone
    exact List.rdropWhile_eq_nil_iff.mp hnone

/-- A line without blanks at its end has no edit. -/
theorem lineEdit_of_trimmed {line : String} (h : Trimmed (body line)) :
    trimBlanks.lineEdit i line = .error (.noChange i.file) := by
  have hsame : dropEndWhile isLineBlank (body line).toList = (body line).toList := by
    refine List.rdropWhile_eq_self_iff.mpr fun hne hblank => ?_
    rw [h _ (List.getLast?_eq_some_getLast hne)] at hblank
    cases hblank
  have hline : replaceBody line (some (String.ofList (dropEndWhile isLineBlank (body line).toList))) = line := by
    rw [hsame, String.ofList_toList, replaceBody, body_append_terminator]
  rw [lineEdit, editBody]
  exact if_pos hline

/-- **Blanks are taken off a line at once.** If there is a patch that takes the blanks off a line, then a last line of
nothing but blanks is gone from the new content, and the number of the line is out of its range. Any other line, unless
it hides a blank, is where it was without blanks at the end of its body, and there is nothing to change a second
time. -/
theorem trimBlanks_once (h : trimBlanks.patch i files = .ok p) :
    ∃ content before raw after, files i.file = .ok content ∧ lines content = before ++ raw :: after ∧
      i.line.toNat = before.length + 1 ∧
      (AllBlank raw → after = [] ∧ lines p.after = before ∧ ∀ later : Files, later i.file = .ok p.after →
        trimBlanks.patch i later = .error (.lineOutOfRange i.file i.line before.length)) ∧
      (¬ AllBlank raw → ¬ HidesBlank raw → ∃ line, lines p.after = before ++ line :: after ∧ Trimmed (body line) ∧
        ∀ later : Files, later i.file = .ok p.after → trimBlanks.patch i later = .error (.noChange i.file)) := by
  obtain ⟨content, hread, -, -, -, hmade⟩ := patch_ok h
  change editLine i.file content i.line (trimBlanks.editBody i) = .ok p.after at hmade
  obtain ⟨before, raw, after, edited, hlines, hline, hedit, hafter⟩ := editLine_ok hmade
  obtain rfl := Except.ok.inj hedit
  have hlined : Lined (before ++ raw :: after) := hlines ▸ lined_lines content
  have hraw : Terminated raw ∨ Loose raw := hlined.mem.imp_right And.left
  have hnew : lines p.after = before ++ lines (trimmedLine raw) ++ after := by
    rw [hafter, lines_replaceBody hlined]
    rfl
  refine ⟨content, before, raw, after, hread, hlines, hline, fun hblank => ?_, fun hblank hhides => ?_⟩
  · obtain ⟨hloose, hgone⟩ := trimmedLine_of_allBlank hraw hblank
    have hlast : after = [] := by
      rcases hlined.mem with hraw | hraw
      · obtain ⟨b, -, hb⟩ := hraw
        exact absurd (by simp [hb]) hloose.2
      · exact hraw.2
    have hbefore : lines p.after = before := by
      rw [hnew, hgone, lines_empty, hlast, List.append_nil, List.append_nil]
    refine ⟨hlast, hbefore, fun later hlater => ?_⟩
    rw [patch_outOfRange rfl hlater (.inr (by rw [hbefore, hline]; exact Nat.lt_succ_self _)), hbefore]
  · have hnew' : lines p.after = before ++ trimmedLine raw :: after := by
      rw [hnew, lines_trimmedLine hraw hblank, List.append_assoc, List.singleton_append]
    have htrimmed := trimmed_trimmedLine hraw hhides
    refine ⟨trimmedLine raw, hnew', htrimmed, fun later hlater => ?_⟩
    rw [patch_of_line rfl hlater hnew' hline, lineEdit_of_trimmed htrimmed]

/-- An issue on a line of a file. -/
def blankAt (line : Count) : Issue := ⟨"1", ⟨["a"]⟩, line, none, .low, "whitespace", "", true, none⟩

/-- The carriage return that is left belongs to the body, since a terminator of two characters follows it. -/
theorem trimBlanks_once_return :
    ∃ p, trimBlanks.patch (blankAt 2) (holding "a\nb\r\t \r\nc ") = .ok p ∧
      (∃ line, lines p.after = ["a\n", line, "c "] ∧ Trimmed (body line)) ∧
      trimBlanks.patch (blankAt 2) (holding p.after) = .error (.noChange ⟨["a"]⟩) := by
  have hlines : lines "a\nb\r\t \r\nc " = ["a\n"] ++ "b\r\t \r\n" :: ["c "] := by decide +kernel
  have hpatch := patch_of_line (r := trimBlanks) (i := blankAt 2) rfl
    (show holding "a\nb\r\t \r\nc " (blankAt 2).file = .ok "a\nb\r\t \r\nc " from rfl) hlines rfl
  rw [show trimBlanks.lineEdit (blankAt 2) "b\r\t \r\n" = .ok "b\r\r\n" from rfl] at hpatch
  obtain ⟨content, before, raw, after, hread, hsplit, hline, -, hclean⟩ := trimBlanks_once hpatch
  obtain rfl := Except.ok.inj hread
  obtain ⟨rfl, hrest⟩ := List.append_inj (hlines.symm.trans hsplit) (Nat.succ.inj hline)
  obtain ⟨rfl, rfl⟩ := List.cons.inj hrest
  obtain ⟨line, hnew, htrimmed, hagain⟩ := hclean (fun h => absurd (h 'b' (by decide)) (by decide))
    (fun h => absurd h.1 (by decide))
  exact ⟨_, hpatch, ⟨line, hnew, htrimmed⟩, hagain _ rfl⟩

/-- Blanks that a carriage return hides are uncovered only when the blanks behind it are gone, and are taken off by
another patch. Where a last line has nothing but blanks, there is no such line after the first patch. -/
theorem trimming_uncovers :
    (∃ p, trimBlanks.patch (blankAt 1) (holding "x \r \n") = .ok p ∧ lines p.after = ["x \r\n"] ∧
      body "x \r\n" = "x " ∧ ¬ Trimmed "x " ∧
      ∃ q, trimBlanks.patch (blankAt 1) (holding p.after) = .ok q ∧ q.after = "x\r\n") ∧
    ∃ p, trimBlanks.patch (blankAt 1) (holding " ") = .ok p ∧ lines p.after = [] ∧
      trimBlanks.patch (blankAt 1) (holding p.after) = .error (.lineOutOfRange ⟨["a"]⟩ 1 0) := by
  have hpatch {raw edited : String} (hlines : lines raw = [] ++ raw :: [])
      (hedit : trimBlanks.lineEdit (blankAt 1) raw = .ok edited) :
      ∃ p, trimBlanks.patch (blankAt 1) (holding raw) = .ok p ∧ p.after = edited := by
    have hmade := patch_of_line (r := trimBlanks) (i := blankAt 1) rfl
      (show holding raw (blankAt 1).file = .ok raw from rfl) hlines rfl
    rw [hedit] at hmade
    exact ⟨_, hmade, by simp⟩
  have hhidden : Terminated "x \r \n" := ⟨['x', ' ', '\r', ' '], by decide, rfl⟩
  have huncovered : lines "x \r\n" = ["x \r\n"] := lines_of_terminated ⟨['x', ' ', '\r'], by decide, rfl⟩
  refine ⟨?_, ?_⟩
  · obtain ⟨p, hp, hafter⟩ := @hpatch "x \r \n" "x \r\n" (lines_of_terminated hhidden) rfl
    obtain ⟨q, hq, hagain⟩ := @hpatch "x \r\n" "x\r\n" huncovered rfl
    have hbody : body "x \r\n" = "x " := body_append_return_feed "x "
    have huntrimmed : ¬ Trimmed "x " := fun h => absurd (h ' ' (by decide)) (by decide)
    refine ⟨p, hp, by rwa [hafter], hbody, huntrimmed, q, ?_, hagain⟩
    rwa [hafter]
  · obtain ⟨p, hp, hafter⟩ := @hpatch " " "" (lines_of_loose ⟨by decide, by decide⟩) rfl
    have hread : holding "" (blankAt 1).file = .ok "" := rfl
    refine ⟨p, hp, by rw [hafter, lines_empty], ?_⟩
    rw [hafter]
    exact patch_outOfRange rfl hread (.inr (by decide))

end Mend.Recipe
