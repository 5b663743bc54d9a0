import Mathlib.Data.List.Basic
import Mend.Proofs.Text

/-!
# Joined lines

The lines of a text all end in a line feed, but for the last one, which may lack it (`lined_lines`). Lines of this
form are told apart again after they were joined (`lines_join`). Where two texts meet, the last line of the
first and the first line of the second may become one, and all other lines stay (`lines_append_cases`).
-/

namespace Mend.Text

/-- The line ends in a line feed, and has no other. -/
def Terminated (l : String) : Prop := ∃ b, '\n' ∉ b ∧ l.toList = b ++ ['\n']

/-- The line is not empty, and lacks its line feed. -/
def Loose (l : String) : Prop := l ≠ "" ∧ '\n' ∉ l.toList

/-- Lines as a text has them. -/
inductive Lined : List String → Prop where
  | nil : Lined []
  | last {l} (h : Loose l) : Lined [l]
  | cons {l ls} (h : Terminated l) (hls : Lined ls) : Lined (l :: ls)

theorem lines_append_of_terminated {l : String} (h : Terminated l) (t : String) : lines (l ++ t) = l :: lines t := by
  obtain ⟨b, hb, hl⟩ := h
  have hcut : cut (l ++ t).toList = l.toList :: cut t.toList := by
    rw [String.toList_append, hl, List.append_assoc, List.singleton_append, cut_append_newline hb]
  rw [lines, hcut, List.map_cons, String.ofList_toList, lines]

theorem lines_of_loose {l : String} (h : Loose l) : lines l = [l] := by
  obtain ⟨hne, hl⟩ := h
  have hcut (cs : List Char) (hcs : cs ≠ []) (hnewline : '\n' ∉ cs) : cut cs = [cs] := by
    induction cs with
    | nil => exact absurd rfl hcs
    | cons c cs ih =>
      rw [List.mem_cons, not_or] at hnewline
      rw [cut_cons, if_neg (Ne.symm hnewline.1)]
      cases cs with
      | nil => rfl
      | cons d cs => rw [ih (List.cons_ne_nil d cs) hnewline.2]
  rw [lines, hcut l.toList (fun h => hne (String.toList_eq_nil_iff.mp h)) hl, List.map_singleton, String.ofList_toList]

@[simp] theorem lines_empty : lines "" = [] := rfl

theorem lines_of_terminated {l : String} (h : Terminated l) : lines l = [l] := by
  rw [← String.append_empty (s := l), lines_append_of_terminated h, lines_empty, String.append_empty]

/-- The lines of a text are lines as a text has them. -/
theorem lined_lines (s : String) : Lined (lines s) := by
  suffices h : ∀ cs, Lined ((cut cs).map String.ofList) from h s.toList
  intro cs
  induction cs with
  | nil => exact .nil
  | cons c cs ih =>
    rw [cut_cons]
    split
    · next hc => exact .cons ⟨[], by simp, by simp [hc]⟩ ih
    · next hc =>
      cases hcut : cut cs with
      | nil => exact .last ⟨by simp [← String.toList_inj], by simpa using Ne.symm hc⟩
      | cons l rest =>
        rw [hcut, List.map_cons] at ih
        dsimp only
        rw [List.map_cons]
        generalize List.map String.ofList rest = ls at ih
        cases ih with
        | last h => exact .last ⟨by simp [← String.toList_inj], by simpa [Ne.symm hc] using h.2⟩
        | cons h hls =>
          obtain ⟨b, hb, hl⟩ := h
          exact .cons ⟨c :: b, by simpa [Ne.symm hc] using hb, by simpa using hl⟩ hls

theorem length_cut_le (cs : List Char) : (cut cs).length ≤ (octets cs).length := by
  induction cs with
  | nil => exact Nat.le_refl 0
  | cons c cs ih =>
    have hc : 0 < (String.utf8EncodeChar c).length := by
      rw [String.length_utf8EncodeChar]
      exact c.utf8Size_pos
    rw [cut_cons, octets_cons, List.length_append]
    split
    · rw [List.length_cons]
      omega
    · split
      · rw [List.length_singleton]
        omega
      · next hcut =>
        rw [hcut, List.length_cons] at ih
        rw [List.length_cons]
        omega

/-- A text has at most as many lines as bytes. -/
theorem length_lines_le (s : String) : (lines s).length ≤ s.toUTF8.size := by
  have hsize : s.toUTF8.size = (octets s.toList).length := (length_octets s).symm
  rw [lines, List.length_map, hsize]
  exact length_cut_le s.toList

theorem Lined.of_append {ls ms : List String} (h : Lined (ls ++ ms)) : Lined ms := by
  induction ls with
  | nil => exact h
  | cons l ls ih =>
    rw [List.cons_append] at h
    generalize hks : ls ++ ms = ks at h
    cases h with
    | last h =>
      obtain ⟨-, rfl⟩ := List.append_eq_nil_iff.mp hks
      exact .nil
    | cons h hls => exact ih (hks ▸ hls)

/-- Only the last line may lack its line feed. -/
theorem Lined.terminated {ls ms : List String} (h : Lined (ls ++ ms)) (hms : ms ≠ []) : ∀ l ∈ ls, Terminated l := by
  induction ls with
  | nil => nofun
  | cons l ls ih =>
    rw [List.cons_append] at h
    generalize hks : ls ++ ms = ks at h
    cases h with
    | last h => exact absurd (List.append_eq_nil_iff.mp hks).2 hms
    | cons h hls => exact List.forall_mem_cons.mpr ⟨h, ih (hks ▸ hls)⟩

/-- A line that is not the last one has its line feed. -/
theorem Lined.mem {before after : List String} {raw : String} (h : Lined (before ++ raw :: after)) :
    Terminated raw ∨ Loose raw ∧ after = [] := by
  have hrest : Lined (raw :: after) := h.of_append
  cases hrest with
  | last hloose => exact .inr ⟨hloose, rfl⟩
  | cons hterminated _ => exact .inl hterminated

/-- Lines as a text has them are told apart again. -/
theorem lines_join {ls : List String} (h : Lined ls) : lines (String.join ls) = ls := by
  induction h with
  | nil => rfl
  | last h => rw [String.join_cons, String.join_nil, String.append_empty, lines_of_loose h]
  | cons h _ ih => rw [String.join_cons, lines_append_of_terminated h, ih]

theorem lines_join_append {ls : List String} (h : ∀ l ∈ ls, Terminated l) (t : String) :
    lines (String.join ls ++ t) = ls ++ lines t := by
  induction ls with
  | nil => rw [String.join_nil, String.empty_append, List.nil_append]
  | cons l ls ih =>
    rw [List.forall_mem_cons] at h
    rw [String.join_cons, String.append_assoc, lines_append_of_terminated h.1, ih h.2, List.cons_append]

theorem cut_newline (cs ds : List Char) : cut (cs ++ '\n' :: ds) = cut (cs ++ ['\n']) ++ cut ds := by
  induction cs with
  | nil => rfl
  | cons c cs ih =>
    rw [List.cons_append, List.cons_append, cut_cons, cut_cons, ih]
    by_cases hc : c = '\n'
    · rw [if_pos hc, if_pos hc, List.cons_append]
    · rw [if_neg hc, if_neg hc]
      cases hcut : cut (cs ++ ['\n']) with
      | nil =>
        have hflat := flatten_cut (cs ++ ['\n'])
        rw [hcut] at hflat
        simp at hflat
      | cons l rest => rfl

/-- A text that ends in a line feed shares no line with what follows it. -/
theorem lines_append_of_feed {s : String} (h : s.toList.getLast? = some '\n') (t : String) :
    lines (s ++ t) = lines s ++ lines t := by
  obtain ⟨cs, hs⟩ := List.getLast?_eq_some_iff.mp h
  rw [lines, String.toList_append, hs, List.append_assoc, List.singleton_append, cut_newline, List.map_append, lines,
    hs, lines]

/-! ## Terminators and bodies -/

/-- A line that ends in a line feed has a terminator. -/
theorem Terminated.terminator_cases {l : String} (h : Terminated l) : terminator l = "\n" ∨ terminator l = "\r\n" := by
  obtain ⟨c, -, hl⟩ := h
  rw [terminator, hl, splitTerminator, List.reverse_append, List.reverse_singleton, List.singleton_append]
  split
  · exact .inr rfl
  · exact .inl rfl
  · next hno => exact absurd rfl (hno _)

/-- A line that ends in a line feed keeps one when its body is replaced. -/
theorem Terminated.append_terminator {l b : String} (h : Terminated l) (hb : '\n' ∉ b.toList) :
    Terminated (b ++ terminator l) := by
  rcases h.terminator_cases with hend | hend
  · exact ⟨b.toList, hb, by simp [hend]⟩
  · exact ⟨b.toList ++ ['\r'], by simpa using hb, by simp [hend]⟩

theorem terminator_of_loose {l : String} (h : Loose l) : terminator l = "" := by
  have hend : (splitTerminator l.toList).2 = [] := by
    have hfeed : '\n' ∉ l.toList.reverse := fun hmem => h.2 (List.mem_reverse.mp hmem)
    rw [splitTerminator]
    split
    · next heq => exact absurd (heq ▸ List.mem_cons_self) hfeed
    · next heq => exact absurd (heq ▸ List.mem_cons_self) hfeed
    · rfl
  rw [terminator, hend, String.ofList_nil]

/-- A line that does not end in a carriage return is its own body. -/
theorem body_line {l : String} (h : l.toList.getLast? ≠ some '\r') : body (l ++ "\n") = l := by
  have hparts : splitTerminator (l ++ "\n").toList = (l.toList, ['\n']) := by
    rw [String.toList_append, splitTerminator, show "\n".toList = ['\n'] from rfl, List.reverse_append,
      List.reverse_singleton, List.singleton_append]
    cases hlast : l.toList.reverse with
    | nil =>
      rw [List.reverse_eq_nil_iff] at hlast
      rw [hlast]
      rfl
    | cons c cs =>
      have hc : c ≠ '\r' := by
        rintro rfl
        apply h
        rw [← List.head?_reverse, hlast]
        rfl
      have hl : l.toList = (c :: cs).reverse := by rw [← hlast, List.reverse_reverse]
      split
      · next heq => exact absurd (List.cons.inj (List.cons.inj heq).2).1 hc
      · next heq => rw [hl, (List.cons.inj heq).2]
      · next hno => exact absurd rfl (hno _)
  rw [body, hparts, String.ofList_toList]

/-- A terminator of two characters is read as one. -/
theorem body_append_return_feed (s : String) : body (s ++ "\r\n") = s := by
  simp [body, splitTerminator]

/-- A line without a line feed is its own body. -/
theorem body_of_not_mem {l : String} (h : '\n' ∉ l.toList) : body l = l := by
  rw [body, splitTerminator]
  have hfeed : '\n' ∉ l.toList.reverse := fun hmem => h (List.mem_reverse.mp hmem)
  split
  · next heq => exact absurd (heq ▸ List.mem_cons_self) hfeed
  · next heq => exact absurd (heq ▸ List.mem_cons_self) hfeed
  · rw [String.ofList_toList]

/-- The line feed of a line, if there is one, is in its terminator. -/
theorem not_mem_body {l : String} (h : Terminated l ∨ Loose l) : '\n' ∉ (body l).toList := by
  rcases h with h | h
  · obtain ⟨b, hb, hl⟩ := h
    have hparts : (body l).toList ++ (terminator l).toList = b ++ ['\n'] := by
      rw [← String.toList_append, body_append_terminator, hl]
    have hend : ∃ cs, (terminator l).toList = cs ++ ['\n'] := by
      rcases Terminated.terminator_cases ⟨b, hb, hl⟩ with hend | hend
      · exact ⟨[], by rw [hend]; rfl⟩
      · exact ⟨['\r'], by rw [hend]; rfl⟩
    obtain ⟨cs, hcs⟩ := hend
    rw [hcs, ← List.append_assoc] at hparts
    have hbody := (List.append_inj' hparts rfl).1
    exact fun hmem => hb (hbody ▸ List.mem_append_left cs hmem)
  · rw [body_of_not_mem h.2]
    exact h.2

/-! ## Where two texts meet -/

/-- Where two texts meet, two lines may become one. -/
theorem lines_append_cases (s t : String) :
    lines (s ++ t) = lines s ++ lines t ∨ ∃ init l h rest,
      lines s = init ++ [l] ∧ lines t = h :: rest ∧ lines (s ++ t) = init ++ (l ++ h) :: rest := by
  suffices hcut : ∀ cs ds, cut (cs ++ ds) = cut cs ++ cut ds ∨ ∃ init l h rest,
      cut cs = init ++ [l] ∧ cut ds = h :: rest ∧ cut (cs ++ ds) = init ++ (l ++ h) :: rest by
    rcases hcut s.toList t.toList with h | ⟨init, l, k, rest, hs, ht, h⟩
    · exact .inl (by simp [lines, h])
    · refine .inr ⟨init.map String.ofList, String.ofList l, String.ofList k, rest.map String.ofList, ?_, ?_, ?_⟩
      · simp [lines, hs]
      · simp [lines, ht]
      · simp [lines, h]
  intro cs ds
  induction cs with
  | nil => exact .inl rfl
  | cons c cs ih =>
    by_cases hc : c = '\n'
    · rw [List.cons_append, cut_cons, cut_cons, if_pos hc, if_pos hc]
      rcases ih with h | ⟨init, l, k, rest, hs, ht, h⟩
      · exact .inl (by rw [h, List.cons_append])
      · exact .inr ⟨[c] :: init, l, k, rest, by rw [hs, List.cons_append], ht, by rw [h, List.cons_append]⟩
    · rw [List.cons_append, cut_cons, cut_cons, if_neg hc, if_neg hc]
      rcases ih with h | ⟨init, l, k, rest, hs, ht, h⟩
      · rw [h]
        cases hcs : cut cs with
        | cons l init => exact .inl rfl
        | nil =>
          cases hds : cut ds with
          | nil => exact .inl rfl
          | cons k rest => exact .inr ⟨[], [c], k, rest, rfl, rfl, rfl⟩
      · rw [h, hs]
        cases init with
        | nil => exact .inr ⟨[], c :: l, k, rest, rfl, ht, rfl⟩
        | cons i init => exact .inr ⟨(c :: i) :: init, l, k, rest, rfl, ht, rfl⟩

end Mend.Text
