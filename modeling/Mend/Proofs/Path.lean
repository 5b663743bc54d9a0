import Mend.Proofs.Fs.Change

/-!
# Paths in a workspace

A path that was read off a text is made of names (`parse_segments`), so that it leads straight down from
the workspace (`locate_file`). Different paths lead to different files (`below_inj`) and have different places
in the order (`Proper.eq_of_compare`). The text of a path is read as that very path, or it is refused since it begins
like a drive (`Proper.parse_text`). The check for a drive is made before the dots are dropped, so that the second case
does arise, and only from a text with a dot in front of the drive (`dotted_of_drivelike`).
-/

namespace Mend.RelPath

open Fs Fs.Disk

/-- No piece between separators has the separator in it. -/
theorem not_mem_of_mem_splitOn {α : Type} [BEq α] [LawfulBEq α] {x : α} {xs piece : List α}
    (h : piece ∈ xs.splitOn x) : x ∉ piece := by
  induction xs generalizing piece with
  | nil => simp_all
  | cons y xs ih =>
    rw [List.splitOn_cons_eq_if_modifyHead] at h
    split at h
    · rcases List.mem_cons.mp h with rfl | h
      · simp
      · exact ih h
    next hne =>
      obtain ⟨head, rest, hsplit⟩ := List.exists_cons_of_ne_nil (List.splitOn_ne_nil x xs)
      rw [hsplit] at h ih
      rcases List.mem_cons.mp h with rfl | h
      · have hhead : x ∉ head := ih List.mem_cons_self
        have hxy : x ≠ y := fun e => hne (by simp [e])
        simp [hxy, hhead]
      · exact ih (List.mem_cons_of_mem _ h)

/-- A path that was read off a text. Paths come in no other way. -/
def Proper (p : RelPath) : Prop := ∃ raw, parse raw = .ok p

/-- A step down. -/
def Name (s : String) : Prop := s ≠ "" ∧ s ≠ "." ∧ s ≠ ".."

theorem names_name {raw : String} {pieces segments : List String} (h : names raw pieces = .ok segments) :
    ∀ s ∈ segments, Name s := by
  induction pieces generalizing segments with
  | nil =>
    obtain rfl := Except.ok.inj h
    simp
  | cons piece pieces ih =>
    rw [names] at h
    split at h
    · exact ih h
    next hdot =>
    split at h
    · cases h
    next hup =>
    cases hrest : names raw pieces with
    | error e => simp [hrest, Except.map] at h
    | ok rest =>
      simp only [hrest, Except.map, Except.ok.injEq] at h
      intro s hs
      rw [← h] at hs
      rcases List.mem_cons.mp hs with rfl | hs
      · simp only [Bool.or_eq_true, decide_eq_true_eq, not_or] at hdot
        exact ⟨hdot.1, hdot.2, hup⟩
      · exact ih hrest s hs

/-- The names of a path are pieces between slashes. -/
theorem names_of_parse {raw : String} {p : RelPath} (h : parse raw = .ok p) :
    p.segments ≠ [] ∧ ∃ cs : List Char, names raw ((cs.splitOn '/').map String.ofList) = .ok p.segments := by
  simp only [parse] at h
  split at h
  · cases h
  split at h
  · cases h
  split at h
  · cases h
  · cases h
  next segments hne hnames =>
    obtain rfl := Except.ok.inj h
    exact ⟨fun e => hne (e ▸ rfl), _, hnames⟩

theorem parse_segments {raw : String} {p : RelPath} (h : parse raw = .ok p) :
    p.segments ≠ [] ∧ ∀ s ∈ p.segments, Name s := by
  obtain ⟨hne, cs, hnames⟩ := names_of_parse h
  exact ⟨hne, names_name hnames⟩

theorem Proper.ne_nil {p : RelPath} (h : p.Proper) : p.segments ≠ [] := (parse_segments h.choose_spec).1

theorem Proper.name {p : RelPath} (h : p.Proper) : ∀ s ∈ p.segments, Name s :=
  (parse_segments h.choose_spec).2

/-! ## Order -/

instance : Std.TransOrd RelPath := inferInstanceAs (Std.TransCmp (compareOn text))

theorem mem_of_mem_names {raw : String} {pieces segments : List String} (h : names raw pieces = .ok segments) :
    ∀ s ∈ segments, s ∈ pieces := by
  induction pieces generalizing segments with
  | nil =>
    obtain rfl := Except.ok.inj h
    simp
  | cons piece pieces ih =>
    rw [names] at h
    split at h
    · exact fun s hs => List.mem_cons_of_mem _ (ih h s hs)
    split at h
    · cases h
    cases hrest : names raw pieces with
    | error e => simp [hrest, Except.map] at h
    | ok rest =>
      simp only [hrest, Except.map, Except.ok.injEq] at h
      subst h
      intro s hs
      rcases List.mem_cons.mp hs with rfl | hs
      · exact List.mem_cons_self
      · exact List.mem_cons_of_mem _ (ih hrest s hs)

/-- No name has a slash in it. -/
theorem Proper.no_slash {p : RelPath} (h : p.Proper) : ∀ s ∈ p.segments, '/' ∉ s.toList := by
  obtain ⟨raw, h⟩ := h
  obtain ⟨-, cs, hnames⟩ := names_of_parse h
  intro s hs
  obtain ⟨piece, hpiece, rfl⟩ := List.mem_map.mp (mem_of_mem_names hnames s hs)
  rw [String.toList_ofList]
  exact not_mem_of_mem_splitOn hpiece

/-- Names are told apart by the slashes between them. -/
theorem splitOn_intercalate {ns : List String} (hne : ns ≠ []) (h : ∀ s ∈ ns, '/' ∉ s.toList) :
    (String.intercalate "/" ns).toList.splitOn '/' = ns.map String.toList := by
  rw [String.toList_intercalate]
  refine List.splitOn_intercalate '/' ?_ (by simpa using hne)
  intro cs hcs
  obtain ⟨s, hs, rfl⟩ := List.mem_map.mp hcs
  exact h s hs

theorem Proper.splitOn_text {p : RelPath} (h : p.Proper) :
    p.text.toList.splitOn '/' = p.segments.map String.toList := splitOn_intercalate h.ne_nil h.no_slash

/-- Paths with one text are the same. -/
theorem Proper.eq_of_text {p q : RelPath} (hp : p.Proper) (hq : q.Proper) (h : p.text = q.text) : p = q := by
  have hsegments : p.segments.map String.toList = q.segments.map String.toList := by
    rw [← hp.splitOn_text, ← hq.splitOn_text, h]
  obtain ⟨ps⟩ := p
  obtain ⟨qs⟩ := q
  exact congrArg _ ((List.map_inj_right fun _ _ => String.toList_inj.mp).mp hsegments)

/-- Paths that are alike in their order are the same. -/
theorem Proper.eq_of_compare {p q : RelPath} (hp : p.Proper) (hq : q.Proper) (h : compare p q = .eq) : p = q := by
  change compare p.text q.text = .eq at h
  exact hp.eq_of_text hq (Std.LawfulEqCmp.eq_of_compare h)

/-! ## Plain names -/

/-- No character of a name has a meaning in a path text. -/
def Plain (name : String) : Prop := ∀ c ∈ name.toList, c ≠ '/' ∧ c ≠ '\\' ∧ c ≠ '\x00' ∧ c ≠ ':'

instance : DecidablePred Plain := fun name => List.decidableBAll _ name.toList

instance : DecidablePred Name := fun _ => inferInstanceAs (Decidable (_ ∧ _))

theorem hasDrive_eq_false {cs : List Char} (h : ':' ∉ cs) : hasDrive cs = false := by
  unfold hasDrive
  split
  · simp at h
  · rfl

/-- A name is a path. -/
theorem proper_name {name : String} (hname : Name name) (hplain : Plain name) : Proper ⟨[name]⟩ := by
  refine ⟨name, ?_⟩
  have hunified : (name.toList.map fun c => if c = '\\' then '/' else c) = name.toList := by
    conv_rhs => rw [← List.map_id name.toList]
    exact List.map_congr_left fun c hc => if_neg (hplain c hc).2.1
  have hnul : '\x00' ∉ name.toList := fun h => (hplain _ h).2.2.1 rfl
  have hslash : '/' ∉ name.toList := fun h => (hplain _ h).1 rfl
  have hhead : name.toList.head? ≠ some '/' := fun h => hslash (List.mem_of_mem_head? h)
  have hdrive : hasDrive name.toList = false := hasDrive_eq_false fun h => (hplain _ h).2.2.2 rfl
  have hnames : names name [name] = .ok [name] := by
    rw [names, if_neg (by simp [hname.1, hname.2.1]), if_neg hname.2.2]
    rfl
  simp [parse, hnul, hunified, hhead, hdrive, List.splitOn_eq_singleton hslash, hnames]

/-! ## Where a path leads -/

/-- The location of a path in a workspace, wherever it can be reached. -/
def below (root : Place) (p : RelPath) : Location := Disk.resolve [] root.location ++ p.segments

theorem locate_file {d : Disk} {root : Place} {p : RelPath} {l : Location} (hp : p.Proper)
    (h : d.locate (root.file p).location = .ok l) : l = p.below root := by
  rw [eq_resolve_of_follow (locate_eq_ok_iff.mp h).2, Place.file, resolve_append, resolve_names hp.name]
  rfl

/-- A file that can be read is in a slot. -/
theorem slot_of_read {d : Disk} {root : Place} {p : RelPath} {content : ByteArray} (hp : p.Proper)
    (h : d.read (root.file p).location = .ok content) :
    Slot d (root.file p).location (p.below root) ∧ ∃ mode, d.node? (p.below root) = some (.file content mode) := by
  obtain ⟨l, mode, hlocate, hnode⟩ := locate_of_read h
  obtain rfl := locate_file hp hlocate
  exact ⟨⟨hlocate, by simp [hnode]⟩, mode, hnode⟩

theorem below_inj {root : Place} {p q : RelPath} (h : p.below root = q.below root) : p = q := by
  obtain ⟨ps⟩ := p
  obtain ⟨qs⟩ := q
  rw [below, below, List.append_cancel_left_eq] at h
  exact congrArg _ h

/-! ## The text of a path -/

theorem mem_of_mem_splitOn {α : Type} [BEq α] [LawfulBEq α] {x y : α} {xs piece : List α} (h : piece ∈ xs.splitOn x)
    (hy : y ∈ piece) : y ∈ xs := by
  induction xs generalizing piece with
  | nil => simp_all
  | cons z xs ih =>
    rw [List.splitOn_cons_eq_if_modifyHead] at h
    split at h
    · rcases List.mem_cons.mp h with rfl | h
      · simp at hy
      · exact List.mem_cons_of_mem _ (ih h hy)
    · obtain ⟨head, rest, hsplit⟩ := List.exists_cons_of_ne_nil (List.splitOn_ne_nil x xs)
      rw [hsplit] at h ih
      rcases List.mem_cons.mp h with rfl | h
      · rcases List.mem_cons.mp hy with rfl | hy
        · exact List.mem_cons_self
        · exact List.mem_cons_of_mem _ (ih List.mem_cons_self hy)
      · exact List.mem_cons_of_mem _ (ih (List.mem_cons_of_mem _ h) hy)

/-- Every element other than the separator is in a piece. -/
theorem exists_piece_of_mem {α : Type} [BEq α] [LawfulBEq α] {x y : α} {xs : List α} (h : y ∈ xs) (hne : y ≠ x) :
    ∃ piece ∈ xs.splitOn x, y ∈ piece := by
  induction xs with
  | nil => simp at h
  | cons z xs ih =>
    obtain ⟨head, rest, hsplit⟩ := List.exists_cons_of_ne_nil (List.splitOn_ne_nil x xs)
    rw [List.splitOn_cons_eq_if_modifyHead, hsplit]
    rw [hsplit] at ih
    rcases List.mem_cons.mp h with rfl | h
    · rw [if_neg (by simpa using hne)]
      exact ⟨y :: head, List.mem_cons_self, List.mem_cons_self⟩
    · obtain ⟨piece, hpiece, hy⟩ := ih h
      split
      · exact ⟨piece, List.mem_cons_of_mem _ hpiece, hy⟩
      · rcases List.mem_cons.mp hpiece with rfl | hpiece
        · exact ⟨z :: piece, List.mem_cons_self, List.mem_cons_of_mem _ hy⟩
        · exact ⟨piece, List.mem_cons_of_mem _ hpiece, hy⟩

theorem names_of_name {raw : String} {ss : List String} (h : ∀ s ∈ ss, Name s) : names raw ss = .ok ss := by
  induction ss with
  | nil => rfl
  | cons s ss ih =>
    obtain ⟨hempty, hdot, hup⟩ := h s List.mem_cons_self
    rw [names, if_neg (by simp [hempty, hdot]), if_neg hup, ih fun t ht => h t (List.mem_cons_of_mem _ ht)]
    rfl

/-- The characters of a text, with every backslash as a slash. -/
def unified (raw : String) : List Char := raw.toList.map fun c => if c = '\\' then '/' else c

/-- What was checked of a text that was accepted. -/
theorem checks_of_parse {raw : String} {p : RelPath} (h : parse raw = .ok p) :
    '\x00' ∉ raw.toList ∧ (unified raw).head? ≠ some '/' ∧ hasDrive (unified raw) = false ∧ p.segments ≠ [] ∧
      names raw (((unified raw).splitOn '/').map String.ofList) = .ok p.segments := by
  simp only [parse] at h
  split at h
  · cases h
  next hnul =>
  split at h
  · cases h
  next habsolute =>
  split at h
  · cases h
  · cases h
  next segments hne hnames =>
    obtain rfl := Except.ok.inj h
    simp only [Bool.or_eq_true, decide_eq_true_eq, not_or, Bool.not_eq_true] at habsolute
    exact ⟨by simpa using hnul, habsolute.1, habsolute.2, fun e => hne (e ▸ rfl), hnames⟩

/-- No name of a path has a backslash or a NUL in it. -/
theorem Proper.mem_segment {p : RelPath} (h : p.Proper) {s : String} (hs : s ∈ p.segments) {c : Char}
    (hc : c ∈ s.toList) : c ≠ '\\' ∧ c ≠ '\x00' := by
  obtain ⟨raw, h⟩ := h
  obtain ⟨hnul, -, -, -, hnames⟩ := checks_of_parse h
  obtain ⟨cs, hcs, rfl⟩ := List.mem_map.mp (mem_of_mem_names hnames s hs)
  rw [String.toList_ofList] at hc
  obtain ⟨b, hb, rfl⟩ := List.mem_map.mp (mem_of_mem_splitOn hcs hc)
  split
  · decide
  next hback => exact ⟨hback, fun e => hnul (e ▸ hb)⟩

/-- The text of a path has neither a backslash nor a NUL in it. -/
theorem Proper.mem_text {p : RelPath} (h : p.Proper) {c : Char} (hc : c ∈ p.text.toList) : c ≠ '\\' ∧ c ≠ '\x00' := by
  by_cases hslash : c = '/'
  · subst hslash
    decide
  obtain ⟨piece, hpiece, hc⟩ := exists_piece_of_mem hc hslash
  rw [h.splitOn_text] at hpiece
  obtain ⟨s, hs, rfl⟩ := List.mem_map.mp hpiece
  exact h.mem_segment hs hc

theorem Proper.unified_text {p : RelPath} (h : p.Proper) : unified p.text = p.text.toList := by
  conv_rhs => rw [← List.map_id p.text.toList]
  exact List.map_congr_left fun c hc => if_neg (h.mem_text hc).1

/-- The names of a path are the pieces of its text. -/
theorem Proper.names_text {p : RelPath} (h : p.Proper) :
    names p.text ((p.text.toList.splitOn '/').map String.ofList) = .ok p.segments := by
  rw [h.splitOn_text, List.map_map]
  simp only [Function.comp_def, String.ofList_toList, List.map_id']
  exact names_of_name h.name

theorem Proper.head?_text {p : RelPath} (h : p.Proper) : p.text.toList.head? ≠ some '/' := by
  obtain ⟨s, ss, hsegments⟩ := List.exists_cons_of_ne_nil h.ne_nil
  have hsplit := h.splitOn_text
  rw [hsegments] at hsplit
  intro hhead
  cases htext : p.text.toList with
  | nil => simp [htext] at hhead
  | cons c cs =>
    obtain rfl : c = '/' := by simpa [htext] using hhead
    rw [htext, List.splitOn_cons_eq_if_modifyHead, if_pos (by simp)] at hsplit
    have hempty : s.toList = [] := (List.cons.inj hsplit).1.symm
    exact (h.name s (by simp [hsegments])).1 (by simpa using hempty)

/-- The text of the path begins like a drive. -/
def drivelike (p : RelPath) : Bool := hasDrive p.text.toList

/-- A path is read back from its text, or its text begins like a drive. -/
theorem Proper.parse_text {p : RelPath} (h : p.Proper) :
    parse p.text = if p.drivelike then .error (.absolute p.text) else .ok p := by
  rw [drivelike]
  have hnul : '\x00' ∉ p.text.toList := fun hc => (h.mem_text hc).2 rfl
  have hunified : (p.text.toList.map fun c => if c = '\\' then '/' else c) = p.text.toList := h.unified_text
  cases hdrive : hasDrive p.text.toList with
  | true => simp [parse, hnul, hunified, hdrive]
  | false =>
    cases hsegments : p.segments with
    | nil => exact absurd hsegments h.ne_nil
    | cons s ss =>
      have hnames := h.names_text
      rw [hsegments] at hnames
      simp only [parse, hunified, hdrive, hnames, List.contains_eq_mem, hnul, h.head?_text, decide_false, Bool.or_self,
        Bool.false_eq_true, if_false]
      rw [← hsegments]

/-- A drive stands in the first piece. -/
theorem hasDrive_intercalate {piece : List Char} (hne : piece ≠ []) (rest : List (List Char)) :
    hasDrive (['/'].intercalate (piece :: rest)) = hasDrive piece := by
  cases rest with
  | nil => rw [List.intercalate_singleton]
  | cons next rest =>
    rw [List.intercalate_cons_cons]
    cases piece with
    | nil => exact absurd rfl hne
    | cons c cs =>
      cases cs with
      | nil => rfl
      | cons d ds =>
        by_cases hd : d = ':'
        · subst hd
          rfl
        · simp [hasDrive, hd]

/-- Only a dot in front of it hides a drive from the check. -/
theorem dotted_of_drivelike {raw : String} {p : RelPath} (h : parse raw = .ok p) (hdrive : p.drivelike = true) :
    ∃ rest, unified raw = '.' :: '/' :: rest := by
  obtain ⟨-, habsolute, hplain, hne, hnames⟩ := checks_of_parse h
  obtain ⟨piece, pieces, hsplit⟩ := List.exists_cons_of_ne_nil (List.splitOn_ne_nil '/' (unified raw))
  have hunified : unified raw = ['/'].intercalate (piece :: pieces) := by rw [← hsplit, List.intercalate_splitOn]
  rw [hsplit, List.map_cons, names] at hnames
  split at hnames
  next hdot =>
    cases pieces with
    | nil => exact absurd (Except.ok.inj hnames).symm hne
    | cons next pieces =>
      rw [List.intercalate_cons_cons] at hunified
      rcases Bool.or_eq_true _ _ |>.mp hdot with hempty | hdot
      · have hpiece : piece = [] := by simpa using hempty
        exact absurd (by rw [hunified, hpiece]; rfl) habsolute
      · have hpiece : piece = ['.'] := by
          rw [← @String.toList_ofList piece, of_decide_eq_true hdot]
          rfl
        exact ⟨_, by rw [hunified, hpiece]; rfl⟩
  next hdot =>
  split at hnames
  · cases hnames
  cases hrest : names raw (pieces.map String.ofList) with
  | error e => simp [hrest, Except.map] at hnames
  | ok segments =>
    simp only [hrest, Except.map, Except.ok.injEq] at hnames
    have hpiece : piece ≠ [] := by
      rintro rfl
      exact hdot (by decide)
    rw [drivelike, text, ← hnames, String.toList_intercalate, List.map_cons] at hdrive
    simp only [String.toList_ofList] at hdrive
    have hfirst := hasDrive_intercalate hpiece (segments.map String.toList)
    have hchecked := hasDrive_intercalate hpiece pieces
    rw [← hunified, hplain] at hchecked
    exact absurd (hdrive.symm.trans (hfirst.trans hchecked.symm)) (by decide)

end Mend.RelPath
