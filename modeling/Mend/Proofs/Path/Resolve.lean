import Mend.Proofs.Path

/-!
# Paths below a root

A path that is resolved below a root has the components of the root and then its own names (`components_resolve`), so
that it never leaves the root and different paths never meet. Read relative to the root it is the same path again,
unless its text begins like a drive; and a place below an absolute root, read as a path and resolved, is the same place
exactly if none of its names has a backslash in it (`relativeTo_resolve`).
-/

namespace Mend

namespace HostPath

open RelPath

/-- The component that a path text begins with before its names. -/
def lead (path : String) : List Component :=
  if isAbsolute path then [.root] else if (pieces path).head? = some "." then [.current] else []

theorem components_eq (path : String) : components path = lead path ++ (pieces path).filterMap component? := by
  rw [components, lead]
  split
  · rfl
  split
  next rest hpieces => rw [hpieces, List.head?_cons, if_pos rfl]; rfl
  next hdot =>
    have hhead : (pieces path).head? ≠ some "." := by
      intro hhead
      obtain ⟨rest, hpieces⟩ := List.head?_eq_some_iff.mp hhead
      exact hdot rest hpieces
    rw [if_neg hhead, List.nil_append]

/-! ## Joined texts -/

/-- The first piece of a text is the first one of any longer text. -/
theorem head?_pieces_append (path : String) (more : List String) :
    (pieces path ++ more).head? = (pieces path).head? := by
  cases hpieces : pieces path with
  | nil => exact absurd (List.map_eq_nil_iff.mp hpieces) (List.splitOn_ne_nil '/' path.toList)
  | cons piece rest => rfl

theorem pieces_slash (base path : String) : pieces (base ++ "/" ++ path) = pieces base ++ pieces path := by
  have htext : (base ++ "/" ++ path).toList = base.toList ++ '/' :: path.toList := by simp
  rw [pieces, htext, List.splitOn, List.splitOnP_append_cons _ _ rfl, List.map_append]
  rfl

theorem pieces_append_slash (base : String) : pieces (base ++ "/") = pieces base ++ [""] := by
  rw [← String.append_empty (s := base ++ "/"), pieces_slash]
  rfl

/-- A text without slashes does not begin with one. -/
theorem isAbsolute_of_not_mem {s : String} (h : '/' ∉ s.toList) : isAbsolute s = false := by
  rw [isAbsolute, decide_eq_false_iff_not]
  exact fun hhead => h (List.mem_of_mem_head? hhead)

/-- A text without slashes is one piece. -/
theorem pieces_of_not_mem {s : String} (h : '/' ∉ s.toList) : pieces s = [s] := by
  rw [pieces, List.splitOn_eq_singleton h, List.map_singleton, String.ofList_toList]

theorem components_slash (base path : String) :
    components (base ++ "/" ++ path) = components (base ++ "/") ++ (pieces path).filterMap component? := by
  have hlead : lead (base ++ "/" ++ path) = lead (base ++ "/") := by
    have habsolute : isAbsolute (base ++ "/" ++ path) = isAbsolute (base ++ "/") := by simp [isAbsolute]
    rw [lead, lead, habsolute, pieces_slash, pieces_append_slash, head?_pieces_append, head?_pieces_append]
  rw [components_eq, components_eq, hlead, pieces_slash, pieces_append_slash, List.filterMap_append,
    List.filterMap_append, List.append_assoc, List.append_assoc]
  rfl

theorem components_append_slash {base : String} (h : base ≠ "") : components (base ++ "/") = components base := by
  have habsolute : isAbsolute (base ++ "/") = isAbsolute base := by
    obtain ⟨c, cs, hbase⟩ := List.exists_cons_of_ne_nil fun hnil => h (String.toList_eq_nil_iff.mp hnil)
    simp [isAbsolute, hbase]
  rw [components_eq, components_eq, lead, lead, habsolute, pieces_append_slash, head?_pieces_append,
    List.filterMap_append]
  exact congrArg _ (List.append_nil _)

/-- The component of a name. -/
theorem component?_name {s : String} (h : Name s) : component? s = some (.name s) := by
  rw [component?, if_neg (by simp [h.1, h.2.1]), if_neg h.2.2]

/-- A name below a base is the last component. -/
theorem components_join {s : String} (base : String) (h : Name s) (hslash : '/' ∉ s.toList) :
    components (join base s) = components base ++ [.name s] := by
  have hrelative := isAbsolute_of_not_mem hslash
  have hname : (pieces s).filterMap component? = [.name s] := by
    rw [pieces_of_not_mem hslash, List.filterMap_cons, component?_name h]
    rfl
  by_cases hempty : base = ""
  · have hlead : lead s = [] := by
      rw [lead, hrelative, pieces_of_not_mem hslash, List.head?_cons]
      simp [h.2.1]
    have hjoin : join base s = s := by simp [join, hrelative, hempty]
    rw [hjoin, hempty, components_eq s, hlead, hname]
    rfl
  by_cases hlast : base.toList.getLast? = some '/'
  · have hjoin : join base s = base ++ s := by simp [join, hrelative, hlast]
    obtain ⟨cs, hcs⟩ := List.getLast?_eq_some_iff.mp hlast
    obtain rfl : base = String.ofList cs ++ "/" := String.ext (by simp [hcs])
    rw [hjoin, components_slash, hname]
  · have hjoin : join base s = base ++ "/" ++ s := by simp [join, hrelative, hempty, hlast]
    rw [hjoin, components_slash, components_append_slash hempty, hname]

/-! ## Components below a root -/

/-- What is left of a path below a root is what comes after the root's components. -/
theorem strip?_eq_some_iff {cs ds rest : List Component} : strip? cs ds = some rest ↔ ds = cs ++ rest := by
  induction cs generalizing ds with
  | nil => rw [strip?, Option.some_inj, List.nil_append]
  | cons c cs ih =>
    cases ds with
    | nil => simp [strip?]
    | cons d ds =>
      rw [strip?, List.cons_append, List.cons.injEq]
      split
      · next heq => rw [ih, heq, and_iff_right rfl]
      · next hne => simp [Ne.symm hne]

/-- A piece is the name of a component, or the component is the directory above. -/
theorem of_mem_filterMap {c : Component} {path : String} (h : c ∈ (pieces path).filterMap component?) :
    c = .parent ∨ ∃ s, c = .name s ∧ Name s ∧ '/' ∉ s.toList := by
  obtain ⟨piece, hpiece, hc⟩ := List.mem_filterMap.mp h
  obtain ⟨cs, hcs, rfl⟩ := List.mem_map.mp hpiece
  rw [component?] at hc
  split at hc
  · cases hc
  next hdot =>
  split at hc
  · exact .inl (Option.some.inj hc).symm
  next hup =>
  simp only [Bool.or_eq_true, decide_eq_true_eq, not_or] at hdot
  refine .inr ⟨_, (Option.some.inj hc).symm, ⟨hdot.1, hdot.2, hup⟩, ?_⟩
  rw [String.toList_ofList]
  exact not_mem_of_mem_splitOn hcs

/-- Below an absolute root there are names and steps up only. -/
theorem of_mem_below {root path : String} {rest : List Component} (hroot : isAbsolute root = true)
    (h : components path = components root ++ rest) :
    ∀ c ∈ rest, c = .parent ∨ ∃ s, c = .name s ∧ Name s ∧ '/' ∉ s.toList := by
  intro c hc
  have hlead : lead root = [.root] := if_pos hroot
  rw [components_eq root, hlead, List.singleton_append, List.cons_append, components_eq path] at h
  refine @of_mem_filterMap c path ?_
  have hshort : lead path = [] ∨ ∃ d, lead path = [d] := by
    rw [lead]
    split
    · exact .inr ⟨_, rfl⟩
    split
    · exact .inr ⟨_, rfl⟩
    · exact .inl rfl
  rcases hshort with hnone | ⟨d, hone⟩
  · rw [hnone, List.nil_append] at h
    exact h ▸ List.mem_cons_of_mem _ (List.mem_append_right _ hc)
  · rw [hone, List.singleton_append] at h
    exact (List.cons.inj h).2 ▸ List.mem_append_right _ hc

end HostPath

namespace RelPath

open HostPath

variable {root path : String} {p q : RelPath}

theorem components_foldl_join {ns : List String} (h : ∀ s ∈ ns, Name s ∧ '/' ∉ s.toList) (root : String) :
    components (ns.foldl join root) = components root ++ ns.map .name := by
  induction ns generalizing root with
  | nil => exact (List.append_nil _).symm
  | cons s ns ih =>
    rw [List.forall_mem_cons] at h
    rw [List.foldl_cons, ih h.2, components_join root h.1.1 h.1.2, List.append_assoc]
    rfl

/-- A path below a root is the root and then the names of the path. -/
theorem components_resolve (h : p.Proper) (root : String) :
    components (p.resolve root) = components root ++ p.segments.map .name :=
  components_foldl_join (fun s hs => ⟨h.name s hs, h.no_slash s hs⟩) root

theorem map_name_inj {ns ms : List String} : ns.map Component.name = ms.map .name ↔ ns = ms :=
  List.map_inj_right fun _ _ => Component.name.inj

/-- Different paths are different places below a root. -/
theorem resolve_inj (hp : p.Proper) (hq : q.Proper)
    (h : components (p.resolve root) = components (q.resolve root)) : p = q := by
  rw [components_resolve hp, components_resolve hq] at h
  obtain ⟨ps⟩ := p
  obtain ⟨qs⟩ := q
  exact congrArg _ (map_name_inj.mp (List.append_cancel_left h))

/-! ## Relative paths -/

theorem relativeNames_map (path : String) (ns : List String) : relativeNames path (ns.map .name) = .ok ns := by
  induction ns with
  | nil => rfl
  | cons s ns ih =>
    rw [List.map_cons, relativeNames, ih]
    rfl

/-- Steps up are refused. -/
theorem eq_map_of_relativeNames {cs : List Component} {ns : List String}
    (hcs : ∀ c ∈ cs, c = .parent ∨ ∃ s, c = .name s) (h : relativeNames path cs = .ok ns) : cs = ns.map .name := by
  induction cs generalizing ns with
  | nil =>
    obtain rfl := Except.ok.inj h
    rfl
  | cons c cs ih =>
    rw [List.forall_mem_cons] at hcs
    rcases hcs.1 with rfl | ⟨s, rfl⟩
    · cases h
    · rw [relativeNames] at h
      cases hrest : relativeNames path cs with
      | error e =>
        rw [hrest] at h
        cases h
      | ok ms =>
        rw [hrest] at h
        obtain rfl := Except.ok.inj h
        rw [ih hcs.2 hrest, List.map_cons]

/-- Names without backslashes are the names of the path that their text is read as. -/
theorem segments_of_parse {ns : List String} (hns : ∀ s ∈ ns, Name s ∧ '/' ∉ s.toList)
    (hback : ∀ s ∈ ns, '\\' ∉ s.toList) (h : parse (String.intercalate "/" ns) = .ok p) : p.segments = ns := by
  have hne : ns ≠ [] := by
    rintro rfl
    cases h
  obtain ⟨-, -, -, -, hnames⟩ := checks_of_parse h
  have hpieces := splitOn_intercalate hne fun s hs => (hns s hs).2
  have hunified : unified (String.intercalate "/" ns) = (String.intercalate "/" ns).toList := by
    rw [unified]
    conv_rhs => rw [← List.map_id (String.intercalate "/" ns).toList]
    refine List.map_congr_left fun c hc => if_neg ?_
    rintro rfl
    obtain ⟨piece, hpiece, hmem⟩ := exists_piece_of_mem hc (show '\\' ≠ '/' by decide)
    rw [hpieces] at hpiece
    obtain ⟨s, hs, rfl⟩ := List.mem_map.mp hpiece
    exact hback s hs hmem
  rw [hunified, hpieces, List.map_map] at hnames
  simp only [Function.comp_def, String.ofList_toList, List.map_id'] at hnames
  rw [names_of_name fun s hs => (hns s hs).1] at hnames
  exact (Except.ok.inj hnames).symm

theorem proper_of_relativeTo (h : relativeTo root path = .ok p) : p.Proper := by
  rw [relativeTo] at h
  split at h
  · cases h
  split at h
  · cases h
  · exact ⟨_, h⟩

/-- A place below an absolute root that is read as a path is made of names, which are the names of the path exactly if
none of them has a backslash in it. -/
theorem relativeTo_ok (hroot : isAbsolute root = true) (h : relativeTo root path = .ok p) :
    ∃ ns : List String, components path = components root ++ ns.map .name ∧
      (p.segments = ns ↔ ∀ s ∈ ns, '\\' ∉ s.toList) := by
  rw [relativeTo] at h
  split at h
  · cases h
  next rest hstrip =>
  split at h
  · cases h
  next ns hrelative =>
  have hbelow := strip?_eq_some_iff.mp hstrip
  have hrest := of_mem_below hroot hbelow
  obtain rfl := eq_map_of_relativeNames (fun c hc => (hrest c hc).imp_right fun ⟨s, hs, _⟩ => ⟨s, hs⟩) hrelative
  have hns : ∀ s ∈ ns, Name s ∧ '/' ∉ s.toList := by
    intro s hs
    rcases hrest (.name s) (List.mem_map_of_mem hs) with hup | ⟨t, ht, hname⟩
    · cases hup
    · cases ht
      exact hname
  refine ⟨ns, hbelow, fun hsegments s hs hmem => ?_, fun hback => segments_of_parse hns hback h⟩
  exact (Proper.mem_segment ⟨_, h⟩ (hsegments ▸ hs) hmem).1 rfl

/-- **Resolving a path and reading it relative to the root undo each other, but for backslashes and drives.** A place
below an absolute root that is read as a path consists of names below the root, and the path is resolved to the same
components exactly if none of these names has a backslash in it. An accepted path that is resolved below any root is read
as itself exactly if its text does not begin like a drive. -/
theorem relativeTo_resolve (root path raw : String) (p : RelPath) :
    (isAbsolute root = true → relativeTo root path = .ok p →
      ∃ ns : List String, components path = components root ++ ns.map .name ∧
        (components (p.resolve root) = components path ↔ ∀ s ∈ ns, '\\' ∉ s.toList)) ∧
    (parse raw = .ok p →
      relativeTo root (p.resolve root) = if p.drivelike then .error (.absolute p.text) else .ok p) := by
  refine ⟨fun hroot h => ?_, fun h => ?_⟩
  · obtain ⟨ns, hpath, hsame⟩ := relativeTo_ok hroot h
    refine ⟨ns, hpath, ?_⟩
    rw [components_resolve (proper_of_relativeTo h), hpath, List.append_cancel_left_eq, map_name_inj, hsame]
  · have hproper : p.Proper := ⟨raw, h⟩
    have hstrip := strip?_eq_some_iff.mpr (components_resolve hproper root)
    rw [relativeTo, hstrip]
    dsimp only
    rw [relativeNames_map]
    exact hproper.parse_text

/-- Doubled slashes and inner dots do not matter, nor does a colon in a name that is no drive. -/
theorem relativeTo_resolve_colon :
    components ((⟨["a", "b:"]⟩ : RelPath).resolve "/w/") = components "/w//a/./b:" ∧
      relativeTo "/w/" ((⟨["a", "b:"]⟩ : RelPath).resolve "/w/") = .ok ⟨["a", "b:"]⟩ := by
  obtain ⟨hplace, hpath⟩ := relativeTo_resolve "/w/" "/w//a/./b:" ".\\a/b:" ⟨["a", "b:"]⟩
  obtain ⟨ns, hcomponents, hsame⟩ := hplace (by decide +kernel) (by decide +kernel)
  have hns : ns = ["a", "b:"] := by
    have hbelow : components "/w//a/./b:" = components "/w/" ++ ["a", "b:"].map .name := by decide +kernel
    exact map_name_inj.mp (List.append_cancel_left (hcomponents.symm.trans hbelow))
  subst hns
  exact ⟨hsame.mpr (by decide), hpath (by decide +kernel)⟩

/-- A name with a backslash in it is read as two names, which are another place. A drive that was accepted behind a dot
is refused when it is read relative to the root. -/
theorem read_as_another :
    (relativeTo "/w" "/w/a\\b" = .ok ⟨["a", "b"]⟩ ∧
      components ((⟨["a", "b"]⟩ : RelPath).resolve "/w") ≠ components "/w/a\\b") ∧
    parse "./C:/x" = .ok ⟨["C:", "x"]⟩ ∧
      relativeTo "/w" ((⟨["C:", "x"]⟩ : RelPath).resolve "/w") = .error (.absolute "C:/x") := by
  decide +kernel

end RelPath
end Mend
