import Mend.Proofs.Ledger.SnapshotDirectory

/-!
# Directories that hold snapshots among other things

A directory of snapshots may hold files of any names, and a name in it need not be that of a file. It is `Tidy` if every
name that is read as that of a snapshot is spelled as the store spells it. What is listed are then the identifiers under
whose names something stands, each once and in order (`Tidy.list`). Whatever comes of saving or removing a snapshot, the
directory stays tidy and nothing else is changed in it but a temporary file (`touched_save`, `touched_remove`).
-/

namespace Mend.Snapshot

open Fs Fs.Disk Ledger
open Function (update)

/-! ## What the write of a snapshot leaves -/

section

variable {dir : Place} {id : CycleId} {content : ByteArray} {d d' : Disk} {r : Except Ledger.Error Unit}

theorem dirs_atomicWrite {p : Place} (hrun : (atomicWrite p content).exec d = (r, d')) {m : Location}
    (hm : d.node? m = some .dir) : d'.node? m = some .dir := by
  obtain ⟨d₁, hgrown, ⟨-, rfl⟩ | ⟨-, mode, hreplace⟩⟩ := atomicWrite_cases hrun
  · exact hgrown.dir hm
  have hm₁ := hgrown.dir hm
  rcases replace_cases hreplace with ⟨-, l, k, new, hl, hk, -, hview⟩ | ⟨-, rfl | ⟨l, n, hl, hview⟩⟩
  · exact dirs_of_move hl.not_dir hk.not_dir hview hm₁
  · exact hm₁
  · exact dirs_of_update hl.not_dir hview hm₁

/-- Making the directory puts nothing into it, unless the way to it leads through what is made in it. -/
theorem node?_made (hthere : d.isDir dir.location = true ∨ ".." ∉ dir.location) (s : String) :
    (d.mkdirs (Place.settled dir.location)).2.node? (resolve [] dir.location ++ [s]) =
      d.node? (resolve [] dir.location ++ [s]) := by
  rcases hthere with hdir | hback
  · obtain ⟨hlocate, hnode⟩ := locate_of_isDir hdir
    obtain ⟨hpath, hfollow⟩ := locate_eq_ok_iff.mp hlocate
    have hsettled : d.locate (Place.settled dir.location) = .ok (resolve [] dir.location) :=
      locate_eq_ok_iff.mpr ⟨Acceptable.of_prefix hpath (prefix_of_settled _), follow_settled _ hfollow⟩
    rw [mkdirs_of_isDir (isDir_of_locate hsettled hnode)]
  · refine (made_on_way d _ _).resolve_right ?_
    rintro ⟨⟨a, ha, hat⟩, -, -⟩
    obtain ⟨b, hb⟩ := ha.trans (prefix_of_settled dir.location)
    have hprefix : resolve [] a <+: resolve [] dir.location := by
      rw [← hb, resolve_append]
      refine prefix_resolve fun hmem => hback ?_
      rw [← hb]
      exact List.mem_append_right a hmem
    rw [← hat] at hprefix
    have hlength := hprefix.length_le
    rw [List.length_append, List.length_singleton] at hlength
    omega

/-- Whatever comes of writing a snapshot's file, what stands under other names in the directory stays. -/
theorem node?_atomicWrite (hthere : d.isDir dir.location = true ∨ ".." ∉ dir.location)
    (hrun : (atomicWrite (fileFor dir id) content).exec d = (r, d')) {s : String} (hname : s ≠ id.toText ++ ".json")
    (htemporary : s ≠ id.toText ++ ".json" ++ temporarySuffix) :
    d'.node? (resolve [] dir.location ++ [s]) = d.node? (resolve [] dir.location ++ [s]) := by
  have hparent : (fileFor dir id).parent.location = Place.settled dir.location := parent_child (fileFor_name id)
  have hmade := node?_made hthere s
  rw [← hparent] at hmade
  rcases atomicWrite_parts hrun with ⟨-, rfl⟩ | ⟨d₁, mode, hmake, hreplace⟩
  · exact hmade
  obtain rfl := disk_makeParent hmake
  -- neither location is that of the name
  have hfile {k : Location} (hk : k = resolve [] (fileFor dir id).location) :
      resolve [] dir.location ++ [s] ≠ k := by
    rw [hk, resolve_fileFor, locationOf]
    simpa using hname
  have hbeside {l : Location} (hl : l = resolve [] (temporary (fileFor dir id)).location) :
      resolve [] dir.location ++ [s] ≠ l := by
    rw [hl, fileFor, resolve_temporary_child (fileFor_name id)]
    simpa using htemporary
  rw [← hmade]
  rcases replace_cases hreplace with ⟨-, l, k, new, hl, hk, hne, hview⟩ | ⟨-, hsame | ⟨l, n, hl, hview⟩⟩
  · rw [hview, Function.update_of_ne (hfile (locate_eq_resolve hk.locate)),
      Function.update_of_ne (hbeside (locate_eq_resolve hl.locate))]
  · rw [hsame]
  · rw [hview, Function.update_of_ne (hbeside (locate_eq_resolve hl.locate))]

end

/-! ## Ways to the files -/

/-- The directory is there, and the paths of the files in it can be followed. -/
structure Open (dir : Place) (d : Disk) : Prop where
  locate : d.locate dir.location = .ok (resolve [] dir.location)
  isDir : d.node? (resolve [] dir.location) = some .dir
  file : ∀ id, d.locate (fileFor dir id).location = .ok (locationOf dir id)

section

variable {dir : Place} {id : CycleId} {d d' : Disk}

/-- The paths of all files are of the same length. -/
theorem acceptable_fileFor (h : Acceptable (fileFor dir id).location) (k : CycleId) :
    Acceptable (fileFor dir k).location := by
  have hlength (k : CycleId) : pathLength (fileFor dir k).location = pathLength dir.location + 32 := by
    have hlast : pathLength [k.toText ++ ".json"] = 32 := by
      show 0 + (k.toText ++ ".json").utf8ByteSize + 1 = 32
      rw [utf8ByteSize_name]
    rw [← hlast]
    exact pathLength_append _ _
  rw [acceptable_iff, hlength] at h ⊢
  refine ⟨fun s hs => ?_, h.2⟩
  rcases List.mem_append.mp hs with hs | hs
  · exact h.1 s (List.mem_append_left _ hs)
  · rw [List.mem_singleton.mp hs]
    exact name_ne_nul k

theorem open_of_dir (hpath : Acceptable (fileFor dir id).location)
    (hfollow : follow d.node? [] dir.location = .ok (resolve [] dir.location))
    (hdir : d.node? (resolve [] dir.location) = some .dir) : Open dir d where
  locate := locate_eq_ok_iff.mpr ⟨Acceptable.of_prefix hpath (List.prefix_append _ _), hfollow⟩
  isDir := hdir
  file k := by
    refine locate_eq_ok_iff.mpr ⟨acceptable_fileFor hpath k, ?_⟩
    show follow d.node? [] (dir.location ++ [k.toText ++ ".json"]) = _
    rw [follow_append_of_dir hfollow hdir]
    exact follow_name hdir (fileFor_name k) (by rw [utf8ByteSize_name]; decide)

theorem open_of_locate {l : Location} (h : d.locate (fileFor dir id).location = .ok l) : Open dir d := by
  obtain ⟨hpath, hfollow⟩ := locate_eq_ok_iff.mp h
  obtain ⟨m, hm, hdir, -⟩ := follow_append (by simp) hfollow
  obtain rfl := eq_resolve_of_follow hm
  exact open_of_dir hpath hm hdir

namespace Open

theorem acceptable (h : Open dir d) (id : CycleId) : Acceptable (fileFor dir id).location :=
  (locate_eq_ok_iff.mp (h.file id)).1

theorem mono (h : Open dir d) (hdirs : ∀ m, d.node? m = some .dir → d'.node? m = some .dir) : Open dir d' :=
  ⟨locate_mono hdirs h.locate, hdirs _ h.isDir, fun id => locate_mono hdirs (h.file id)⟩

/-- What is loaded is told by what stands under the name. -/
theorem load_congr (h : Open dir d) (h' : Open dir d') (hsame : d'.node? (locationOf dir id) = d.node? (locationOf dir id)) :
    (Session.mk d' (.directory dir)).load id = (Session.mk d (.directory dir)).load id := by
  have hread : d'.read (fileFor dir id).location = d.read (fileFor dir id).location := by
    rw [read_of_locate (h.file id), read_of_locate (h'.file id), hsame]
  simp only [Session.load, hread]

end Open

end

/-! ## Tidy directories -/

/-- The name of a temporary file is not read as that of a snapshot's file. -/
theorem idOfName?_temporary (id : CycleId) : idOfName? (id.toText ++ ".json" ++ temporarySuffix) = none := by
  have hlast : (id.toText ++ ".json" ++ temporarySuffix).toList.getLast? = some 'p' := by
    rw [String.toList_append, List.getLast?_append]
    rfl
  unfold idOfName?
  rw [if_neg]
  intro hsuffix
  obtain ⟨t, ht⟩ := List.isSuffixOf_iff_suffix.mp hsuffix
  have hjson : ".json".toList.getLast? = some 'n' := by decide
  rw [← ht, List.getLast?_append, hjson] at hlast
  cases hlast

/-- No name stands twice in the directory, and every name that is read as that of a snapshot's file is the one that the
store gives it. The directory is there, or the way to it does not lead back. -/
structure Tidy (dir : Place) (d : Disk) : Prop where
  distinct : Distinct (resolve [] dir.location) d
  named : ∀ s id, d.node? (resolve [] dir.location ++ [s]) ≠ none → idOfName? s = some id → s = id.toText ++ ".json"
  there : d.isDir dir.location = true ∨ ".." ∉ dir.location

section

variable {dir : Place} {id : CycleId} {ids : List CycleId} {d : Disk}

/-- The identifiers that the names stand for are listed. -/
theorem list_of_names {names : List String} (hnames : d.names dir.location = .ok names) :
    (Session.mk d (.directory dir)).list = .ok ((names.filterMap idOfName?).mergeSort fun a b => b.le a) := by
  simp only [Session.list, hnames]

namespace Tidy

theorem names (h : Tidy dir d) (hlocate : d.locate dir.location = .ok (resolve [] dir.location))
    (hdir : d.node? (resolve [] dir.location) = some .dir) :
    ∃ ids, (Session.mk d (.directory dir)).list = .ok ids ∧ Descending ids ∧
      ∀ k, k ∈ ids ↔ d.node? (locationOf dir k) ≠ none := by
  obtain ⟨names, hnames, hnodup, hmem⟩ := names_of_locate hlocate hdir h.distinct
  have hread {s : String} (hs : s ∈ names) {k : CycleId} (hk : idOfName? s = some k) : s = k.toText ++ ".json" :=
    h.named s k ((hmem s).mp hs) hk
  have hids : (names.filterMap idOfName?).Nodup := by
    refine List.pairwise_filterMap.mpr (hnodup.imp_of_mem fun {s t} hs ht hne k hk j hj e => hne ?_)
    rw [hread hs hk, hread ht hj, e]
  refine ⟨_, list_of_names hnames, descending_mergeSort hids, fun k => ?_⟩
  rw [List.mem_mergeSort, List.mem_filterMap]
  constructor
  · rintro ⟨s, hs, hk⟩
    rw [locationOf, ← hread hs hk]
    exact (hmem s).mp hs
  · intro hthere
    exact ⟨_, (hmem _).mpr hthere, idOfName?_name k⟩

/-- What is listed stands under its name, and the other way round. If anything is listed, the directory is there. -/
theorem list (h : Tidy dir d) (hlist : (Session.mk d (.directory dir)).list = .ok ids) :
    Descending ids ∧ (∀ k, k ∈ ids ↔ d.node? (locationOf dir k) ≠ none) ∧
      (ids ≠ [] → follow d.node? [] dir.location = .ok (resolve [] dir.location) ∧
        d.node? (resolve [] dir.location) = some .dir) := by
  by_cases hmissing : d.names dir.location = .error .notFound
  · have hids : ids = [] := by
      simp only [Session.list, hmissing] at hlist
      exact (Except.ok.inj hlist).symm
    have hback : ".." ∉ dir.location := by
      refine h.there.resolve_left fun hdir => ?_
      obtain ⟨hlocate, hnode⟩ := locate_of_isDir hdir
      obtain ⟨names, hnames, -⟩ := names_of_locate hlocate hnode h.distinct
      rw [hmissing] at hnames
      cases hnames
    have hnone := node?_of_names_notFound hmissing hback
    subst hids
    refine ⟨List.Pairwise.nil, fun k => ?_, fun hne => absurd rfl hne⟩
    have hk : d.node? (locationOf dir k) = none := node?_append_of_not_dir (by simp [hnone]) (by simp)
    simp [hk]
  · obtain ⟨hlocate, hdir⟩ : d.locate dir.location = .ok (resolve [] dir.location) ∧
        d.node? (resolve [] dir.location) = some .dir := by
      refine locate_of_isDir ?_
      unfold Session.list at hlist
      dsimp only at hlist
      cases hnames : d.names dir.location with
      | error e =>
        rw [hnames] at hlist hmissing
        cases e <;> first | exact absurd rfl hmissing | cases hlist
      | ok names =>
        unfold Disk.names at hnames
        unfold Disk.isDir Disk.find
        split at hnames
        · cases hnames
        · cases hnames
        · cases hnames
        · next l cs hreach =>
          rw [hreach]
          rfl
    obtain ⟨ids', hlist', hdescending, hmem⟩ := h.names hlocate hdir
    obtain rfl := Except.ok.inj (hlist'.symm.trans hlist)
    exact ⟨hdescending, hmem, fun _ => ⟨(locate_eq_ok_iff.mp hlocate).2, hdir⟩⟩

end Tidy

/-! ### Changes -/

/-- The directory after the snapshot of one cycle was saved or removed, or at least tried to. -/
structure Touched (dir : Place) (id : CycleId) (d d' : Disk) : Prop where
  tidy : Tidy dir d'
  dirs : ∀ m, d.node? m = some .dir → d'.node? m = some .dir
  other : ∀ k ≠ id, d'.node? (locationOf dir k) = d.node? (locationOf dir k)

theorem Tidy.touched (h : Tidy dir d) (id : CycleId) : Touched dir id d d :=
  ⟨h, fun _ hm => hm, fun _ _ => rfl⟩

/-- Only the snapshot's file and its temporary file may have changed. -/
theorem Tidy.touched_of (h : Tidy dir d) {d' : Disk} (hdistinct : Distinct (resolve [] dir.location) d')
    (hdirs : ∀ m, d.node? m = some .dir → d'.node? m = some .dir)
    (hother : ∀ s, s ≠ id.toText ++ ".json" → s ≠ id.toText ++ ".json" ++ temporarySuffix →
      d'.node? (resolve [] dir.location ++ [s]) = d.node? (resolve [] dir.location ++ [s])) :
    Touched dir id d d' where
  tidy := by
    refine ⟨hdistinct, fun s k hs hk => ?_, ?_⟩
    · by_cases hname : s = id.toText ++ ".json"
      · rw [hname, idOfName?_name] at hk
        rw [hname, Option.some.inj hk]
      have htemporary : s ≠ id.toText ++ ".json" ++ temporarySuffix := by
        rintro rfl
        rw [idOfName?_temporary] at hk
        cases hk
      rw [hother s hname htemporary] at hs
      exact h.named s k hs hk
    · refine h.there.imp_left fun hdir => ?_
      obtain ⟨hlocate, hnode⟩ := locate_of_isDir hdir
      exact isDir_of_locate (locate_mono hdirs hlocate) (hdirs _ hnode)
  dirs := hdirs
  other k hk := by
    refine hother _ (fun e => hk (CycleId.toText_inj ((String.append_left_inj _).mp e))) fun e => ?_
    exact temporary_ne_name id k e.symm

theorem touched_save (h : Tidy dir d) (s : Snapshot) {r : Except Ledger.Error Unit} {y : Session}
    (hrun : (save s).exec ⟨d, .directory dir⟩ = (r, y)) :
    ∃ d', y = ⟨d', .directory dir⟩ ∧ Touched dir s.cycle d d' ∧
      (r = .ok () → d.node? (locationOf dir s.cycle) = none →
        Open dir d' ∧ d'.node? (locationOf dir s.cycle) ≠ none) := by
  rw [save, Action.exec_bind_ok (Action.exec_get _)] at hrun
  dsimp only at hrun
  rw [Action.exec_bind_ok (Action.exec_get _)] at hrun
  by_cases hexists : d.exists (fileFor dir s.cycle).location = true
  · rw [if_pos hexists] at hrun
    obtain ⟨-, rfl⟩ := Prod.mk.inj hrun
    refine ⟨d, rfl, h.touched s.cycle, fun _ hnone => ?_⟩
    -- what exists is not absent
    unfold Disk.exists at hexists
    cases hfind : d.find (fileFor dir s.cycle).location with
    | error e =>
      rw [hfind] at hexists
      cases hexists
    | ok n =>
      obtain ⟨l, hlocate, hnode⟩ := locate_of_find hfind
      rw [locate_eq_resolve hlocate, resolve_fileFor, hnone] at hnode
      cases hnode
  · rw [if_neg hexists, Action.exec_zoom] at hrun
    rcases hwrite : (atomicWrite (fileFor dir s.cycle) (Stored.page s)).exec d with ⟨r', d'⟩
    rw [hwrite] at hrun
    obtain ⟨rfl, rfl⟩ := Prod.mk.inj hrun
    have hdirs (m : Location) (hm : d.node? m = some .dir) : d'.node? m = some .dir := dirs_atomicWrite hwrite hm
    refine ⟨d', rfl, ?_, fun hok _ => ?_⟩
    · refine h.touched_of (distinct_atomicWrite h.distinct hwrite) hdirs fun t hname htemporary => ?_
      exact node?_atomicWrite h.there hwrite hname htemporary
    · obtain rfl : r' = .ok () := hok
      obtain ⟨d₁, l, k, mode, -, hl, hk, -, hview⟩ := atomicWrite_ok hwrite
      obtain rfl : k = locationOf dir s.cycle := by rw [locate_eq_resolve hk.locate, resolve_fileFor]
      have hopen : Open dir d₁ := open_of_locate hk.locate
      exact ⟨hopen.mono fun m => dirs_of_move hl.not_dir hk.not_dir hview, by simp [hview]⟩

theorem touched_remove (h : Tidy dir d) (id : CycleId) {r : Except Ledger.Error Unit} {y : Session}
    (hrun : (remove id).exec ⟨d, .directory dir⟩ = (r, y)) :
    ∃ d', y = ⟨d', .directory dir⟩ ∧ Touched dir id d d' ∧
      (r = .ok () → Open dir d → d'.node? (locationOf dir id) = none) := by
  rw [remove, Action.exec_bind_ok (Action.exec_get _)] at hrun
  dsimp only at hrun
  rw [Action.exec_update] at hrun
  cases hunlink : d.unlink (fileFor dir id).location with
  | ok d' =>
    rw [hunlink] at hrun
    obtain ⟨-, rfl⟩ := Prod.mk.inj hrun
    obtain ⟨l, hslot, hview⟩ := unlink_ok hunlink
    obtain rfl : l = locationOf dir id := by rw [locate_eq_resolve hslot.locate, resolve_fileFor]
    refine ⟨d', rfl, ?_, fun _ _ => by rw [hview, Function.update_self]⟩
    refine h.touched_of (h.distinct.unlink hunlink) (fun m => dirs_of_update hslot.not_dir hview) fun s hname _ => ?_
    rw [hview, Function.update_of_ne]
    simpa [locationOf] using hname
  | error e =>
    rw [hunlink] at hrun
    have hfailed : y = ⟨d, .directory dir⟩ ∧ (r = .ok () → e = .notFound) := by
      cases e <;> obtain ⟨rfl, rfl⟩ := Prod.mk.inj hrun <;> simp
    refine ⟨d, hfailed.1, h.touched id, fun hok hopen => ?_⟩
    rw [hfailed.2 hok] at hunlink
    exact node?_of_unlink_notFound (hopen.file id) hunlink

end

end Mend.Snapshot
