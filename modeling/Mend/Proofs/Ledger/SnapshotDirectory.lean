import Mathlib.Data.List.Sort
import Mathlib.Data.Set.List
import Mend.Proofs.Ledger.RestoreBeside
import Mend.Proofs.Ledger.SnapshotStore

/-!
# A directory of snapshots

A directory holds a table of snapshots (`Shelf`) if the document of each stands in the file that is named for it, and
nothing else is there. What is loaded and listed is then what the table shows (`Shelf.load`, `Shelf.list`), and what is
saved or removed is put into the table or taken out of it (`Shelf.exec_save`, `Shelf.exec_remove`).

A directory that is not there holds nothing, and nothing is found in it (`Vacant`); the first snapshot that is saved
makes it (`Vacant.exec_save`).
-/

namespace Mend.Snapshot

open Fs Fs.Disk Ledger
open Function (update)

/-! ## Names -/

/-- The identifier is read off the name of the snapshot's file. -/
theorem idOfName?_name (id : CycleId) : idOfName? (id.toText ++ ".json") = some id := by
  have hlist : (id.toText ++ ".json").toList = id.toText.toList ++ ".json".toList := String.toList_append
  have hsuffix : ".json".toList.isSuffixOf (id.toText ++ ".json").toList = true := by
    rw [List.isSuffixOf_iff_suffix, hlist]
    exact List.suffix_append _ _
  have htaken : (id.toText ++ ".json").toList.take
      ((id.toText ++ ".json").toList.length - ".json".toList.length) = id.toText.toList := by
    rw [hlist, List.length_append, Nat.add_sub_cancel, List.take_left]
  rw [idOfName?]
  simp only [hsuffix, if_true, htaken, String.ofList_toList, CycleId.parse_toText]
  rfl

/-- The name of a temporary file is not that of a snapshot's file. -/
theorem temporary_ne_name (id k : CycleId) : id.toText ++ ".json" ++ temporarySuffix ≠ k.toText ++ ".json" := by
  intro h
  have hlength := congrArg String.length h
  simp only [String.length_append, CycleId.length_toText] at hlength
  have hsuffix : temporarySuffix.length = 11 := by decide
  omega

/-! ## Room for the files -/

theorem mem_settled {l : Location} {s : String} (h : s ∈ l) : s ∈ Place.settled l ∨ s = "" ∨ s = "." := by
  induction l using List.reverseRecOn with
  | nil => exact absurd h (by simp)
  | append_singleton l t ih =>
    rw [settled_concat]
    split
    · next ht =>
      rcases List.mem_append.mp h with h | h
      · exact ih h
      · rw [List.mem_singleton.mp h]
        exact .inr ht
    · exact .inl h

/-- Steps at the end that stay in a directory lead nowhere else. -/
theorem follow_of_settled {v : Location → Option Node} {at_ m : Location} {l : Location} (hm : v m = some .dir)
    (h : follow v at_ (Place.settled l) = .ok m) : follow v at_ l = .ok m := by
  induction l using List.reverseRecOn with
  | nil => exact h
  | append_singleton l s ih =>
    rw [settled_concat] at h
    split at h
    · next hs =>
      rw [follow_append_of_dir (ih h) hm, follow, if_neg (not_not.mpr hm), if_pos (by simpa using hs), follow]
    · exact h

theorem pathLength_append (l m : Location) : pathLength (l ++ m) = pathLength l + pathLength m := by
  rw [pathLength_eq, pathLength_eq, pathLength_eq, List.map_append, List.sum_append]

theorem pathLength_mono {l m : Location} (h : l <+: m) : pathLength l ≤ pathLength m := by
  obtain ⟨k, rfl⟩ := h
  rw [pathLength_append]
  exact Nat.le_add_right _ _

/-- The path of a directory leaves room for the names of a snapshot's file and of its temporary file. -/
def Roomy (dir : Place) : Prop := pathLength dir.location + 43 < maxPath

section

variable {dir : Place} {d d' e e' : Disk} {id : CycleId}

/-- A name of at most 42 bytes has room in the directory. -/
theorem acceptable_concat {l : Location} {s : String} (hl : Acceptable l) (hroom : pathLength l + 43 < maxPath)
    (hnul : '\x00' ∉ s.toList) (hs : s.utf8ByteSize ≤ 42) : Acceptable (l ++ [s]) := by
  refine acceptable_iff.mpr ⟨?_, ?_⟩
  · intro t ht
    rcases List.mem_append.mp ht with ht | ht
    · exact (acceptable_iff.mp hl).1 t ht
    · rw [List.mem_singleton.mp ht]
      exact hnul
  · rw [pathLength_append]
    have hlast : pathLength [s] = s.utf8ByteSize + 1 := by simp [pathLength]
    omega

theorem utf8ByteSize_name (id : CycleId) : (id.toText ++ ".json").utf8ByteSize = 31 := by
  rw [String.utf8ByteSize_append, CycleId.utf8ByteSize_toText]
  rfl

theorem name_ne_nul (id : CycleId) : '\x00' ∉ (id.toText ++ ".json").toList := by
  rw [String.toList_append, List.mem_append, not_or]
  exact ⟨id.toText_ne_nul, by decide⟩

theorem slot_fileFor (hroom : Roomy dir) (hlocate : d.locate dir.location = .ok (resolve [] dir.location))
    (hdir : d.node? (resolve [] dir.location) = some .dir) (hleaf : d.node? (locationOf dir id) ≠ some .dir) :
    Slot d (fileFor dir id).location (locationOf dir id) := by
  obtain ⟨hpath, hfollow⟩ := locate_eq_ok_iff.mp hlocate
  refine ⟨locate_eq_ok_iff.mpr ⟨?_, ?_⟩, hleaf⟩
  · exact acceptable_concat hpath hroom (name_ne_nul id) (by rw [utf8ByteSize_name]; decide)
  · show follow d.node? [] (dir.location ++ [id.toText ++ ".json"]) = _
    rw [follow_append_of_dir hfollow hdir]
    exact follow_name hdir (fileFor_name id) (by rw [utf8ByteSize_name]; decide)

theorem fits_fileFor (hroom : Roomy dir) (hpath : Acceptable dir.location) (id : CycleId) :
    TemporaryFits (fileFor dir id) := by
  have hlocation : (temporary (fileFor dir id)).location =
      Place.settled dir.location ++ [id.toText ++ ".json" ++ temporarySuffix] := temporary_child (fileFor_name id)
  have hsize : (id.toText ++ ".json" ++ temporarySuffix).utf8ByteSize = 42 := by
    rw [String.utf8ByteSize_append, utf8ByteSize_name]
    decide
  have hsettled := prefix_of_settled dir.location
  constructor
  · rw [hlocation]
    refine acceptable_concat (Acceptable.of_prefix hpath hsettled) ?_ ?_ (by rw [hsize])
    · exact Nat.lt_of_le_of_lt (Nat.add_le_add_right (pathLength_mono hsettled) 43) hroom
    · rw [String.toList_append, List.mem_append, not_or]
      exact ⟨name_ne_nul id, by decide⟩
  · intro s hs
    obtain rfl : id.toText ++ ".json" ++ temporarySuffix = s := by simpa [hlocation] using hs
    rw [hsize]
    decide

end

/-! ## Lists of identifiers -/

/-- The newest first, each once. -/
def Descending (ids : List CycleId) : Prop := ids.Pairwise fun a b => b.value < a.value

theorem Descending.nodup {ids : List CycleId} (h : Descending ids) : ids.Nodup := by
  refine List.Pairwise.imp (fun {a b} hlt => ?_) h
  rintro rfl
  omega

/-- The keys of a table are ascending, so they are listed backwards. -/
theorem descending_keys {t : Ordered CycleId Snapshot} (h : t.Ascending) : Descending (Ordered.keys t).reverse :=
  List.pairwise_reverse.mpr (h.imp fun hlt => Nat.compare_eq_lt.mp hlt)

theorem descending_mergeSort {ids : List CycleId} (h : ids.Nodup) : Descending (ids.mergeSort fun a b => b.le a) := by
  have hsorted : (ids.mergeSort fun a b => b.le a).Pairwise fun a b => b.le a = true := by
    refine List.pairwise_mergeSort ?_ ?_ ids
    · intro a b c hab hbc
      simp only [CycleId.le, decide_eq_true_eq] at hab hbc ⊢
      omega
    · intro a b
      simp only [CycleId.le, Bool.or_eq_true, decide_eq_true_eq]
      omega
  have hnodup : (ids.mergeSort fun a b => b.le a).Nodup := (List.mergeSort_perm ids _).nodup_iff.mpr h
  refine hsorted.imp₂ (fun a b hle hne => ?_) hnodup
  have hvalue : a.value ≠ b.value := fun e => hne (CycleId.eq_of_value e)
  simp only [CycleId.le, decide_eq_true_eq] at hle
  omega

/-! ## A directory that holds a table -/

/-- The directory is there and holds the snapshots of the table, each in its file, and nothing else. -/
structure Shelf (dir : Place) (t : Ordered CycleId Snapshot) (d : Disk) : Prop where
  locate : d.locate dir.location = .ok (resolve [] dir.location)
  isDir : d.node? (resolve [] dir.location) = some .dir
  room : Roomy dir
  distinct : Distinct (resolve [] dir.location) d
  held : ∀ id, d.fileAt (locationOf dir id) = (Ordered.get? t id).map Stored.page
  only : ∀ s, d.node? (resolve [] dir.location ++ [s]) ≠ none →
    ∃ id, s = id.toText ++ ".json" ∧ (d.fileAt (locationOf dir id)).isSome

namespace Shelf

variable {dir : Place} {t t' : Ordered CycleId Snapshot} {d d' : Disk} {id : CycleId}

theorem slot (h : Shelf dir t d) (id : CycleId) : Slot d (fileFor dir id).location (locationOf dir id) := by
  refine slot_fileFor h.room h.locate h.isDir fun hdir => ?_
  obtain ⟨k, hname, hfile⟩ := h.only (id.toText ++ ".json") (by rw [← locationOf, hdir]; simp)
  obtain rfl := CycleId.toText_inj ((String.append_left_inj _).mp hname)
  rw [fileAt, hdir] at hfile
  cases hfile

theorem free (h : Shelf dir t d) (id : CycleId) : d.node? (temporaryAt (locationOf dir id)) = none := by
  by_contra hsome
  have hat : temporaryAt (locationOf dir id) =
      resolve [] dir.location ++ [id.toText ++ ".json" ++ temporarySuffix] := by simp [temporaryAt, locationOf]
  rw [hat] at hsome
  obtain ⟨k, hname, -⟩ := h.only _ hsome
  exact temporary_ne_name id k hname

/-- What is under the directory can only be told by what is in it. -/
theorem congr (h : Shelf dir t d) (hlocate : d'.locate dir.location = .ok (resolve [] dir.location))
    (hdistinct : Distinct (resolve [] dir.location) d')
    (hsame : ∀ m, resolve [] dir.location <+: m → d'.node? m = d.node? m) : Shelf dir t d' where
  locate := hlocate
  isDir := by rw [hsame _ List.prefix_rfl, h.isDir]
  room := h.room
  distinct := hdistinct
  held k := by
    have hfile : d'.fileAt (locationOf dir k) = d.fileAt (locationOf dir k) :=
      fileAt_congr (hsame _ (List.prefix_append _ _))
    rw [hfile, h.held]
  only s hs := by
    rw [hsame _ (List.prefix_append _ _)] at hs
    obtain ⟨k, hname, hfile⟩ := h.only s hs
    have hsame' : d'.fileAt (locationOf dir k) = d.fileAt (locationOf dir k) :=
      fileAt_congr (hsame _ (List.prefix_append _ _))
    exact ⟨k, hname, by rwa [hsame']⟩

/-- The file of one snapshot is changed, and the table in the same way. -/
theorem update (h : Shelf dir t d) (found : Option ByteArray) (mode : Nat)
    (hview : d'.node? = Function.update d.node? (locationOf dir id) (found.map fun c => .file c mode))
    (hdistinct : Distinct (resolve [] dir.location) d')
    (ht : ∀ k, (Ordered.get? t' k).map Stored.page = if k = id then found else (Ordered.get? t k).map Stored.page) :
    Shelf dir t' d' := by
  have hfound : d'.fileAt (locationOf dir id) = found := by
    rw [fileAt, hview, Function.update_self]
    cases found <;> rfl
  have hother {k : CycleId} (hk : k ≠ id) : d'.fileAt (locationOf dir k) = d.fileAt (locationOf dir k) :=
    fileAt_of_update hview (locationOf_ne hk)
  have hdirs : ∀ m, d.node? m = some .dir → d'.node? m = some .dir :=
    fun m => dirs_of_update (h.slot id).not_dir hview
  refine ⟨locate_mono hdirs h.locate, hdirs _ h.isDir, h.room, hdistinct, fun k => ?_, fun s hs => ?_⟩
  · rw [ht k]
    by_cases hk : k = id
    · rw [if_pos hk, hk, hfound]
    · rw [if_neg hk, hother hk, h.held]
  · by_cases hname : s = id.toText ++ ".json"
    · refine ⟨id, hname, ?_⟩
      rw [hname, ← locationOf, hview, Function.update_self] at hs
      rw [hfound]
      cases found with
      | none => exact absurd rfl hs
      | some c => rfl
    · have hne : resolve [] dir.location ++ [s] ≠ locationOf dir id := by simpa [locationOf] using hname
      rw [hview, Function.update_of_ne hne] at hs
      obtain ⟨k, hk, hfile⟩ := h.only s hs
      have hki : k ≠ id := fun e => hname (by rw [hk, e])
      exact ⟨k, hk, by rwa [hother hki]⟩

/-! ### Reading -/

/-- What is loaded is what the table shows. -/
theorem load (h : Shelf dir t d) (hstorable : ∀ s, Ordered.get? t id = some s →
    (∀ x ∈ s.files, x.Storable) ∧ s.createdAt.Storable) (d' : Disk) :
    (Session.mk d (.directory dir)).load id = (Session.mk d' (.memory t false)).load id := by
  have hread := (h.slot id).read
  rw [h.held] at hread
  simp only [Session.load]
  cases hget : Ordered.get? t id with
  | none =>
    rw [hget] at hread
    simp [hread]
  | some s =>
    rw [hget] at hread
    obtain ⟨hentries, htime⟩ := hstorable s hget
    simp [hread, ofBytes?_page hentries htime]

/-- What is listed are the keys of the table. -/
theorem list (h : Shelf dir t d) (hascending : t.Ascending) (d' : Disk) :
    (Session.mk d (.directory dir)).list = (Session.mk d' (.memory t false)).list := by
  obtain ⟨names, hnames, hnodup, hmem⟩ := names_of_locate h.locate h.isDir h.distinct
  -- the names are those of the files of some identifiers
  obtain ⟨ids, rfl⟩ : names ∈ Set.range (List.map fun k : CycleId => k.toText ++ ".json") := by
    rw [Set.range_list_map]
    intro s hs
    obtain ⟨k, hk, -⟩ := h.only s ((hmem s).mp hs)
    exact ⟨k, hk.symm⟩
  have hids : (ids.map fun k => k.toText ++ ".json").filterMap idOfName? = ids := by
    have hread : (idOfName? ∘ fun k : CycleId => k.toText ++ ".json") = some := by
      funext k
      rw [Function.comp_apply, idOfName?_name]
    rw [List.filterMap_map, hread, List.filterMap_some]
  have hperm : ids.Perm (Ordered.keys t).reverse := by
    refine (List.perm_ext_iff_of_nodup (hnodup.of_map _) (List.nodup_reverse.mpr hascending.nodup)).mpr fun k => ?_
    have hfile := h.held k
    have hleaf := (h.slot k).not_dir
    rw [List.mem_reverse, Ordered.mem_keys_iff hascending]
    constructor
    · intro hk
      have hnode : d.node? (locationOf dir k) ≠ none := (hmem _).mp (List.mem_map_of_mem hk)
      by_contra hnone
      rw [Option.not_isSome_iff_eq_none.mp hnone, Option.map_none] at hfile
      exact hnode ((h.slot k).node?_eq_none hfile)
    · intro hk
      obtain ⟨s, hs⟩ := Option.isSome_iff_exists.mp hk
      rw [hs, Option.map_some] at hfile
      obtain ⟨mode, hnode⟩ := fileAt_eq_some_iff.mp hfile
      have hlisted := (hmem (k.toText ++ ".json")).mpr (by rw [← locationOf, hnode]; simp)
      obtain ⟨k', hk', hname⟩ := List.mem_map.mp hlisted
      rwa [← CycleId.toText_inj ((String.append_left_inj _).mp hname)]
  have hsorted : (ids.mergeSort fun a b => b.le a) = (Ordered.keys t).reverse := by
    refine List.Perm.eq_of_pairwise (fun a b _ _ hab hba => ?_) (descending_mergeSort (hnodup.of_map _))
      (descending_keys hascending) ((List.mergeSort_perm ids _).trans hperm)
    omega
  simp only [Session.list, hnames, hids, hsorted]

/-! ### Changing -/

/-- A snapshot of a cycle that has none yet is put into the table. -/
theorem exec_atomicWrite (h : Shelf dir t d) (s : Snapshot) :
    ∃ d', (atomicWrite (fileFor dir s.cycle) (Stored.page s)).exec d = (.ok (), d') ∧
      Shelf dir (Ordered.insert t s.cycle s) d' ∧ ∀ m, ¬ resolve [] dir.location <+: m → d'.node? m = d.node? m := by
  have hslot := h.slot s.cycle
  obtain ⟨d', mode, hwrite, hview⟩ := Ledger.exec_atomicWrite hslot
    (fits_fileFor h.room (locate_eq_ok_iff.mp h.locate).1 s.cycle) (h.free s.cycle) (Stored.page s)
  refine ⟨d', hwrite, ?_, fun m hm => ?_⟩
  · refine h.update (some (Stored.page s)) mode hview (distinct_atomicWrite h.distinct hwrite) fun k => ?_
    rw [Ordered.get?_insert]
    by_cases hk : k = s.cycle
    · rw [if_pos hk, if_pos (hk ▸ Std.ReflCmp.compare_self), Option.map_some]
    · rw [if_neg hk, if_neg fun e => hk (Std.LawfulEqCmp.eq_of_compare e)]
  · rw [hview, Function.update_of_ne]
    rintro rfl
    exact hm (List.prefix_append _ _)

theorem exec_save (h : Shelf dir t d) (s : Snapshot) :
    ∃ d', (save s).exec ⟨d, .directory dir⟩ = (.ok (), ⟨d', .directory dir⟩) ∧
      Shelf dir (if Ordered.contains t s.cycle then t else Ordered.insert t s.cycle s) d' ∧
      ∀ m, ¬ resolve [] dir.location <+: m → d'.node? m = d.node? m := by
  have hexists : d.exists (fileFor dir s.cycle).location = Ordered.contains t s.cycle := by
    have hslot := h.slot s.cycle
    have hfile := h.held s.cycle
    rw [Disk.exists, find_of_locate hslot.locate, Ordered.contains]
    cases hget : Ordered.get? t s.cycle with
    | none =>
      rw [hget, Option.map_none] at hfile
      rw [hslot.node?_eq_none hfile]
      rfl
    | some s' =>
      rw [hget, Option.map_some] at hfile
      obtain ⟨mode, hnode⟩ := fileAt_eq_some_iff.mp hfile
      rw [hnode]
      rfl
  rw [save, Action.exec_bind_ok (Action.exec_get _)]
  dsimp only
  rw [Action.exec_bind_ok (Action.exec_get _), hexists]
  cases hcontains : Ordered.contains t s.cycle with
  | true => exact ⟨d, rfl, by simpa using h, fun _ _ => rfl⟩
  | false =>
    obtain ⟨d', hwrite, hshelf, hsame⟩ := h.exec_atomicWrite s
    refine ⟨d', ?_, by simpa using hshelf, hsame⟩
    simp [hwrite]

/-- A snapshot is taken out of the table. -/
theorem exec_remove (h : Shelf dir t d) (hascending : t.Ascending) (id : CycleId) :
    ∃ d', (remove id).exec ⟨d, .directory dir⟩ = (.ok (), ⟨d', .directory dir⟩) ∧
      Shelf dir (Ordered.erase t id) d' ∧ ∀ m, ¬ resolve [] dir.location <+: m → d'.node? m = d.node? m := by
  have hslot := h.slot id
  have hfile := h.held id
  have herase (k : CycleId) : (Ordered.get? (Ordered.erase t id) k).map Stored.page =
      if k = id then none else (Ordered.get? t k).map Stored.page := by
    rw [Ordered.get?_erase hascending]
    by_cases hk : k = id
    · rw [if_pos hk, if_pos (hk ▸ Std.ReflCmp.compare_self), Option.map_none]
    · rw [if_neg hk, if_neg fun e => hk (Std.LawfulEqCmp.eq_of_compare e)]
  rw [remove, Action.exec_bind_ok (Action.exec_get _)]
  dsimp only
  rw [Action.exec_update]
  cases hnode : d.node? (locationOf dir id) with
  | none =>
    have hunlink : d.unlink (fileFor dir id).location = .error .notFound := hslot.unlink_missing hnode
    refine ⟨d, by simp [hunlink], ?_, fun _ _ => rfl⟩
    exact h.update none 0 (by rw [Option.map_none, ← hnode, Function.update_eq_self])
      h.distinct herase
  | some n =>
    cases n with
    | dir => exact absurd hnode hslot.not_dir
    | file content mode =>
      obtain ⟨d', hunlink, hview⟩ := hslot.unlink hnode
      refine ⟨d', by simp [hunlink], ?_, fun m hm => ?_⟩
      · exact h.update none mode hview (h.distinct.unlink hunlink) herase
      · rw [hview, Function.update_of_ne]
        rintro rfl
        exact hm (List.prefix_append _ _)

end Shelf

/-! ## A directory that is not there -/

/-- A directory that is not there and can be made. The steps to it do not lead out of it again. -/
structure Vacant (dir : Place) (d : Disk) : Prop where
  absent : d.node? (resolve [] dir.location) = none
  made : (d.mkdirs (Place.settled dir.location)).1 = .ok ()
  room : Roomy dir
  straight : ∀ m, Way dir.location m → resolve [] dir.location <+: m → m = resolve [] dir.location

namespace Vacant

variable {dir : Place} {d : Disk}

theorem settled_getLast? (l : Location) : (Place.settled l).getLast? ≠ some "" := by
  induction l using List.reverseRecOn with
  | nil => simp [Place.settled]
  | append_singleton l s ih =>
    rw [settled_concat]
    split
    · exact ih
    · next hs => simpa using fun e : s = "" => hs (.inl e)

/-- Once made, the directory is empty, and the disks differ in it only. -/
theorem exists_made (h : Vacant dir d) :
    ∃ e, d.mkdirs (Place.settled dir.location) = (.ok (), e) ∧ Grown d e ∧ Shelf dir [] e ∧
      Beside dir.location d e := by
  obtain ⟨e, he⟩ : ∃ e, d.mkdirs (Place.settled dir.location) = (.ok (), e) := ⟨_, Prod.ext h.made rfl⟩
  have hgrown : Grown d e := by simpa [he] using grown_mkdirs d (Place.settled dir.location)
  have hway : ∀ m, e.node? m = d.node? m ∨ Way dir.location m ∧ d.node? m = none ∧ e.node? m = some .dir := by
    intro m
    have hmade := made_on_way d (Place.settled dir.location) m
    rw [he] at hmade
    exact hmade.imp_right fun hm => ⟨hm.1.mono (prefix_of_settled _), hm.2⟩
  obtain ⟨hlocate, hdir⟩ := locate_of_isDir (isDir_of_mkdirs (settled_getLast? dir.location) he)
  rw [resolve_settled] at hlocate hdir
  obtain ⟨hpath, hfollow⟩ := locate_eq_ok_iff.mp hlocate
  have hroom : pathLength dir.location + 43 < maxPath := h.room
  have hacceptable : Acceptable dir.location := by
    refine acceptable_iff.mpr ⟨fun s hs => ?_, by omega⟩
    rcases mem_settled hs with hs | rfl | rfl
    · exact (acceptable_iff.mp hpath).1 s hs
    · decide
    · decide
  have hempty (s : String) : e.node? (resolve [] dir.location ++ [s]) = none := by
    rcases hway (resolve [] dir.location ++ [s]) with hsame | ⟨hmade, -, -⟩
    · rw [hsame]
      exact node?_append_of_not_dir (by simp [h.absent]) (by simp)
    · have hself := h.straight _ hmade (List.prefix_append _ _)
      simp at hself
  refine ⟨e, he, hgrown, ?_, h.absent, fun m _ => hway m⟩
  refine ⟨locate_eq_ok_iff.mpr ⟨hacceptable, follow_of_settled hdir hfollow⟩, hdir, h.room, ?_, fun id => ?_,
    fun s hs => ?_⟩
  · have hdistinct := (distinct_of_absent h.absent).mkdirs (Place.settled dir.location)
    rwa [he] at hdistinct
  · exact fileAt_of_none (hempty _)
  · exact absurd (hempty s) hs

section

variable {id : CycleId}

/-- No file of a snapshot is found. -/
theorem reach_fileFor (h : Vacant dir d) (id : CycleId) :
    d.reach (fileFor dir id).location = .error .notFound ∨
      d.reach (fileFor dir id).location = .ok ⟨locationOf dir id, none⟩ := by
  obtain ⟨e, -, hgrown, hshelf, -⟩ := h.exists_made
  refine reach_before hgrown (hshelf.slot id).locate ?_
  exact node?_append_of_not_dir (by simp [h.absent]) (by simp)

theorem find_fileFor (h : Vacant dir d) (id : CycleId) : d.find (fileFor dir id).location = .error .notFound := by
  rw [Disk.find]
  rcases h.reach_fileFor id with hreach | hreach
  · rw [hreach]
  · rw [hreach]

theorem load (h : Vacant dir d) (d' : Disk) :
    (Session.mk d (.directory dir)).load id = (Session.mk d' (.memory [] false)).load id := by
  simp [Session.load, Disk.read, h.find_fileFor, Ordered.get?]

theorem list (h : Vacant dir d) (d' : Disk) :
    (Session.mk d (.directory dir)).list = (Session.mk d' (.memory [] false)).list := by
  obtain ⟨e, -, hgrown, hshelf, -⟩ := h.exists_made
  have hnames : d.names dir.location = .error .notFound := by
    rw [Disk.names]
    rcases reach_before hgrown hshelf.locate h.absent with hreach | hreach
    · rw [hreach]
    · rw [hreach]
  simp [Session.list, hnames, Ordered.keys]

theorem exec_remove (h : Vacant dir d) (id : CycleId) :
    (remove id).exec ⟨d, .directory dir⟩ = (.ok (), ⟨d, .directory dir⟩) := by
  have hunlink : d.unlink (fileFor dir id).location = .error .notFound := by
    rw [Disk.unlink]
    rcases h.reach_fileFor id with hreach | hreach
    · rw [hreach]
    · rw [hreach]
  rw [remove, Action.exec_bind_ok (Action.exec_get _)]
  dsimp only
  rw [Action.exec_update]
  simp [hunlink]

/-- The first snapshot that is saved makes the directory. -/
theorem exec_save (h : Vacant dir d) (s : Snapshot) :
    ∃ e, (save s).exec ⟨d, .directory dir⟩ = (.ok (), ⟨e, .directory dir⟩) ∧
      Shelf dir (Ordered.insert [] s.cycle s) e ∧ Beside dir.location d e := by
  obtain ⟨d₁, hmade, -, hshelf, hbeside⟩ := h.exists_made
  obtain ⟨e, hwrite, hshelf', hsame⟩ := hshelf.exec_atomicWrite s
  have hexists : d.exists (fileFor dir s.cycle).location = false := by
    rw [Disk.exists, h.find_fileFor]
  have hparent : (fileFor dir s.cycle).parent.location = Place.settled dir.location := parent_child (fileFor_name s.cycle)
  -- once the directory is made, making it once more does nothing
  have hfirst : (makeParent (fileFor dir s.cycle)).exec d = (.ok (), d₁) := by
    rw [makeParent, Action.exec_ofFun, hparent, hmade]
    rfl
  have hagain : (makeParent (fileFor dir s.cycle)).exec d₁ = (.ok (), d₁) := exec_makeParent (hshelf.slot s.cycle)
  have hwrite' : (atomicWrite (fileFor dir s.cycle) (Stored.page s)).exec d = (.ok (), e) := by
    rw [← hwrite, atomicWrite, Action.exec_bind_ok hfirst, Action.exec_bind_ok hagain]
  refine ⟨e, ?_, hshelf', hbeside.change_inside hsame⟩
  rw [save, Action.exec_bind_ok (Action.exec_get _)]
  dsimp only
  rw [Action.exec_bind_ok (Action.exec_get _), hexists]
  simp [hwrite']

end

end Vacant

end Mend.Snapshot
