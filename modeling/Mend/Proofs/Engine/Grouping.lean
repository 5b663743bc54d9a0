import Mend.Proofs.Engine.Batch
import Mend.Proofs.Path.Resolve

/-!
# One group for each file

Repairs are grouped by the paths of their files, and a file is captured by its path. A path leads straight down from
the root to a place of its own (`below_and_apart`), so that the repairs of one file are all in one group, in the order in
which they were given, and no file is captured twice.
-/

namespace Mend

open Fs HostPath
open Action

/-- A name of a file or a directory in a path text. -/
structure RelPath.Ordinary (s : String) : Prop where
  ne_empty : s ≠ ""
  ne_current : s ≠ "."
  ne_parent : s ≠ ".."
  relative : isAbsolute s = false
  no_slash : '/' ∉ s.toList
  no_backslash : '\\' ∉ s.toList
  no_nul : '\x00' ∉ s.toList

theorem RelPath.Proper.ordinary {p : RelPath} (h : p.Proper) : ∀ s ∈ p.segments, Ordinary s := by
  intro s hs
  have hslash := h.no_slash s hs
  have hname := h.name s hs
  exact ⟨hname.1, hname.2.1, hname.2.2, isAbsolute_of_not_mem hslash, hslash, fun hc => (h.mem_segment hs hc).1 rfl,
    fun hc => (h.mem_segment hs hc).2 rfl⟩

namespace Batch

variable {σ : Type} {fixes : List (Fix σ)} {b : Batch}

/-- The group of a file has the repairs whose files have the same place in the order. -/
theorem get?_byFile (fixes : List (Fix σ)) (p : RelPath) :
    Ordered.get? (byFile fixes) p =
      let group := fixes.filter fun f => compare p f.issue.file = .eq
      if group = [] then none else some group := by
  induction fixes using List.reverseRecOn generalizing p with
  | nil => rfl
  | append_singleton fixes f ih =>
    have hgroup : (Ordered.get? (byFile fixes) f.issue.file).getD [] =
        fixes.filter fun k => compare f.issue.file k.issue.file = .eq := by
      rw [ih]
      dsimp only
      split
      · next hnone => rw [hnone]; rfl
      · rfl
    have hstep : byFile (fixes ++ [f]) = Ordered.insert (byFile fixes) f.issue.file
        ((Ordered.get? (byFile fixes) f.issue.file).getD [] ++ [f]) := by rw [byFile, List.foldl_concat]; rfl
    rw [hstep, hgroup, Ordered.get?_insert, List.filter_append]
    by_cases hfile : compare p f.issue.file = .eq
    · have hsame (k : Fix σ) : compare f.issue.file k.issue.file = compare p k.issue.file :=
        (Std.TransCmp.congr_left hfile).symm
      simp [hfile, hsame]
    · simp [hfile, ih]

/-- The group of a file has all repairs of the file, in their order. -/
theorem mem_byFile (hproper : ∀ f ∈ fixes, f.issue.file.Proper) {f : Fix σ} (hf : f ∈ fixes) :
    (f.issue.file, fixes.filter fun k => k.issue.file = f.issue.file) ∈ byFile fixes := by
  have hsame : ∀ k ∈ fixes, (compare f.issue.file k.issue.file = .eq ↔ k.issue.file = f.issue.file) := by
    intro k hk
    refine ⟨fun hcmp => ((hproper f hf).eq_of_compare (hproper k hk) hcmp).symm, fun heq => ?_⟩
    rw [heq]
    exact Std.ReflCmp.compare_self
  have hgroup : (fixes.filter fun k => compare f.issue.file k.issue.file = .eq) =
      fixes.filter fun k => k.issue.file = f.issue.file :=
    List.filter_congr fun k hk => by rw [decide_eq_decide, hsame k hk]
  have hne : (fixes.filter fun k => k.issue.file = f.issue.file) ≠ [] :=
    List.ne_nil_of_mem (List.mem_filter.mpr ⟨hf, by simp⟩)
  have hget := get?_byFile fixes f.issue.file
  rw [hgroup, if_neg hne] at hget
  obtain ⟨p, hp, hmem⟩ := (Ordered.get?_eq_some_iff_exists (ascending_byFile fixes)).mp hget
  obtain ⟨k, hk, rfl⟩ := exists_of_mem_byFile (List.mem_map_of_mem hmem)
  rwa [(hsame k hk).mp hp] at hmem

variable (root : String)

/-- Different paths are apart below a root. -/
theorem pairwise_apart {α : Type} {xs : List α} {path : α → RelPath} (hproper : ∀ x ∈ xs, (path x).Proper)
    (h : (xs.map path).Nodup) :
    xs.Pairwise fun x y => components ((path x).resolve root) ≠ components ((path y).resolve root) := by
  refine (List.pairwise_map.mp h).imp_of_mem fun hx hy hne hsame => ?_
  exact hne (RelPath.resolve_inj (hproper _ hx) (hproper _ hy) hsame)

theorem proper_of_mem_byFile (hproper : ∀ f ∈ fixes, f.issue.file.Proper) {p : RelPath}
    (h : p ∈ Ordered.keys (byFile fixes)) : p.Proper := by
  obtain ⟨f, hf, rfl⟩ := exists_of_mem_byFile h
  exact hproper f hf

/-- The repairs whose files are the same below a root are one group. -/
theorem mem_byFile_resolve (hproper : ∀ f ∈ fixes, f.issue.file.Proper) {f : Fix σ} (hf : f ∈ fixes) :
    (f.issue.file, fixes.filter fun k =>
      components (k.issue.file.resolve root) = components (f.issue.file.resolve root)) ∈ byFile fixes := by
  have hgroup : (fixes.filter fun k =>
      components (k.issue.file.resolve root) = components (f.issue.file.resolve root)) =
      fixes.filter fun k => k.issue.file = f.issue.file := by
    refine List.filter_congr fun k hk => ?_
    rw [decide_eq_decide]
    exact ⟨RelPath.resolve_inj (hproper k hk) (hproper f hf), fun hfile => by rw [hfile]⟩
  rw [hgroup]
  exact mem_byFile hproper hf

/-- The captures of a batch are of files that are apart. -/
theorem captures_apart (hproper : ∀ f ∈ fixes, f.issue.file.Proper) {g : Registry} {maxLines : Count} {place : Place}
    {deadline : Option Deadline} {w w' : Workspace}
    (hrun : (prepare g maxLines place deadline fixes).exec w = (.ok b, w')) :
    (b.map Prepared.capture).Pairwise fun x y =>
      components (x.path.resolve root) ≠ components (y.path.resolve root) := by
  obtain ⟨rs, hprepare, hcollect⟩ := exec_prepare_ok hrun
  have hfiles : (b.map Prepared.capture).map Snapshot.Capture.path = b.map Prepared.file := by
    rw [List.map_map]
    rfl
  refine pairwise_apart root (fun c hc => ?_) (hfiles ▸ nodup_of_prepare hrun)
  have hfile : c.path ∈ b.map Prepared.file := hfiles ▸ List.mem_map_of_mem hc
  exact proper_of_mem_byFile hproper ((files_of_collect hprepare hcollect).subset hfile)

/-- **Paths lead straight down from the root, each to a place of its own.** An accepted path that is resolved below a
root has the components of the root and after them one or more ordinary names. On a disk it leads to these names below
the root, if it leads to anything. Another path never has the same components below the root. So the repairs of a
file that the components name are all in one group, no two groups are of the same file, and the captures of a batch are
of different files. -/
theorem below_and_apart {raw : String} {p : RelPath} (h : RelPath.parse raw = .ok p) :
    (components (p.resolve root) = components root ++ p.segments.map .name ∧ p.segments ≠ [] ∧
      ∀ s ∈ p.segments, RelPath.Ordinary s) ∧
    (∀ (d : Disk) (place : Place) (l : Location), d.locate (place.file p).location = .ok l →
      l = Disk.resolve [] place.location ++ p.segments) ∧
    (∀ (other : String) (q : RelPath), RelPath.parse other = .ok q → p ≠ q →
      components (p.resolve root) ≠ components (q.resolve root)) ∧
    (∀ fixes : List (Fix σ), (∀ f ∈ fixes, f.issue.file.Proper) →
      (∀ f ∈ fixes, (f.issue.file, fixes.filter fun k =>
        components (k.issue.file.resolve root) = components (f.issue.file.resolve root)) ∈ byFile fixes) ∧
      (byFile fixes).Pairwise (fun x y => components (x.1.resolve root) ≠ components (y.1.resolve root)) ∧
      ∀ g maxLines place deadline w w' b, (prepare g maxLines place deadline fixes).exec w = (.ok b, w') →
        (b.map Prepared.capture).Pairwise fun x y =>
          components (x.path.resolve root) ≠ components (y.path.resolve root)) := by
  have hproper : p.Proper := ⟨raw, h⟩
  refine ⟨⟨RelPath.components_resolve hproper root, hproper.ne_nil, hproper.ordinary⟩,
    fun d place l hl => RelPath.locate_file hproper hl, fun other q hq hne hsame => ?_,
    fun fixes hall => ⟨fun f hf => mem_byFile_resolve root hall hf, ?_, ?_⟩⟩
  · exact hne (RelPath.resolve_inj hproper ⟨other, hq⟩ hsame)
  · exact pairwise_apart root (fun x hx => proper_of_mem_byFile hall (List.mem_map_of_mem hx))
      (ascending_byFile fixes).nodup
  · exact fun g maxLines place deadline w w' b hrun => captures_apart root hall hrun

/-- A repair of a line. -/
def repairOf (file : RelPath) (line : Count) : Fix Unit :=
  { (default : Fix Unit) with issue := { (default : Issue) with file := file, line := line } }

/-- A name may look like a drive, and backslashes and dots of the text do not matter: both repairs of the file are in its
group, and that of another file is not. -/
theorem below_and_apart_colon :
    components ((⟨["a", "C:"]⟩ : RelPath).resolve "/w/") = components "/w/" ++ [.name "a", .name "C:"] ∧
      components ((⟨["a", "C:"]⟩ : RelPath).resolve "/w/") ≠ components ((⟨["C:"]⟩ : RelPath).resolve "/w/") ∧
      (⟨["a", "C:"]⟩, [repairOf ⟨["a", "C:"]⟩ 1, repairOf ⟨["a", "C:"]⟩ 2]) ∈
        byFile [repairOf ⟨["a", "C:"]⟩ 1, repairOf ⟨["C:"]⟩ 1, repairOf ⟨["a", "C:"]⟩ 2] := by
  have hfirst : RelPath.parse "a\\.//C:" = .ok ⟨["a", "C:"]⟩ := by decide +kernel
  have hother : RelPath.parse "./C:" = .ok ⟨["C:"]⟩ := by decide +kernel
  have hall : ∀ f ∈ [repairOf ⟨["a", "C:"]⟩ 1, repairOf ⟨["C:"]⟩ 1, repairOf ⟨["a", "C:"]⟩ 2],
      f.issue.file.Proper := by
    simp only [List.forall_mem_cons, List.not_mem_nil, false_implies, implies_true, and_true]
    exact ⟨⟨_, hfirst⟩, ⟨_, hother⟩, ⟨_, hfirst⟩⟩
  obtain ⟨⟨hbelow, -, -⟩, -, hapart, hgroups⟩ := below_and_apart (σ := Unit) "/w/" hfirst
  refine ⟨hbelow, hapart _ _ hother (by decide), ?_⟩
  convert (hgroups _ hall).1 _ List.mem_cons_self using 2
  · rfl
  · decide +kernel

end Batch
end Mend
