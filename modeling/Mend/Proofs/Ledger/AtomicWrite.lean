import Mathlib.Algebra.GroupWithZero.Nat
import Mathlib.Data.List.Induction
import Mend.Ledger.Files
import Mend.Proofs.Action
import Mend.Proofs.Fs.Change

/-!
# Atomic writes

A write to a slot goes by what stands at the location of its temporary file. A directory there, or a name that the
system does not take, hinders it, and the disk is as it was (`exec_atomicWrite_hindered`); otherwise it replaces the
file, and no temporary file is left (`exec_atomicWrite_free`). In particular, if the name is free and not too long,
nothing else changes (`exec_atomicWrite`).
-/

namespace Mend.Ledger

open Fs Fs.Disk
open Function (update)

/-! ## The directory around a slot -/

theorem settled_concat (l : Location) (s : String) :
    Place.settled (l ++ [s]) = if s = "" ∨ s = "." then Place.settled l else l ++ [s] := by
  simp only [Place.settled, List.reverse_append, List.reverse_singleton, List.singleton_append,
    List.dropWhile_cons]
  by_cases h : s = "" ∨ s = "."
  · simp [h]
  · simp [h]

theorem prefix_of_settled (l : Location) : Place.settled l <+: l := by
  rw [Place.settled, ← List.reverse_suffix, List.reverse_reverse]
  exact List.dropWhile_suffix _

/-- Steps that stay in a directory lead nowhere else. -/
theorem follow_settled {v : Location → Option Node} {at_ m : Location} (init : Location)
    (h : follow v at_ init = .ok m) : follow v at_ (Place.settled init) = .ok m := by
  induction init using List.reverseRecOn with
  | nil => exact h
  | append_singleton init s ih =>
    rw [settled_concat]
    split
    · next hs =>
      obtain ⟨k, hk, hkd, hlast⟩ := follow_append (by simp) h
      have : k = m := by
        rw [follow, if_neg (not_not.mpr hkd), if_pos (by simpa using hs)] at hlast
        exact Except.ok.inj hlast
      exact ih (this ▸ hk)
    · exact h

theorem pathLength_eq (l : Location) : pathLength l = (l.map fun s => s.utf8ByteSize + 1).sum := by
  suffices h : ∀ n, l.foldl (fun n s => n + s.utf8ByteSize + 1) n =
      n + (l.map fun s => s.utf8ByteSize + 1).sum by
    simpa [pathLength] using h 0
  induction l with
  | nil => simp
  | cons s l ih => intro n; rw [List.foldl_cons, ih]; simp; omega

/-- A part of a path that the system takes is taken as well. -/
theorem Acceptable.of_prefix {l m : Location} (h : Acceptable m) (hl : l <+: m) : Acceptable l := by
  obtain ⟨k, rfl⟩ := hl
  obtain ⟨hnul, hlong⟩ := h
  rw [List.any_append, Bool.or_eq_false_iff] at hnul
  rw [pathLength_eq, List.map_append, List.sum_append] at hlong
  exact ⟨hnul.1, by rw [pathLength_eq]; omega⟩

theorem disk_makeParent {p : Place} {d d' : Disk} {r : Except Ledger.Error Unit}
    (h : (makeParent p).exec d = (r, d')) : d' = (d.mkdirs p.parent.location).2 := (congrArg Prod.snd h).symm

section Slot

variable {d : Disk} {p : Place} {l : Location}

/-- The parts of the path of a slot, and the steps to its directory and to its temporary file. -/
theorem slot_parts (h : Slot d p.location l) :
    ∃ base init name, p.location = init ++ [name] ∧ l = base ++ [name] ∧ name ≠ ".." ∧
      p.parent.location = Place.settled init ∧
      (temporary p).location = Place.settled init ++ [name ++ temporarySuffix] ∧
      d.locate (Place.settled init) = .ok base ∧ d.node? base = some .dir := by
  obtain ⟨base, init, name, hp, hl, hname, -, hinit, hbase⟩ := h.cut
  have hsettled : Place.settled p.location = init ++ [name] := by
    rw [hp, settled_concat, if_neg (by simp [hname])]
  have hparent : p.parent.location = Place.settled init := by
    simp only [Place.parent, hsettled, List.dropLast_concat]
  have htemporary : (temporary p).location = Place.settled init ++ [name ++ temporarySuffix] := by
    rw [temporary, Place.suffixed, Place.name?, hsettled]
    simp [Option.filter, hname, Place.child, hparent]
  have hpath := (locate_eq_ok_iff.mp h.locate).1
  rw [hp] at hpath
  have hsome : Acceptable (Place.settled init) :=
    Acceptable.of_prefix hpath ((prefix_of_settled init).trans (List.prefix_append _ _))
  exact ⟨base, init, name, hp, hl, hname.2.2, hparent, htemporary,
    locate_eq_ok_iff.mpr ⟨hsome, follow_settled init hinit⟩, hbase⟩

/-- The directory around a slot is there already. -/
theorem exec_makeParent (h : Slot d p.location l) : (makeParent p).exec d = (.ok (), d) := by
  obtain ⟨base, init, name, -, -, -, hparent, -, hlocate, hbase⟩ := slot_parts h
  rw [← hparent] at hlocate
  rw [makeParent, Action.exec_ofFun, mkdirs_of_isDir (isDir_of_locate hlocate hbase)]
  rfl

end Slot

/-! ## The temporary file -/

/-- Where the temporary file of a file's location is. -/
def temporaryAt (l : Location) : Location := l.dropLast ++ [l.getLast?.getD "" ++ temporarySuffix]

/-- The system takes the path of the temporary file, and its name. -/
structure TemporaryFits (p : Place) : Prop where
  path : Acceptable (temporary p).location
  name : ∀ s ∈ (temporary p).location.getLast?, s.utf8ByteSize ≤ maxName

theorem append_temporarySuffix_ne (s : String) : s ++ temporarySuffix ≠ s := by
  intro h
  have := congrArg String.length h
  rw [String.length_append] at this
  have : temporarySuffix.length = 11 := by decide
  omega

/-- A name with the suffix of a temporary file is a name. -/
theorem temporary_name (s : String) :
    s ++ temporarySuffix ≠ "" ∧ s ++ temporarySuffix ≠ "." ∧ s ++ temporarySuffix ≠ ".." := by
  have hlong : 11 ≤ (s ++ temporarySuffix).length := by
    rw [String.length_append, show temporarySuffix.length = 11 by decide]
    omega
  refine ⟨?_, ?_, ?_⟩ <;> intro h <;> rw [h] at hlong <;> exact absurd hlong (by decide)

theorem temporaryAt_ne (l : Location) (hl : l ≠ []) : temporaryAt l ≠ l := by
  obtain ⟨base, name, rfl⟩ : ∃ base name, l = base ++ [name] := ⟨_, _, (List.dropLast_concat_getLast hl).symm⟩
  simpa [temporaryAt] using append_temporarySuffix_ne name

/-- What hinders the writing of the temporary file of a place, where `found` stands at its location: the system does not
take its path or its name, or a directory stands there. -/
def obstacle (p : Place) (found : Option Node) : Option Fs.Error :=
  let steps := (temporary p).location
  if steps.any fun s => s.toList.contains '\x00' then some .nulInName
  else if maxPath ≤ pathLength steps then some .nameTooLong
  else if maxName < (steps.getLast?.getD "").utf8ByteSize then some .nameTooLong
  else if found = some .dir then some .isDirectory
  else none

theorem obstacle_eq_none_iff {p : Place} {found : Option Node} :
    obstacle p found = none ↔ TemporaryFits p ∧ found ≠ some .dir := by
  rw [obstacle]
  constructor
  · intro h
    split at h
    · cases h
    next hnul =>
    split at h
    · cases h
    next hpath =>
    split at h
    · cases h
    next hname =>
    split at h
    · cases h
    next hdir =>
    refine ⟨⟨⟨Bool.eq_false_iff.mpr hnul, by omega⟩, fun s hs => ?_⟩, hdir⟩
    rw [Option.mem_def.mp hs, Option.getD_some] at hname
    omega
  · rintro ⟨⟨⟨hnul, hpath⟩, hname⟩, hdir⟩
    have hshort : ¬ maxName < ((temporary p).location.getLast?.getD "").utf8ByteSize := by
      cases hlast : (temporary p).location.getLast? with
      | none => decide
      | some s => exact Nat.not_lt.mpr (hname s hlast)
    rw [hnul, if_neg (by simp), if_neg (by omega), if_neg hshort, if_neg hdir]

/-- The temporary file can be opened unless it is hindered. -/
theorem reachFile_temporary {d : Disk} {p : Place} {l : Location} (h : Slot d p.location l) :
    d.reachFile (temporary p).location =
      match obstacle p (d.node? (temporaryAt l)) with
      | some e => .error e
      | none => .ok ⟨temporaryAt l, d.tree.at? (temporaryAt l)⟩ := by
  obtain ⟨base, init, name, -, hl, -, -, htemporary, hlocate, hbase⟩ := slot_parts h
  have hat : temporaryAt l = base ++ [name ++ temporarySuffix] := by simp [temporaryAt, hl]
  have hname := temporary_name name
  have hlast : (temporary p).location.getLast? = some (name ++ temporarySuffix) := by simp [htemporary]
  have hslash : (temporary p).location.getLast? ≠ some "" := by simpa [hlast] using hname.1
  have hun : unslashed (temporary p).location = (temporary p).location := by rw [unslashed, if_neg hslash]
  rw [reachFile, hun, obstacle]
  by_cases hnul : ((temporary p).location.any fun s => s.toList.contains '\x00') = true
  · rw [reach, if_pos hnul, if_pos hnul]
  by_cases hpath : maxPath ≤ pathLength (temporary p).location
  · rw [reach, if_neg hnul, if_pos hpath, if_neg hnul, if_pos hpath]
  have hreach := @reach_eq d (temporary p).location ⟨Bool.eq_false_iff.mpr hnul, by omega⟩
  rw [htemporary, follow_append_of_dir (locate_eq_ok_iff.mp hlocate).2 hbase, ← htemporary] at hreach
  rw [if_neg hnul, if_neg hpath, hlast, Option.getD_some]
  by_cases hlong : maxName < (name ++ temporarySuffix).utf8ByteSize
  · rw [follow, if_neg (not_not.mpr hbase), if_neg (by simp [hname]), if_neg hname.2.2, if_pos hlong] at hreach
    rw [hreach, if_pos hlong]
    rfl
  · rw [follow_name hbase hname (by omega), ← hat] at hreach
    rw [hreach, if_neg hlong]
    by_cases hdir : d.node? (temporaryAt l) = some .dir
    · have htree : (d.tree.at? (temporaryAt l)).map Fs.Tree.node = some .dir := hdir
      simp [Except.map, htree, hdir]
    · have htree : (d.tree.at? (temporaryAt l)).map Fs.Tree.node ≠ some .dir := hdir
      simp [Except.map, htree, hdir, hname.1]

/-! ## Disks without temporary files -/

/-- No name on the disk belongs to a temporary file. -/
def NoTemporary (d : Disk) : Prop := ∀ m name, d.node? (m ++ [name ++ temporarySuffix]) = none

theorem NoTemporary.update {d d' : Disk} {l : Location} {s : String} {n : Option Node} (h : NoTemporary d)
    (hs : ∀ name, s ≠ name ++ temporarySuffix) (hview : d'.node? = update d.node? (l ++ [s]) n) : NoTemporary d' := by
  intro m name
  have hne : m ++ [name ++ temporarySuffix] ≠ l ++ [s] := by
    intro e
    have hlast : name ++ temporarySuffix = s := by simpa using congrArg List.getLast? e
    exact hs name hlast.symm
  rw [hview, Function.update_of_ne hne, h m name]

/-- The names on a disk are told by their last letter. -/
theorem noTemporary_of_entries {d : Disk} (h : ∀ x ∈ d.entries, ∀ s ∈ x.1.getLast?, s.toList.getLast? ≠ some 'p') :
    NoTemporary d := by
  intro m name
  by_contra hnode
  obtain ⟨n, hn⟩ := Option.ne_none_iff_exists'.mp hnode
  refine h _ (mem_entries hn (by simp)) (name ++ temporarySuffix) (by simp) ?_
  simp [String.toList_append, temporarySuffix]

/-! ## Writing -/

theorem rename_slot {d : Disk} {source target s l : Location} (hs : Slot d source s) (hl : Slot d target l)
    {content : ByteArray} {mode : Nat} (hfile : d.node? s = some (.file content mode)) (hne : s ≠ l) :
    ∃ d', d.rename source target = .ok d' ∧
      d'.node? = update (update d.node? s none) l (some (.file content mode)) := by
  obtain ⟨base, init, name, htarget, -, hname, -⟩ := hl.cut
  obtain ⟨hun, hlast⟩ := hl.unslashed_eq
  have hdrop := node?_drop hs.ne_nil hs.parent hs.not_dir
  have hreplace : mayReplace (.file content mode) (d.tree.at? l) = .ok () := by
    have hnot := hl.not_dir
    rw [node?] at hnot
    cases ht : d.tree.at? l with
    | none => rfl
    | some t =>
      cases t with
      | file => rfl
      | dir cs => exact absurd (by rw [ht]; rfl) hnot
  have hparent : (d.drop s).node? l.dropLast = some .dir := by
    have hsl : l.dropLast ≠ s := fun e => hs.not_dir (e ▸ hl.parent)
    rw [hdrop, Function.update_of_ne hsl, hl.parent]
  have hleaf : (d.drop s).node? l ≠ some .dir := by
    rw [hdrop, Function.update_of_ne (Ne.symm hne)]
    exact hl.not_dir
  refine ⟨(d.drop s).alter l fun _ => some (.file content mode), ?_, ?_⟩
  · have hlast' : target.getLast? = some name := by simp [htarget]
    simp only [rename, hun, reach_of_locate hs.locate, reach_of_locate hl.locate, at?_of_file hfile, hreplace, hlast',
      if_neg hne]
    simp [hname, Fs.Tree.node]
  · rw [node?_alter hl.ne_nil hparent _ (fun m => node?_append_of_not_dir hleaf), hdrop]
    · rfl
    · rintro t ht
      obtain rfl := Option.some.inj ht
      exact fun s => rfl

theorem chmod_slot {d : Disk} {steps l : Location} (h : Slot d steps l) {content : ByteArray} {old : Nat}
    (hfile : d.node? l = some (.file content old)) (mode : Nat) :
    ∃ d', d.chmod steps mode = .ok d' ∧ d'.node? = update d.node? l (some (.file content mode)) := by
  refine ⟨_, ?_, node?_put_file h.ne_nil h.parent h.not_dir content mode⟩
  rw [chmod, reach_of_locate h.locate, at?_of_file hfile]

/-- The permissions that a write looks up. -/
def modeAt (d : Disk) (l : Location) : Option Nat :=
  match d.node? l with
  | some (.file _ mode) => some mode
  | _ => none

/-- Gives the temporary file its permissions. -/
def grant (t : Place) : Option Nat → DiskAction Error Unit
  | some mode => Action.update fun d => at_ t (d.chmod t.location mode)
  | none => pure ()

/-- Moves the temporary file to its place. -/
def settle (p : Place) : DiskAction Error Unit :=
  Action.ofFun fun d =>
    match d.rename (temporary p).location p.location with
    | .ok d => (.ok (), d)
    | .error e =>
      let d := match d.unlink (temporary p).location with
        | .ok d => d
        | .error _ => d
      (.error (.io p e), d)

/-- What a write does once the directory is there and the permissions are known. -/
def replace (p : Place) (content : ByteArray) (mode : Option Nat) : DiskAction Error Unit := do
  Action.update fun d => at_ (temporary p) (d.write (temporary p).location content)
  grant (temporary p) mode
  settle p

theorem exec_atomicWrite_eq {d : Disk} {p : Place} {l : Location} (h : Slot d p.location l)
    (content : ByteArray) :
    (atomicWrite p content).exec d = (replace p content (modeAt d l)).exec d := by
  rw [atomicWrite, Action.exec_bind_ok (exec_makeParent h), Action.exec_bind_ok (a := modeAt d l) (t := d)]
  · cases modeAt d l <;> rfl
  · rw [Action.exec_query, find_of_locate h.locate, modeAt]
    cases d.node? l with
    | none => rfl
    | some n => cases n <;> rfl

/-- The permissions of a file, or others if there is none. -/
def modeOr (found : Option Node) (other : Nat) : Nat :=
  match found with
  | some (.file _ mode) => mode
  | _ => other

theorem modeOr_eq (d : Disk) (l : Location) (other : Nat) : modeOr (d.node? l) other = (modeAt d l).getD other := by
  unfold modeOr modeAt
  cases d.node? l with
  | none => rfl
  | some n => cases n <;> rfl

section Slot

variable {d : Disk} {p : Place} {l : Location}

/-- A write that is hindered fails, and nothing changes. -/
theorem exec_atomicWrite_hindered {e : Fs.Error} (h : Slot d p.location l)
    (he : obstacle p (d.node? (temporaryAt l)) = some e) (content : ByteArray) :
    (atomicWrite p content).exec d = (.error (.io (temporary p) e), d) := by
  have hreach := reachFile_temporary h
  simp only [he] at hreach
  have hfailed : (Action.update fun d => at_ (temporary p) (d.write (temporary p).location content) :
      DiskAction Error Unit).exec d = (.error (.io (temporary p) e), d) := by
    simp [Action.exec_update, Disk.write, hreach, at_]
  rw [exec_atomicWrite_eq h, replace, Action.exec_bind_error hfailed]

/-- A write that is not hindered replaces the file. A temporary file that was there is gone, and nothing else changes. -/
theorem exec_atomicWrite_free (h : Slot d p.location l) (hfree : obstacle p (d.node? (temporaryAt l)) = none)
    (content : ByteArray) :
    ∃ d', (atomicWrite p content).exec d = (.ok (), d') ∧
      d'.node? = update (update d.node? (temporaryAt l) none) l
        (some (.file content (modeOr (d.node? l) (modeOr (d.node? (temporaryAt l)) newMode)))) := by
  have hne := temporaryAt_ne l h.ne_nil
  have hleaf := (obstacle_eq_none_iff.mp hfree).2
  have hreach := reachFile_temporary h
  simp only [hfree] at hreach
  have ht : Slot d (temporary p).location (temporaryAt l) := by
    obtain ⟨base, init, name, -, hl, -, -, htemporary, hlocate, hbase⟩ := slot_parts h
    have hfits := (obstacle_eq_none_iff.mp hfree).1
    refine ⟨locate_eq_ok_iff.mpr ⟨hfits.path, ?_⟩, hleaf⟩
    have hat : temporaryAt l = base ++ [name ++ temporarySuffix] := by simp [temporaryAt, hl]
    rw [hat, htemporary, follow_append_of_dir (locate_eq_ok_iff.mp hlocate).2 hbase]
    exact follow_name hbase (temporary_name name) (hfits.name _ (by simp [htemporary]))
  have hkeep (d' : Disk) (n : Node) (hn : n ≠ .dir) (hd' : d'.node? = update d.node? (temporaryAt l) (some n)) :
      Slot d' (temporary p).location (temporaryAt l) ∧ Slot d' p.location l := by
    have hdirs : ∀ m, d.node? m = some .dir → d'.node? m = some .dir := by
      intro m hm
      rw [hd', Function.update_of_ne (fun e => hleaf (by rw [← e, hm])), hm]
    exact ⟨ht.mono hdirs (by simp [hd', hn]),
      h.mono hdirs (by rw [hd', Function.update_of_ne (Ne.symm hne)]; exact h.not_dir)⟩
  obtain ⟨d₁, hwrite, hview₁⟩ : ∃ d₁, d.write (temporary p).location content = .ok d₁ ∧
      d₁.node? = update d.node? (temporaryAt l) (some (.file content (modeOr (d.node? (temporaryAt l)) newMode))) := by
    refine ⟨_, ?_, node?_put_file ht.ne_nil ht.parent ht.not_dir content _⟩
    rw [Disk.write, hreach, node?]
    cases htree : d.tree.at? (temporaryAt l) with
    | none => rfl
    | some t => cases t <;> rfl
  -- the temporary file gets the permissions of the one that it is to replace
  obtain ⟨d₂, hmode, hview₂⟩ : ∃ d₂, (grant (temporary p) (modeAt d l)).exec d₁ = (.ok (), d₂) ∧
      d₂.node? = update d.node? (temporaryAt l)
        (some (.file content (modeOr (d.node? l) (modeOr (d.node? (temporaryAt l)) newMode)))) := by
    rw [modeOr_eq]
    cases modeAt d l with
    | none => exact ⟨d₁, rfl, hview₁⟩
    | some mode =>
      have hfile : d₁.node? (temporaryAt l) =
          some (.file content (modeOr (d.node? (temporaryAt l)) newMode)) := by
        rw [hview₁, Function.update_self]
      obtain ⟨d₂, hchmod, hview₂⟩ := chmod_slot (hkeep d₁ _ (by simp) hview₁).1 hfile mode
      refine ⟨d₂, ?_, by rw [hview₂, hview₁, Function.update_idem, Option.getD_some]⟩
      simp [grant, Action.exec_update, hchmod, at_]
  obtain ⟨hs₂, hl₂⟩ := hkeep d₂ _ (by simp) hview₂
  have hfile : d₂.node? (temporaryAt l) =
      some (.file content (modeOr (d.node? l) (modeOr (d.node? (temporaryAt l)) newMode))) := by
    rw [hview₂, Function.update_self]
  obtain ⟨d₃, hrename, hview₃⟩ := rename_slot hs₂ hl₂ hfile hne
  refine ⟨d₃, ?_, by rw [hview₃, hview₂, Function.update_idem]⟩
  have hwritten : (Action.update fun d => at_ (temporary p) (d.write (temporary p).location content) :
      DiskAction Error Unit).exec d = (.ok (), d₁) := by
    simp [Action.exec_update, hwrite, at_]
  rw [exec_atomicWrite_eq h, replace, Action.exec_bind_ok hwritten, Action.exec_bind_ok hmode]
  simp [settle, hrename]

/-- A write to a slot replaces the file there, and nothing else changes. -/
theorem exec_atomicWrite (h : Slot d p.location l) (hfits : TemporaryFits p)
    (hfree : d.node? (temporaryAt l) = none) (content : ByteArray) :
    ∃ d' mode, (atomicWrite p content).exec d = (.ok (), d') ∧
      d'.node? = update d.node? l (some (.file content mode)) := by
  obtain ⟨d', hwrite, hview⟩ :=
    exec_atomicWrite_free h (obstacle_eq_none_iff.mpr ⟨hfits, by simp [hfree]⟩) content
  rw [← hfree, Function.update_eq_self] at hview
  exact ⟨d', _, hwrite, hview⟩

/-- Where no name belongs to a temporary file, a write keeps the permissions of the file and changes nothing else. -/
theorem exec_atomicWrite_clean (h : Slot d p.location l) (hfits : TemporaryFits p) (hclean : NoTemporary d)
    (content : ByteArray) :
    ∃ d', (atomicWrite p content).exec d = (.ok (), d') ∧
      d'.node? = update d.node? l (some (.file content (modeOr (d.node? l) newMode))) := by
  have hfree : d.node? (temporaryAt l) = none := hclean _ _
  obtain ⟨d', hwrite, hview⟩ :=
    exec_atomicWrite_free h (obstacle_eq_none_iff.mpr ⟨hfits, by simp [hfree]⟩) content
  rw [hfree, show modeOr none newMode = newMode from rfl, ← hfree, Function.update_eq_self] at hview
  exact ⟨d', hwrite, hview⟩

/-- A write fails and changes nothing if the system takes no temporary file beside it. -/
theorem exec_atomicWrite_unfit (h : Slot d p.location l) (hfits : ¬ TemporaryFits p) (content : ByteArray) :
    ∃ e, (atomicWrite p content).exec d = (.error e, d) := by
  cases hobstacle : obstacle p (d.node? (temporaryAt l)) with
  | none => exact absurd (obstacle_eq_none_iff.mp hobstacle).1 hfits
  | some e => exact ⟨_, exec_atomicWrite_hindered h hobstacle content⟩

end Slot

end Mend.Ledger
