import Mathlib.Algebra.Order.BigOperators.Group.List
import Mathlib.Algebra.Order.Group.Nat
import Mend.Config.Basic
import Mend.Ledger.Layout
import Mend.Proofs.Ledger.StateFiles

/-!
# Where the state directory is

A valid configuration names the state directory by a path that is not absolute. Where this path leads depends on its
dots: all that is stored lies below the workspace, in every workspace, exactly if the path never climbs above its start
(`places_below_iff`). A path that does is valid all the same, and its files are made outside (`outside_of_parent`).
-/

namespace Mend

open Fs Fs.Disk Ledger

/-! ## Steps that climb -/

namespace Fs

/-- Whether steps lead above their start on the way, being `depth` names below it. -/
def climbs : Nat → Location → Bool
  | _, [] => false
  | depth, s :: rest =>
    if s = "" || s = "." then climbs depth rest
    else if s = ".." then depth = 0 || climbs (depth - 1) rest
    else climbs (depth + 1) rest

variable {base names steps at_ : Location} {name x : String}

/-- Steps that do not climb stay below their start. -/
theorem prefix_of_not_climbs (h : climbs names.length steps = false) : base <+: resolve (base ++ names) steps := by
  induction steps generalizing names with
  | nil => exact List.prefix_append _ _
  | cons s rest ih =>
    rw [climbs] at h
    rw [resolve]
    split
    · next hdot =>
      rw [if_pos hdot] at h
      exact ih h
    next hdot =>
    rw [if_neg hdot] at h
    split
    · next hup =>
      rw [if_pos hup] at h
      rcases List.eq_nil_or_concat' names with rfl | ⟨init, last, rfl⟩
      · cases h
      · rw [← List.append_assoc, List.dropLast_concat]
        exact ih (by simpa using h)
    · next hup =>
      rw [if_neg hup] at h
      rw [List.append_assoc]
      exact ih (by simpa using h)

/-- All names on the way to a location come from the start or from the steps. -/
theorem mem_of_mem_resolve (h : x ∈ resolve at_ steps) : x ∈ at_ ∨ x ∈ steps := by
  induction steps generalizing at_ with
  | nil => exact .inl h
  | cons s rest ih =>
    rw [resolve] at h
    split at h
    · exact (ih h).imp_right (List.mem_cons_of_mem s)
    split at h
    · exact (ih h).imp (fun hx => (List.dropLast_sublist at_).subset hx) (List.mem_cons_of_mem s)
    · rcases ih h with hx | hx
      · rcases List.mem_append.mp hx with hx | hx
        · exact .inl hx
        · exact .inr (List.mem_singleton.mp hx ▸ List.mem_cons_self)
      · exact .inr (List.mem_cons_of_mem s hx)

/-- Steps that climb leave a directory of another name for good. -/
theorem not_mem_of_climbs (h : climbs names.length steps = true) (hsteps : name ∉ steps) (hnames : name ∉ names) :
    name ∉ resolve (name :: names) steps := by
  -- The names are those of the directories below the one that is left. A step up from none of them leaves it, and no
  -- step after that is of its name.
  induction steps generalizing names with
  | nil => cases h
  | cons s rest ih =>
    rw [List.mem_cons, not_or] at hsteps
    rw [climbs] at h
    rw [resolve]
    split
    · next hdot =>
      rw [if_pos hdot] at h
      exact ih h hsteps.2 hnames
    next hdot =>
    rw [if_neg hdot] at h
    split
    · next hup =>
      rw [if_pos hup] at h
      rcases List.eq_nil_or_concat' names with rfl | ⟨init, last, rfl⟩
      · intro hmem
        rcases mem_of_mem_resolve hmem with hx | hx
        · cases hx
        · exact hsteps.2 hx
      · rw [← List.cons_append, List.dropLast_concat]
        exact ih (by simpa using h) hsteps.2 fun hx => hnames (List.mem_append_left _ hx)
    · next hup =>
      rw [if_neg hup] at h
      rw [List.cons_append]
      refine ih (by simpa using h) hsteps.2 ?_
      simpa [hnames] using hsteps.1

/-- There is a name that is none of the steps. -/
theorem exists_name (steps : Location) : ∃ name, (name ≠ "" ∧ name ≠ "." ∧ name ≠ "..") ∧ name ∉ steps := by
  let name := String.ofList (List.replicate ((steps.map String.length).sum + 3) 'w')
  have hlength : name.length = (steps.map String.length).sum + 3 := by simp [name]
  have hne {s : String} (hs : s.length < name.length) : name ≠ s := fun heq => by
    rw [heq] at hs
    exact Nat.lt_irrefl _ hs
  refine ⟨name, ⟨hne ?_, hne ?_, hne ?_⟩, fun hmem => ?_⟩
  · rw [hlength]
    exact Nat.succ_pos _
  · rw [hlength, show (".".length) = 1 from rfl]
    omega
  · rw [hlength, show ("..".length) = 2 from rfl]
    omega
  · have hle : name.length ≤ (steps.map String.length).sum := List.le_sum_of_mem (List.mem_map_of_mem hmem)
    omega

/-- The place is below another one. -/
def Place.Below (p root : Place) : Prop := ∃ s rest, resolve [] p.location = resolve [] root.location ++ s :: rest

end Fs

/-! ## Where things are stored -/

namespace Ledger.Layout

/-- All that is stored in the state directory. -/
def places (l : Layout) : List Place := [l.lock, l.trust, l.attestations, l.history, l.snapshots]

variable {l : Layout} {root p : Place} {c : Config}

theorem child_of_mem_places (h : p ∈ l.places) :
    ∃ name, (name ≠ "" ∧ name ≠ "." ∧ name ≠ "..") ∧ p = l.root.child name := by
  simp only [places, List.mem_cons, List.not_mem_nil, or_false] at h
  rcases h with rfl | rfl | rfl | rfl | rfl
  · exact ⟨"cycle.lock", by decide, rfl⟩
  · exact ⟨"trust.json", by decide, rfl⟩
  · exact ⟨"attestations.jsonl", by decide, rfl⟩
  · exact ⟨"history.jsonl", by decide, rfl⟩
  · exact ⟨"snapshots", by decide, rfl⟩

/-- Everything is stored below a directory exactly if the state directory is that directory or below it. -/
theorem below_iff : (∀ p ∈ l.places, p.Below root) ↔ resolve [] root.location <+: resolve [] l.root.location := by
  constructor
  · intro h
    obtain ⟨s, rest, hlock⟩ := h l.lock List.mem_cons_self
    rw [lock, resolve_child (by decide)] at hlock
    refine ⟨(s :: rest).dropLast, ?_⟩
    rw [← List.dropLast_append_of_ne_nil (List.cons_ne_nil s rest), ← hlock, List.dropLast_concat]
  · rintro ⟨more, hroot⟩ p hp
    obtain ⟨name, hname, rfl⟩ := child_of_mem_places hp
    obtain ⟨s, rest, hmore⟩ := List.exists_cons_of_ne_nil (List.concat_ne_nil name more)
    refine ⟨s, rest, ?_⟩
    rw [resolve_child hname, ← hroot, List.append_assoc, ← hmore]

/-- The path of a valid configuration is there, and is not absolute. -/
theorem relative_of_validate (h : c.validate = .ok ()) :
    c.stateDir ≠ "" ∧ HostPath.isAbsolute c.stateDir = false := by
  have hnone : c.rules.find? (fun r => r.2.2) = none := by
    rw [Config.validate] at h
    split at h
    · cases h
    · assumption
  have hrule := List.find?_eq_none.mp hnone
    ("state_dir", "must be a relative directory", c.stateDir = "" || HostPath.isAbsolute c.stateDir)
    (by simp [Config.rules])
  simpa using hrule

theorem resolve_of (root : Place) {dir : String} (hdir : HostPath.isAbsolute dir = false) :
    resolve [] (Layout.of root dir).root.location = resolve (resolve [] root.location) (Place.steps dir) := by
  rw [of, Place.join, if_neg (by simp [hdir]), resolve_append]

/-- **What is stored lies below the workspace, wherever that is, exactly if the path of the state directory does not
climb.** -/
theorem places_below_iff (h : c.validate = .ok ()) :
    (∀ root, ∀ p ∈ (Layout.of root c.stateDir).places, p.Below root) ↔
      climbs 0 (Place.steps c.stateDir) = false := by
  have hdir := (relative_of_validate h).2
  simp only [below_iff, resolve_of _ hdir]
  constructor
  · intro hbelow
    -- In a workspace of a name that is none of the steps, a path that climbs does not come back.
    by_contra hclimbs
    rw [Bool.not_eq_false] at hclimbs
    obtain ⟨name, hname, hfresh⟩ := exists_name (Place.steps c.stateDir)
    have hroot : resolve [] [name] = [name] := resolve_names (by simpa using hname) []
    obtain ⟨rest, hrest⟩ := hbelow ⟨[name], ""⟩
    rw [hroot] at hrest
    have hfar : name ∉ resolve (name :: []) (Place.steps c.stateDir) :=
      not_mem_of_climbs hclimbs hfresh List.not_mem_nil
    refine hfar ?_
    rw [← hrest]
    exact List.mem_cons_self
  · intro hclimbs root
    have hprefix : resolve [] root.location <+: resolve (resolve [] root.location ++ []) (Place.steps c.stateDir) :=
      prefix_of_not_climbs hclimbs
    rwa [List.append_nil] at hprefix

/-- A configuration is valid that has its state directory beside the workspace. Nothing is stored below the workspace
then, and taking the lock makes a file outside. -/
theorem outside_of_parent :
    ({ stateDir := "../out" } : Config).validate = .ok () ∧
      (∀ p ∈ (Layout.of ⟨["w"], "/w"⟩ "../out").places, ¬ p.Below ⟨["w"], "/w"⟩) ∧
      ((openLock (Layout.of ⟨["w"], "/w"⟩ "../out").lock).exec ⟨[("w", .dir [])]⟩).2.fileAt ["out", "cycle.lock"] =
        some ByteArray.empty := by
  refine ⟨rfl, ?_, rfl⟩
  have hroot : resolve [] (Layout.of ⟨["w"], "/w"⟩ "../out").root.location = ["out"] := by decide
  rintro p hp ⟨s, rest, hbelow⟩
  obtain ⟨name, hname, rfl⟩ := child_of_mem_places hp
  rw [resolve_child hname, hroot] at hbelow
  exact absurd (List.cons.inj hbelow).1 (by decide)

end Ledger.Layout
end Mend
