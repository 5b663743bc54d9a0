import Mathlib.Algebra.Group.Nat.Defs
import Mathlib.Data.List.Nodup
import Mend.Count
import Mend.Json.Stored
import Mend.Proofs.CycleId
import Mend.Proofs.Digest
import Mend.Proofs.Json.Spelling
import Mend.Proofs.Time.Text

/-!
# Reading records back

A record that was written with its fields in order has all its slots given (`slots_obj`). The texts that
digests, identifiers, moments and paths are written as are read back.
-/

namespace Mend.Json

theorem filter_name {fields : List (String × Json)} (h : (fields.map Prod.fst).Nodup) {f : String × Json}
    (hf : f ∈ fields) : (fields.filter fun g => g.1 == f.1) = [f] := by
  induction fields with
  | nil => simp at hf
  | cons g fields ih =>
    rw [List.map_cons, List.nodup_cons] at h
    rcases List.mem_cons.mp hf with rfl | hf
    · have hnone : ∀ g ∈ fields, ¬ (g.1 == f.1) = true := by
        intro g hg e
        exact h.1 (List.mem_map.mpr ⟨g, hg, by simpa using e⟩)
      rw [List.filter_cons_of_pos (by simp), List.filter_eq_nil_iff.mpr hnone]
    · have hne : ¬ (g.1 == f.1) = true := by
        intro e
        exact h.1 (List.mem_map.mpr ⟨f, hf, by simpa using (beq_iff_eq.mp e).symm⟩)
      rw [List.filter_cons, if_neg hne, ih h.2 hf]

/-- All fields of a record are there. -/
theorem slots_obj {fields : List (String × Json)} {names : List String} (hnames : fields.map Prod.fst = names)
    (h : names.Nodup) (closed : Bool) :
    slots names closed (.obj fields) = some (fields.map fun f => .given f.2) := by
  subst hnames
  have hknown : (fields.filter fun f => (fields.map Prod.fst).contains f.1) = fields := by
    rw [List.filter_eq_self]
    intro f hf
    simpa using ⟨f.2, hf⟩
  have hfound : (fields.map Prod.fst).map (fun n => (fields.filter fun f => f.1 == n).map Prod.snd) =
      fields.map fun f => [f.2] := by
    rw [List.map_map]
    refine List.map_congr_left fun f hf => ?_
    rw [Function.comp_apply, filter_name h hf]
    rfl
  simp only [slots, hknown, hfound]
  simp

/-! ## Texts -/

theorem digest?_ofDigest (d : Digest) : digest? (ofDigest d) = some d := by
  simp [digest?, ofDigest, parsed?, Digest.parse_toHex, value?]

theorem cycleId?_ofCycleId (id : CycleId) : cycleId? (ofCycleId id) = some id := by
  simp [cycleId?, ofCycleId, parsed?, CycleId.parse_toText, value?]

theorem time?_ofTime {t : Time} (h : t.Storable) : time? (ofTime t) = some t := by
  simp [time?, ofTime, parsed?, Time.parse_toText h]

theorem path?_ofPath {p : RelPath} (h : RelPath.parse p.text = .ok p) : path? (ofPath p) = some p := by
  simp [path?, ofPath, parsed?, h, value?]

/-! ## Counts -/

theorem nat?_ofNat {bits n : Nat} (h : n < 2 ^ bits) : nat? bits (.int n) = some n := by
  rw [nat?, if_pos]
  · simp
  · exact ⟨Int.natCast_nonneg n, Int.ofNat_lt.mpr h⟩

theorem count?_ofCount (c : Count) : count? (ofCount c) = some c := by
  rw [count?, ofCount, nat?_ofNat c.toNat_lt]
  simp

theorem plain_count (c : Count) : Plain (ofCount c) :=
  Plain.count (Nat.lt_of_lt_of_le c.toNat_lt (by decide))

/-! ## Lists -/

theorem list?_map {α : Type} {read : Json → Option α} {write : α → Json} {xs : List α}
    (h : ∀ x ∈ xs, read (write x) = some x) : list? read (.arr (xs.map write)) = some xs := by
  simp only [list?]
  induction xs with
  | nil => rfl
  | cons x xs ih =>
    rw [List.map_cons, List.mapM_cons, h x (by simp), ih fun y hy => h y (by simp [hy])]
    rfl

theorem of_list?_map {α : Type} {read : Json → Option α} {write : α → Json} {xs : List α}
    (h : list? read (.arr (xs.map write)) = some xs) : ∀ x ∈ xs, read (write x) = some x := by
  simp only [list?] at h
  induction xs with
  | nil => simp
  | cons x xs ih =>
    rw [List.map_cons, List.mapM_cons, Option.bind_eq_bind, Option.bind_eq_some_iff] at h
    obtain ⟨y, hy, h⟩ := h
    rw [Option.bind_eq_bind, Option.bind_eq_some_iff] at h
    obtain ⟨ys, hys, h⟩ := h
    obtain ⟨rfl, rfl⟩ := List.cons.inj (Option.some.inj h)
    intro z hz
    rcases List.mem_cons.mp hz with rfl | hz
    · exact hy
    · exact ih hys z hz

theorem list?_texts (xs : List String) : list? text? (.arr (xs.map .str)) = some xs := list?_map fun _ _ => rfl

theorem plain_list {α : Type} {write : α → Json} {xs : List α} (h : ∀ x ∈ xs, Plain (write x)) :
    Plain (.arr (xs.map write)) := by
  refine Plain.arr fun v hv => ?_
  obtain ⟨x, hx, rfl⟩ := List.mem_map.mp hv
  exact h x hx

end Mend.Json
