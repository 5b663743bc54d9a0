import Mathlib.Algebra.GroupWithZero.Nat
import Mathlib.Algebra.Order.BigOperators.Group.List
import Mathlib.Algebra.Order.Group.Nat
import Mend.Json.Printer
import Mend.Proofs.Text

/-!
# How long documents are

A document on one line has at least as many bytes as the texts that stand in it.
-/

namespace Mend.Json

theorem escape_ne_nil (c : Char) : escape c ≠ [] := by
  rw [escape]
  split_ifs <;> simp

theorem escape_of_not_ascii {c : Char} (h : 128 ≤ c.toNat) : escape c = [c] := by
  have hne (d : Char) (hd : d.toNat < 128) : c ≠ d := by
    rintro rfl
    omega
  simp only [escape, hne '"' (by decide), hne '\\' (by decide), hne '\x08' (by decide), hne '\t' (by decide),
    hne '\n' (by decide), hne '\x0c' (by decide), hne '\r' (by decide), if_false]
  exact if_neg (by omega)

/-- A text is at least as long between quotes. -/
theorem utf8ByteSize_quote (s : String) : s.utf8ByteSize + 2 ≤ (quote s).utf8ByteSize := by
  have hescape (c : Char) : (String.utf8EncodeChar c).length ≤ (Text.octets (escape c)).length := by
    by_cases hascii : c.toNat < 128
    · obtain ⟨d, ds, hds⟩ := List.exists_cons_of_ne_nil (escape_ne_nil c)
      rw [Text.utf8EncodeChar_ascii hascii, hds, Text.octets_cons, List.length_append, String.length_utf8EncodeChar]
      exact Nat.le_add_right_of_le d.utf8Size_pos
    · rw [escape_of_not_ascii (by omega), Text.octets, List.flatMap_singleton]
  have hall (cs : List Char) : (Text.octets cs).length ≤ (Text.octets (cs.flatMap escape)).length := by
    induction cs with
    | nil => exact Nat.le_refl _
    | cons c cs ih =>
      rw [List.flatMap_cons, Text.octets_append, Text.octets_cons, List.length_append, List.length_append]
      exact Nat.add_le_add (hescape c) ih
  have hquote := hall s.toList
  rw [← Text.length_octets, ← Text.length_octets, quote, String.toList_ofList, Text.octets_cons, Text.octets_append,
    List.length_append, List.length_append]
  have hmark : (String.utf8EncodeChar '"').length = 1 := rfl
  have hlast : (Text.octets ['"']).length = 1 := rfl
  omega

theorem sum_le_compactItems (items : List Json) :
    (items.map fun v => (compact v).utf8ByteSize).sum ≤ (compactItems items).utf8ByteSize := by
  induction items with
  | nil => exact Nat.zero_le _
  | cons v items ih =>
    cases items with
    | nil => simp [compactItems]
    | cons w rest =>
      rw [compactItems, String.utf8ByteSize_append, String.utf8ByteSize_append, List.map_cons, List.sum_cons]
      omega

theorem sum_le_compactFields (fields : List (String × Json)) :
    (fields.map fun f => (compact f.2).utf8ByteSize).sum ≤ (compactFields fields).utf8ByteSize := by
  induction fields with
  | nil => exact Nat.zero_le _
  | cons f fields ih =>
    obtain ⟨k, v⟩ := f
    cases fields with
    | nil => simp [compactFields]
    | cons g rest =>
      rw [compactFields, String.utf8ByteSize_append, String.utf8ByteSize_append, String.utf8ByteSize_append,
        String.utf8ByteSize_append, List.map_cons, List.sum_cons]
      dsimp only
      omega

theorem sum_le_compact_obj (fields : List (String × Json)) :
    (fields.map fun f => (compact f.2).utf8ByteSize).sum ≤ (compact (.obj fields)).utf8ByteSize := by
  have hsum := sum_le_compactFields fields
  rw [compact, String.utf8ByteSize_append, String.utf8ByteSize_append]
  omega

theorem le_compact_str (s : String) : s.utf8ByteSize + 2 ≤ (compact (.str s)).utf8ByteSize := by
  rw [compact]
  exact utf8ByteSize_quote s

/-- A list of texts is at least as long as each of them, and has a byte for each at least. -/
theorem le_compact_arr {α : Type} {write : α → Json} {text : α → String} (h : ∀ x, write x = .str (text x)) (xs : List α) :
    xs.length ≤ (compact (.arr (xs.map write))).utf8ByteSize ∧
      ∀ x ∈ xs, (text x).utf8ByteSize ≤ (compact (.arr (xs.map write))).utf8ByteSize := by
  have hquote (x : α) : (text x).utf8ByteSize + 2 ≤ (compact (write x)).utf8ByteSize := by
    rw [h]
    exact le_compact_str _
  have hsum := sum_le_compactItems (xs.map write)
  rw [List.map_map] at hsum
  rw [compact, String.utf8ByteSize_append, String.utf8ByteSize_append]
  refine ⟨?_, fun x hx => ?_⟩
  · have hlength := List.length_le_sum_of_one_le (xs.map ((fun v => (compact v).utf8ByteSize) ∘ write)) fun n hn => by
      obtain ⟨x, -, rfl⟩ := List.mem_map.mp hn
      exact Nat.le_trans (Nat.le_add_left 1 _) (hquote x)
    rw [List.length_map] at hlength
    omega
  · have hmem := List.single_le_sum (fun n _ => Nat.zero_le n) _
      (List.mem_map.mpr ⟨x, hx, rfl⟩ : _ ∈ xs.map ((fun v => (compact v).utf8ByteSize) ∘ write))
    rw [Function.comp_apply] at hmem
    have hx := hquote x
    omega

end Mend.Json
