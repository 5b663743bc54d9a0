import Mathlib.Data.List.Basic
import Mathlib.Tactic.Common
import Mend.Text.Lines
import Mend.Text.Utf8

/-!
# Texts and their bytes

ASCII texts have one byte for each character, and no other character has an ASCII byte (`mem_octets`). Where
the bytes of a text begin with those of another, so do the characters (`prefix_of_octets`). A text of lines that
all end in a line feed is cut back into these lines (`cut_flatMap`).
-/

namespace Mend.Text

theorem decode?_encode (s : String) : decode? (encode s) = some s := dif_pos s.isValidUTF8

theorem encode_of_decode? {b : ByteArray} {s : String} (h : decode? b = some s) : b = encode s := by
  rw [decode?, String.fromUTF8?] at h
  split at h
  · obtain rfl := Option.some.inj h
    rfl
  · cases h

theorem encode_append (s t : String) : encode (s ++ t) = encode s ++ encode t := String.toByteArray_append

theorem encode_inj {s t : String} (h : encode s = encode t) : s = t := String.toByteArray_inj.mp h

/-! ## Bytes -/

-- Libraries have more than one instance of this, and which one is found would depend on the imports.
/-- Bytes are compared as in the core library. -/
@[reducible]
def decideBytes : DecidableEq ByteArray := ByteArray.instDecidableEq

/-- The bytes of characters. -/
def octets (cs : List Char) : List UInt8 := cs.flatMap String.utf8EncodeChar

theorem octets_append (cs ds : List Char) : octets (cs ++ ds) = octets cs ++ octets ds := List.flatMap_append

theorem octets_cons (c : Char) (cs : List Char) : octets (c :: cs) = String.utf8EncodeChar c ++ octets cs :=
  List.flatMap_cons

theorem data_encode (s : String) : (encode s).data.toList = octets s.toList := by
  rw [encode, String.toUTF8, ← String.utf8Encode_toList, List.utf8Encode, List.toList_data_toByteArray, octets]

theorem length_octets (s : String) : (octets s.toList).length = s.utf8ByteSize := by
  rw [← data_encode, Array.length_toList]
  rfl

theorem prefix_of_octets {cs ds : List Char} {more : List UInt8} (h : octets ds = octets cs ++ more) : cs <+: ds := by
  refine List.isPrefix_of_utf8Encode_append_eq_utf8Encode more.toByteArray (ByteArray.ext (Array.ext' ?_))
  rw [ByteArray.data_append, Array.toList_append, List.utf8Encode, List.utf8Encode, List.toList_data_toByteArray,
    List.toList_data_toByteArray, List.toList_data_toByteArray]
  exact h.symm

theorem octets_inj {cs ds : List Char} (h : octets cs = octets ds) : cs = ds := by
  have hcs : ds <+: cs := prefix_of_octets (show octets cs = octets ds ++ [] by simpa using h)
  have hds : cs <+: ds := prefix_of_octets (show octets ds = octets cs ++ [] by simpa using h.symm)
  exact hds.eq_of_length (Nat.le_antisymm hds.length_le hcs.length_le)

/-! ## ASCII -/

/-- The bytes of characters that are not ASCII are not ASCII either. -/
theorem toNat_of_mem_utf8EncodeChar {c : Char} {b : UInt8} (h : b ∈ String.utf8EncodeChar c) (hb : b.toNat < 128) :
    c.toNat = b.toNat := by
  have hval : c.val.toNat = c.toNat := rfl
  have hsmall (n : Nat) (hn : n < 256) : (UInt8.ofNat n).toNat = n := by rw [UInt8.toNat_ofNat', Nat.mod_eq_of_lt hn]
  simp only [String.utf8EncodeChar] at h
  split at h
  · rw [List.mem_singleton] at h
    rw [h, hsmall _ (by omega), hval]
  split at h
  · simp only [List.mem_cons, List.not_mem_nil, or_false] at h
    rcases h with rfl | rfl <;> rw [hsmall _ (by omega)] at hb <;> omega
  split at h
  · simp only [List.mem_cons, List.not_mem_nil, or_false] at h
    rcases h with rfl | rfl | rfl <;> rw [hsmall _ (by omega)] at hb <;> omega
  · simp only [List.mem_cons, List.not_mem_nil, or_false] at h
    rcases h with rfl | rfl | rfl | rfl <;> rw [hsmall _ (by omega)] at hb <;> omega

theorem mem_octets {cs : List Char} {c : Char} (hc : c.toNat < 128) (h : UInt8.ofNat c.toNat ∈ octets cs) : c ∈ cs := by
  obtain ⟨d, hd, hmem⟩ := List.mem_flatMap.mp h
  have hbyte : (UInt8.ofNat c.toNat).toNat = c.toNat := by rw [UInt8.toNat_ofNat', Nat.mod_eq_of_lt (by omega)]
  have hnat := toNat_of_mem_utf8EncodeChar hmem (by omega)
  rw [hbyte] at hnat
  rwa [← Char.toNat_inj.mp hnat]

theorem toList_bytes (b : ByteArray) : b.toList = b.data.toList := by
  suffices h : ∀ n i r, b.size - i = n → ByteArray.toList.loop b i r = r.reverse ++ b.data.toList.drop i by
    exact (h (b.size - 0) 0 [] rfl).trans (by simp)
  intro n
  induction n with
  | zero =>
    intro i r hn
    rw [ByteArray.toList.loop, if_neg (by omega), List.drop_of_length_le, List.append_nil]
    show b.data.size ≤ i
    exact Nat.sub_eq_zero_iff_le.mp hn
  | succ n ih =>
    intro i r hn
    have hi : i < b.data.toList.length := by
      show i < b.data.size
      change b.data.size - i = n + 1 at hn
      omega
    have hget : b.get! i = b.data.toList[i] := getElem!_pos b.data i hi
    rw [ByteArray.toList.loop, if_pos (by omega), ih _ _ (by omega), List.drop_eq_getElem_cons hi, hget]
    simp

theorem utf8EncodeChar_ascii {c : Char} (h : c.toNat < 128) : String.utf8EncodeChar c = [UInt8.ofNat c.toNat] := by
  have hv : c.val.toNat < 128 := h
  simp only [String.utf8EncodeChar]
  rw [if_pos (by omega)]
  rfl

theorem toList_encode_ascii {cs : List Char} (h : ∀ c ∈ cs, c.toNat < 128) :
    (encode (String.ofList cs)).toList = cs.map fun c => UInt8.ofNat c.toNat := by
  rw [toList_bytes]
  show (String.ofList cs).toByteArray.data.toList = _
  rw [String.toByteArray_ofList, List.utf8Encode, List.toList_data_toByteArray, List.map_eq_flatMap]
  exact List.flatMap_congr fun c hc => utf8EncodeChar_ascii (h c hc)

theorem utf8ByteSize_ascii {cs : List Char} (h : ∀ c ∈ cs, c.toNat < 128) :
    (String.ofList cs).utf8ByteSize = cs.length := by
  have hlist := congrArg List.length (toList_encode_ascii h)
  rw [toList_bytes, List.length_map] at hlist
  exact hlist

/-! ## Lines -/

/-- A line is cut off before what follows it. -/
theorem cut_append_newline {cs : List Char} (h : '\n' ∉ cs) (rest : List Char) :
    cut (cs ++ '\n' :: rest) = (cs ++ ['\n']) :: cut rest := by
  induction cs with
  | nil => rw [List.nil_append, cut_cons, if_pos rfl]; rfl
  | cons c cs ih =>
    have hc : c ≠ '\n' := fun e => h (by simp [e])
    rw [List.cons_append, cut_cons, if_neg hc, ih fun hcs => h (by simp [hcs])]
    rfl

/-- Lines without line feeds, each followed by one, are cut apart again. -/
theorem cut_flatMap {lines : List (List Char)} (h : ∀ l ∈ lines, '\n' ∉ l) :
    cut (lines.flatMap fun l => l ++ ['\n']) = lines.map fun l => l ++ ['\n'] := by
  induction lines with
  | nil => rfl
  | cons l lines ih =>
    rw [List.flatMap_cons, List.append_assoc, List.singleton_append, cut_append_newline (h l (by simp)),
      ih fun k hk => h k (by simp [hk])]
    rfl

/-- If a text ends in a line feed, so does each of its lines. -/
theorem getLast?_of_mem_cut {cs last : List Char} (hlast : (cut cs).getLast? = some last)
    (hnewline : last.getLast? = some '\n') : ∀ l ∈ cut cs, l.getLast? = some '\n' := by
  induction cs generalizing last with
  | nil => simp
  | cons c cs ih =>
    rw [cut_cons] at hlast ⊢
    cases hcut : cut cs with
    | nil =>
      rw [hcut] at hlast
      split at hlast
      · next hc => simp [hc]
      · obtain rfl : [c] = last := by simpa using hlast
        simpa using hnewline
    | cons k rest =>
      rw [hcut] at hlast ih
      split at hlast
      · next hc =>
        rw [List.getLast?_cons_cons] at hlast
        rw [if_pos hc]
        intro l hl
        rcases List.mem_cons.mp hl with rfl | hl
        · simp [hc]
        · exact ih hlast hnewline l hl
      · next hc =>
        rw [if_neg hc]
        cases rest with
        | nil =>
          obtain rfl : c :: k = last := by simpa using hlast
          intro l hl
          rw [List.mem_singleton.mp hl]
          exact hnewline
        | cons m rest =>
          simp only [List.getLast?_cons_cons] at hlast ih
          intro l hl
          rcases List.mem_cons.mp hl with rfl | hl
          · have hk := ih hlast hnewline k (by simp)
            rw [List.getLast?_cons, hk]
            rfl
          · exact ih hlast hnewline l (by simp [hl])

end Mend.Text
