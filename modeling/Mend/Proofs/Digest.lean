import Mathlib.Algebra.Group.Nat.Defs
import Mend.Digest.Framed
import Mend.Proofs.Text

/-!
# Digests

A digest is read back from its digits (`parse_toHex`). The bytes that are digested for a list of fields tell these
fields, as long as eight bytes can hold the sizes (`framed_inj`).
-/

namespace Mend

namespace Text.Hex

/-- A digit as a byte is read as its value. -/
theorem value?_digit : ∀ n < 16, value? (UInt8.ofNat (digit n).toNat) = some (UInt8.ofNat n) := by decide

theorem digit_ascii : ∀ n < 16, (digit n).toNat < 128 := by decide

theorem encodeList_ascii (bytes : List UInt8) : ∀ c ∈ encodeList bytes, c.toNat < 128 := by
  intro c hc
  obtain ⟨b, -, hb⟩ := List.mem_flatMap.mp hc
  have hbyte := b.toNat_lt
  rcases List.mem_cons.mp hb with rfl | hb
  · exact digit_ascii _ (by omega)
  · rw [List.mem_singleton.mp hb]
    exact digit_ascii _ (by omega)

theorem length_encodeList (bytes : List UInt8) : (encodeList bytes).length = 2 * bytes.length := by
  induction bytes with
  | nil => rfl
  | cons b bytes ih =>
    rw [encodeList, List.flatMap_cons, ← encodeList, List.length_append, ih, List.length_cons]
    simp only [List.length_cons, List.length_nil]
    omega

theorem decodePairs_encodeList (at_ : Nat) (bytes : List UInt8) :
    decodePairs at_ ((encodeList bytes).map fun c => UInt8.ofNat c.toNat) = .ok bytes := by
  induction bytes generalizing at_ with
  | nil => rfl
  | cons b bytes ih =>
    have hbyte := b.toNat_lt
    have hhi := value?_digit (b.toNat / 16) (by omega)
    have hlo := value?_digit (b.toNat % 16) (by omega)
    have hb : UInt8.ofNat (b.toNat / 16) * 16 + UInt8.ofNat (b.toNat % 16) = b := by
      apply UInt8.toNat_inj.mp
      rw [UInt8.toNat_add, UInt8.toNat_mul, UInt8.toNat_ofNat', UInt8.toNat_ofNat']
      simp only [UInt8.reduceToNat]
      omega
    rw [encodeList, List.flatMap_cons, ← encodeList]
    simp only [List.cons_append, List.nil_append, List.map_cons, decodePairs, hhi, hlo, ih, Except.map, hb]

/-- Bytes are read back from their digits. -/
theorem decode_encode (bytes : List UInt8) : decode (encode bytes) = .ok bytes := by
  rw [decode, encode, show (String.ofList (encodeList bytes)).toUTF8 = Text.encode _ from rfl,
    toList_encode_ascii (encodeList_ascii bytes)]
  simp only [List.length_map, length_encodeList]
  rw [if_neg (by omega), decodePairs_encodeList]

end Text.Hex

namespace Digest

theorem parse_toHex (d : Digest) : parse d.toHex = .ok d := by
  obtain ⟨bytes, hsize⟩ := d
  rw [parse, toHex, Text.Hex.decode_encode]
  simp [ofList, hsize]

theorem toHex_inj {d e : Digest} (h : d.toHex = e.toHex) : d = e := by
  have hparse := parse_toHex d
  rw [h, parse_toHex] at hparse
  exact (Except.ok.inj hparse).symm

theorem utf8ByteSize_toHex (d : Digest) : d.toHex.utf8ByteSize = 64 := by
  rw [toHex, Text.Hex.encode, Text.utf8ByteSize_ascii (Text.Hex.encodeList_ascii _), Text.Hex.length_encodeList]
  simp

/-! ## Field lists -/

theorem length_wordBytes (n : UInt64) : (wordBytes n).length = 8 := by simp [wordBytes]

theorem toNat_wordBytes (n : UInt64) :
    (wordBytes n).map UInt8.toNat = (List.range 8).map fun k => n.toNat / 2 ^ (8 * k) % 256 := by
  rw [wordBytes, List.map_map]
  refine List.map_congr_left fun k hk => ?_
  have hshift : 8 * k < 64 := by
    rw [List.mem_range] at hk
    omega
  rw [Function.comp_apply, UInt64.toNat_toUInt8, UInt64.toNat_shiftRight, UInt64.toNat_ofNat',
    Nat.mod_eq_of_lt (a := 8 * k) (by omega), Nat.mod_eq_of_lt hshift, Nat.shiftRight_eq_div_pow]

theorem wordBytes_inj {m n : UInt64} (h : wordBytes m = wordBytes n) : m = n := by
  have hbytes : ∀ k < 8, m.toNat / 2 ^ (8 * k) % 256 = n.toNat / 2 ^ (8 * k) % 256 := by
    have hmap := congrArg (List.map UInt8.toNat) h
    rw [toNat_wordBytes, toNat_wordBytes, List.map_inj_left] at hmap
    exact fun k hk => hmap k (List.mem_range.mpr hk)
  have hlow : ∀ k ≤ 8, m.toNat % 256 ^ k = n.toNat % 256 ^ k := by
    intro k hk
    induction k with
    | zero => rw [Nat.pow_zero, Nat.mod_one, Nat.mod_one]
    | succ k ih =>
      have hpow : 256 ^ k = 2 ^ (8 * k) := by rw [Nat.pow_mul]
      rw [Nat.mod_pow_succ, Nat.mod_pow_succ, ih (by omega), hpow, hbytes k (by omega)]
  have hall := hlow 8 (Nat.le_refl 8)
  have hword (u : UInt64) : u.toNat % 256 ^ 8 = u.toNat := Nat.mod_eq_of_lt (Nat.lt_of_lt_of_eq u.toNat_lt (by decide))
  rw [hword, hword] at hall
  exact UInt64.toNat_inj.mp hall

/-- A frame tells where it ends. -/
theorem frame_append_inj {p q s t : ByteArray} (hp : p.size < UInt64.size) (hq : q.size < UInt64.size)
    (h : frame p ++ s = frame q ++ t) : p = q ∧ s = t := by
  have hlist : wordBytes (UInt64.ofNat p.size) ++ (p.data.toList ++ s.data.toList) =
      wordBytes (UInt64.ofNat q.size) ++ (q.data.toList ++ t.data.toList) := by
    simpa [frame, ByteArray.data_append] using congrArg (fun b => b.data.toList) h
  obtain ⟨hsize, hrest⟩ := List.append_inj hlist (by rw [length_wordBytes, length_wordBytes])
  replace hsize : p.size = q.size := by
    have hword := congrArg UInt64.toNat (wordBytes_inj hsize)
    rwa [UInt64.toNat_ofNat_of_lt' hp, UInt64.toNat_ofNat_of_lt' hq] at hword
  obtain ⟨hpayload, hs⟩ := List.append_inj hrest hsize
  exact ⟨ByteArray.ext (Array.ext' hpayload), ByteArray.ext (Array.ext' hs)⟩

theorem framed_cons (p : ByteArray) (ps : List ByteArray) : framed (p :: ps) = frame p ++ framed ps := by
  have hfoldl (ps : List ByteArray) (acc : ByteArray) :
      ps.foldl (fun acc p => acc ++ frame p) acc = acc ++ framed ps := by
    induction ps generalizing acc with
    | nil => exact ByteArray.append_empty.symm
    | cons q ps ih =>
      have hq : framed (q :: ps) = ByteArray.empty ++ frame q ++ framed ps := ih _
      rw [List.foldl_cons, ih, hq, ByteArray.empty_append, ByteArray.append_assoc]
  rw [framed, List.foldl_cons, hfoldl, ByteArray.empty_append]

/-- Parts whose sizes eight bytes can hold are told from their frames. -/
theorem framed_inj {ps qs : List ByteArray} (hps : ∀ p ∈ ps, p.size < UInt64.size) (hqs : ∀ q ∈ qs, q.size < UInt64.size)
    (h : framed ps = framed qs) : ps = qs := by
  have hframe (p s : ByteArray) : ByteArray.empty ≠ frame p ++ s := by
    intro e
    have hlength := congrArg ByteArray.size e
    rw [ByteArray.size_append, frame, ByteArray.size_append] at hlength
    change 0 = (wordBytes _).length + _ + _ at hlength
    rw [length_wordBytes] at hlength
    omega
  induction ps generalizing qs with
  | nil =>
    cases qs with
    | nil => rfl
    | cons q qs => exact absurd (h.trans (framed_cons q qs)) (hframe q _)
  | cons p ps ih =>
    cases qs with
    | nil => exact absurd (h.symm.trans (framed_cons p ps)) (hframe p _)
    | cons q qs =>
      rw [framed_cons, framed_cons] at h
      obtain ⟨rfl, hrest⟩ := frame_append_inj (hps p (by simp)) (hqs q (by simp)) h
      rw [ih (fun r hr => hps r (by simp [hr])) (fun r hr => hqs r (by simp [hr])) hrest]

/-- Different messages that have one digest. -/
def Collision (a b : ByteArray) : Prop := a ≠ b ∧ sha256 a = sha256 b

/-- Field lists have one digest if their parts are the same, and else only by a collision. -/
theorem ofFields_eq_iff {fs gs : List Field} (hfs : ∀ f ∈ fs, f.payload.size < UInt64.size)
    (hgs : ∀ g ∈ gs, g.payload.size < UInt64.size) :
    ofFields fs = ofFields gs ↔ fs.map Field.payload = gs.map Field.payload ∨
      Collision (framed (fs.map Field.payload)) (framed (gs.map Field.payload)) := by
  have hsmall {hs : List Field} (h : ∀ f ∈ hs, f.payload.size < UInt64.size) :
      ∀ p ∈ hs.map Field.payload, p.size < UInt64.size := by
    intro p hp
    obtain ⟨f, hf, rfl⟩ := List.mem_map.mp hp
    exact h f hf
  constructor
  · intro h
    by_cases hstream : framed (fs.map Field.payload) = framed (gs.map Field.payload)
    · exact .inl (framed_inj (hsmall hfs) (hsmall hgs) hstream)
    · exact .inr ⟨hstream, h⟩
  · rintro (h | ⟨-, h⟩)
    · rw [ofFields, ofFields, h]
    · exact h

theorem number_inj {m n : UInt64} (h : (Field.number m).payload = (Field.number n).payload) : m = n :=
  wordBytes_inj (by simpa [Field.payload] using h)

theorem text_inj {s t : String} (h : (Field.text s).payload = (Field.text t).payload) : s = t := Text.encode_inj h

end Digest
end Mend
