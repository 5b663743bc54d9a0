import Mend.Proofs.Text.Lines

/-!
# Damaged bytes

No character and no broken piece of one goes on past a line feed. Whatever bytes stand before a line feed, the text
after it is therefore read as it was written (`decodeLossy_append_newline`), and its last line is the line that was
put there (`bodies_append_line`).
-/

namespace Mend.Text

/-! ## Broken pieces -/

theorem brokenLength_pos (lead : UInt8) (rest : List UInt8) : 0 < brokenLength lead rest := by
  simp only [brokenLength]
  repeat' split
  all_goals omega

theorem brokenLength_le (lead : UInt8) (rest : List UInt8) : brokenLength lead rest ≤ rest.length + 1 := by
  match rest with
  | [] => simp [brokenLength]
  | [_] =>
    simp only [brokenLength, List.drop_succ_cons, List.drop_zero, Bool.false_eq_true, if_false, List.length_singleton]
    repeat' split
    all_goals omega
  | _ :: _ :: rest =>
    simp only [brokenLength, List.length_cons]
    repeat' split
    all_goals omega

/-- A line feed ends a broken piece as the end of the bytes does. -/
theorem brokenLength_newline (lead : UInt8) (rest more : List UInt8) :
    brokenLength lead ((rest ++ 10 :: more).take 3) = brokenLength lead (rest.take 3) := by
  match rest with
  | [] => simp [brokenLength]
  | [_] => simp [brokenLength]
  | _ :: _ :: _ => rfl

/-! ## Reading on -/

section Reading

variable {mark : Char} {b : ByteArray}

theorem toList_extract_ahead (b : ByteArray) (i : Nat) :
    (b.extract (i + 1) (min b.size (i + 4))).toList = (b.data.toList.drop (i + 1)).take 3 := by
  have hsize : b.data.toList.length = b.size := Array.length_toList
  rw [toList_bytes, ByteArray.data_extract, Array.toList_extract, List.extract_eq_take_drop]
  refine List.take_eq_take_iff.mpr ?_
  rw [List.length_drop, hsize]
  omega

theorem lossyFrom_end (n i : Nat) (h : b.size ≤ i) : lossyFrom mark b n i = [] := by
  cases n with
  | zero => rfl
  | succ n => rw [lossyFrom, if_neg (Nat.not_lt.mpr h)]

theorem lossyFrom_char {n i : Nat} {c : Char} (h : b.utf8DecodeChar? i = some c) :
    lossyFrom mark b (n + 1) i = c :: lossyFrom mark b n (i + c.utf8Size) := by
  have hi : i < b.size := by
    have := ByteArray.le_size_of_utf8DecodeChar?_eq_some h
    have := c.utf8Size_pos
    omega
  rw [lossyFrom, if_pos hi, h]

theorem lossyFrom_broken {n i : Nat} (hi : i < b.size) (h : b.utf8DecodeChar? i = none) :
    lossyFrom mark b (n + 1) i =
      mark :: lossyFrom mark b n (i + brokenLength (b.get! i) ((b.data.toList.drop (i + 1)).take 3)) := by
  rw [lossyFrom, if_pos hi, h, toList_extract_ahead]

/-- Characters are read back from their bytes, whatever stands before them. -/
theorem lossyFrom_encoded (a : ByteArray) (cs : List Char) {n : Nat} (hn : cs.utf8Encode.size ≤ n) :
    lossyFrom mark (a ++ cs.utf8Encode) n a.size = cs := by
  induction cs generalizing a n with
  | nil => exact lossyFrom_end n _ (by simp)
  | cons c cs ih =>
    have hsize : [c].utf8Encode.size = c.utf8Size := by
      rw [List.utf8Encode_singleton, List.size_toByteArray, String.length_utf8EncodeChar]
    have hpos := c.utf8Size_pos
    rw [List.utf8Encode_cons, ByteArray.size_append, hsize] at hn
    obtain ⟨n, rfl⟩ : ∃ m, n = m + 1 := ⟨n - 1, by omega⟩
    have hdecode : (a ++ (c :: cs).utf8Encode).utf8DecodeChar? a.size = some c := by
      rw [ByteArray.utf8DecodeChar?_eq_utf8DecodeChar?_extract, ByteArray.size_append,
        ByteArray.extract_append_eq_right rfl rfl]
      exact List.utf8DecodeChar?_utf8Encode_cons
    have hrest := ih (a ++ [c].utf8Encode) (n := n) (by omega)
    rw [ByteArray.append_assoc, ← List.utf8Encode_cons, ByteArray.size_append, hsize] at hrest
    rw [lossyFrom_char hdecode, hrest]

theorem decode_of_drop {a : ByteArray} {c : Char} {i : Nat} {more : List UInt8}
    (h : a.data.toList.drop i = String.utf8EncodeChar c ++ more) : a.utf8DecodeChar? i = some c := by
  have hbytes : a.extract i a.size = (String.utf8EncodeChar c).toByteArray ++ more.toByteArray := by
    apply ByteArray.ext
    apply Array.ext'
    rw [ByteArray.data_extract, Array.toList_extract, List.extract_eq_take_drop, h, ByteArray.data_append,
      Array.toList_append, List.toList_data_toByteArray, List.toList_data_toByteArray]
    refine List.take_of_length_le ?_
    rw [← h, List.length_drop, Array.length_toList]
    exact Nat.le_refl _
  rw [ByteArray.utf8DecodeChar?_eq_utf8DecodeChar?_extract, hbytes]
  exact ByteArray.utf8DecodeChar?_utf8EncodeChar_append

theorem drop_of_decode {a : ByteArray} {c : Char} {i : Nat} (h : a.utf8DecodeChar? i = some c) :
    ∃ more, a.data.toList.drop i = String.utf8EncodeChar c ++ more := by
  rw [ByteArray.utf8DecodeChar?_eq_utf8DecodeChar?_extract] at h
  obtain ⟨more, hmore⟩ := ByteArray.exists_of_utf8DecodeChar?_eq_some h
  refine ⟨more.data.toList, ?_⟩
  have hlist := congrArg (fun b => b.data.toList) hmore
  rw [ByteArray.data_extract, Array.toList_extract, List.extract_eq_take_drop, ByteArray.data_append,
    Array.toList_append, List.toList_data_toByteArray] at hlist
  rw [← hlist]
  refine (List.take_of_length_le ?_).symm
  rw [List.length_drop, Array.length_toList]
  exact Nat.le_refl _

theorem data_append_newline (a : ByteArray) (cs : List Char) :
    (a ++ ('\n' :: cs).utf8Encode).data.toList = a.data.toList ++ 10 :: octets cs := by
  rw [ByteArray.data_append, Array.toList_append, List.utf8Encode, List.toList_data_toByteArray, List.flatMap_cons]
  rfl

/-- A character that begins before a line feed is read as if the bytes ended there. -/
theorem decode_before_newline {a : ByteArray} {cs : List Char} {i : Nat} (hi : i < a.size) :
    (a ++ ('\n' :: cs).utf8Encode).utf8DecodeChar? i = a.utf8DecodeChar? i := by
  cases ha : a.utf8DecodeChar? i with
  | some c => exact ByteArray.utf8DecodeChar?_append_eq_some ha _
  | none =>
    by_contra hne
    obtain ⟨c, hc⟩ := Option.ne_none_iff_exists'.mp hne
    have hlength : i < a.data.toList.length := hi
    obtain ⟨more, hmore⟩ := drop_of_decode hc
    rw [data_append_newline, List.drop_append_of_le_length (Nat.le_of_lt hlength)] at hmore
    rcases List.append_eq_append_iff.mp hmore with ⟨spare, hover, hrest⟩ | ⟨rest, hrest, -⟩
    · cases spare with
      | nil =>
        rw [List.append_nil] at hover
        have hbytes : a.data.toList.drop i = String.utf8EncodeChar c ++ [] := by rw [List.append_nil, hover]
        have hread := decode_of_drop hbytes
        rw [ha] at hread
        cases hread
      | cons x spare =>
        -- the line feed would be a byte of the character, which then is the line feed
        obtain rfl : 10 = x := (List.cons.inj hrest).1
        have hmem : (10 : UInt8) ∈ String.utf8EncodeChar c := by rw [hover]; simp
        obtain rfl : c = '\n' := Char.toNat_inj.mp (toNat_of_mem_utf8EncodeChar hmem (by decide))
        have hone := congrArg List.length hover
        rw [List.length_append, List.length_drop, List.length_cons,
          show (String.utf8EncodeChar '\n').length = 1 from rfl] at hone
        omega
    · have hread := decode_of_drop hrest
      rw [ha] at hread
      cases hread

/-- What stands before a line feed is read as if the bytes ended there. -/
theorem lossyFrom_newline (a : ByteArray) (cs : List Char) {n m i : Nat} (hi : i ≤ a.size)
    (hn : (a ++ ('\n' :: cs).utf8Encode).size ≤ n + i) (hm : a.size ≤ m + i) :
    lossyFrom mark (a ++ ('\n' :: cs).utf8Encode) n i = lossyFrom mark a m i ++ '\n' :: cs := by
  induction m generalizing n i with
  | zero =>
    obtain rfl : i = a.size := by omega
    rw [ByteArray.size_append] at hn
    rw [lossyFrom_end 0 _ (Nat.le_refl _), List.nil_append, lossyFrom_encoded a _ (by omega)]
  | succ m ih =>
    by_cases hend : i = a.size
    · subst hend
      rw [ByteArray.size_append] at hn
      rw [lossyFrom_end (m + 1) _ (Nat.le_refl _), List.nil_append, lossyFrom_encoded a _ (by omega)]
    have hlt : i < a.size := by omega
    rw [ByteArray.size_append] at hn
    obtain ⟨n, rfl⟩ : ∃ k, n = k + 1 := ⟨n - 1, by omega⟩
    have hdecode := @decode_before_newline a cs i hlt
    cases ha : a.utf8DecodeChar? i with
    | some c =>
      have hpos := c.utf8Size_pos
      have hle := ByteArray.le_size_of_utf8DecodeChar?_eq_some ha
      rw [ha] at hdecode
      rw [lossyFrom_char hdecode, lossyFrom_char ha, List.cons_append,
        ih hle (by rw [ByteArray.size_append]; omega) (by omega)]
    | none =>
      rw [ha] at hdecode
      have hlength : i < a.data.toList.length := hlt
      have hget : (a ++ ('\n' :: cs).utf8Encode).get! i = a.get! i := by
        show (a ++ ('\n' :: cs).utf8Encode).data[i]! = a.data[i]!
        rw [ByteArray.data_append, getElem!_pos (a.data ++ _) i (by rw [Array.size_append]; exact Nat.lt_add_right _ hlt),
          getElem!_pos a.data i hlt, Array.getElem_append_left hlt]
      have hahead : (a ++ ('\n' :: cs).utf8Encode).data.toList.drop (i + 1) =
          a.data.toList.drop (i + 1) ++ 10 :: octets cs := by
        rw [data_append_newline, List.drop_append_of_le_length hlength]
      have hpos := brokenLength_pos (a.get! i) ((a.data.toList.drop (i + 1)).take 3)
      have hle := brokenLength_le (a.get! i) ((a.data.toList.drop (i + 1)).take 3)
      rw [List.length_take, List.length_drop] at hle
      rw [lossyFrom_broken (by rw [ByteArray.size_append]; omega) hdecode, lossyFrom_broken hlt ha, hget, hahead,
        brokenLength_newline, List.cons_append,
        ih (by change _ ≤ a.data.toList.length; omega) (by rw [ByteArray.size_append]; omega) (by omega)]

end Reading

/-! ## Texts -/

/-- Whole bytes are read as damaged ones are. -/
theorem decodeLossy_eq (b : ByteArray) : decodeLossy b = String.ofList (lossyFrom '\uFFFD' b b.size 0) := by
  rw [decodeLossy]
  split
  · next s hs =>
    have hb : b = ByteArray.empty ++ s.toList.utf8Encode := by
      rw [ByteArray.empty_append, String.utf8Encode_toList]
      exact encode_of_decode? hs
    have hread : lossyFrom '\uFFFD' b b.size 0 = s.toList := by
      rw [hb]
      exact lossyFrom_encoded ByteArray.empty s.toList (Nat.le_of_eq (by rw [ByteArray.empty_append]))
    rw [hread, String.ofList_toList]
  · rfl

/-- The text after a line feed is read as it was written, whatever bytes stand before the line feed. -/
theorem decodeLossy_append_newline (a : ByteArray) (s : String) :
    decodeLossy (a ++ encode ("\n" ++ s)) = decodeLossy a ++ "\n" ++ s := by
  have hbytes : encode ("\n" ++ s) = ('\n' :: s.toList).utf8Encode := by
    rw [encode, String.toUTF8, ← String.utf8Encode_toList, String.toList_append]
    rfl
  have hread : lossyFrom '\uFFFD' (a ++ ('\n' :: s.toList).utf8Encode) (a ++ ('\n' :: s.toList).utf8Encode).size 0 =
      lossyFrom '\uFFFD' a a.size 0 ++ '\n' :: s.toList :=
    lossyFrom_newline a s.toList (Nat.zero_le _) (Nat.le_refl _) (Nat.le_refl _)
  rw [decodeLossy_eq, decodeLossy_eq, hbytes, hread]
  apply String.ext
  simp

theorem decodeLossy_encode (s : String) : decodeLossy (encode s) = s := by rw [decodeLossy, decode?_encode]

/-! ## Lines -/

/-- The bodies of a text to which a line was added. The text before is empty, or it ends in a line feed. -/
theorem bodies_append_line {s l : String} (hs : s = "" ∨ ∃ t, s = t ++ "\n") (hl : '\n' ∉ l.toList)
    (hreturn : l.toList.getLast? ≠ some '\r') : bodies (s ++ l ++ "\n") = bodies s ++ [l] := by
  have hline : lines (l ++ "\n") = [l ++ "\n"] := lines_of_terminated ⟨l.toList, hl, by simp⟩
  rcases hs with rfl | ⟨t, rfl⟩
  · rw [String.empty_append, bodies, hline, List.map_singleton, body_line hreturn]
    rfl
  · have happend : lines (t ++ "\n" ++ l ++ "\n") = lines (t ++ "\n") ++ lines (l ++ "\n") := by
      rw [String.append_assoc, lines_append_of_feed (by simp)]
    rw [bodies, happend, List.map_append, hline, List.map_singleton, body_line hreturn]
    rfl

end Mend.Text
