import Mend.Proofs.Ledger.DamagedLog
import Mend.Proofs.Text.Lines

/-!
# The line that a broken chain is reported at

The check reads a log three times over. It looks for bytes that are no text, then for a line feed at the end, and only
then at one record after the other. For a log that is a text of whole lines, only the last reading can fail, and it
fails at the first bad line (`firstBad_of_lines`). For any other log the reported line is at or below the first bad one:
the lines before it are whole, so that they are accepted, or their own check tells the first bad line
(`reported_or_earlier`).
-/

namespace Mend.Attestation

open Ledger
open Text (Terminated octets)

/-! ## The first lines of a log -/

/-- The bytes through the line feed number `n`. -/
def takeLines : Nat → List UInt8 → List UInt8
  | 0, _ => []
  | _ + 1, [] => []
  | n + 1, b :: bs => if b = 10 then b :: takeLines n bs else b :: takeLines (n + 1) bs

/-- The first `n` lines of a log, with their line feeds. -/
def upTo (n : Nat) (log : ByteArray) : ByteArray := ⟨(takeLines n log.data.toList).toArray⟩

theorem data_upTo (n : Nat) (log : ByteArray) : (upTo n log).data.toList = takeLines n log.data.toList := by
  rw [upTo, List.toList_toArray]

theorem takeLines_zero (bs : List UInt8) : takeLines 0 bs = [] := by
  cases bs <;> rfl

theorem takeLines_tail {bs : List UInt8} (h : 10 ∉ bs) (n : Nat) (rest : List UInt8) :
    takeLines (n + 1) (bs ++ rest) = bs ++ takeLines (n + 1) rest := by
  induction bs with
  | nil => rfl
  | cons b bs ih =>
    rw [List.mem_cons, not_or] at h
    rw [List.cons_append, takeLines, if_neg (Ne.symm h.1), ih h.2, List.cons_append]

theorem takeLines_line {bs : List UInt8} (h : 10 ∉ bs) (n : Nat) (rest : List UInt8) :
    takeLines (n + 1) (bs ++ 10 :: rest) = bs ++ 10 :: takeLines n rest := by
  rw [takeLines_tail h, takeLines, if_pos rfl]

theorem takeLines_takeLines {m n : Nat} (h : m ≤ n) (bs : List UInt8) :
    takeLines m (takeLines n bs) = takeLines m bs := by
  induction bs generalizing m n with
  | nil => cases n <;> rfl
  | cons b bs ih =>
    match m, n with
    | 0, _ => rw [takeLines_zero, takeLines_zero]
    | m + 1, n + 1 =>
      by_cases hb : b = 10
      · rw [takeLines, if_pos hb, takeLines, takeLines, if_pos hb, if_pos hb, ih (by omega)]
      · rw [takeLines, if_neg hb, takeLines, takeLines, if_neg hb, if_neg hb, ih h]

theorem takeLines_prefix (n : Nat) (bs : List UInt8) : takeLines n bs <+: bs := by
  induction bs generalizing n with
  | nil => cases n <;> exact List.nil_prefix
  | cons b bs ih =>
    match n with
    | 0 => exact List.nil_prefix
    | n + 1 =>
      rw [takeLines]
      split
      · exact (List.cons_prefix_cons).mpr ⟨rfl, ih n⟩
      · exact (List.cons_prefix_cons).mpr ⟨rfl, ih (n + 1)⟩

theorem upTo_upTo {m n : Nat} (h : m ≤ n) (log : ByteArray) : upTo m (upTo n log) = upTo m log := by
  rw [upTo, data_upTo, takeLines_takeLines h, upTo]

/-- The lines of the first records are the first lines of all. -/
theorem upTo_written (n : Nat) (rs : List Record) : upTo n (written rs) = written (rs.take n) := by
  apply ByteArray.ext
  apply Array.ext'
  rw [data_upTo, data_written, data_written]
  induction rs generalizing n with
  | nil => cases n <;> rfl
  | cons r rs ih =>
    match n with
    | 0 =>
      rw [takeLines_zero]
      rfl
    | n + 1 =>
      rw [List.take_succ_cons, List.map_cons, List.map_cons, List.flatMap_cons, List.flatMap_cons, List.append_assoc,
        List.singleton_append, takeLines_line (newline_not_mem_lineBytes r), ih, List.append_assoc,
        List.singleton_append]

/-! ## The first bad line -/

/-- The line after the first `n` is the first bad one: so many lines and fewer are the chains of as many records, and
more are not accepted. -/
structure FirstBad (n : Nat) (log : ByteArray) : Prop where
  before : ∀ k ≤ n, ∃ rs, checkChain (upTo k log) = .ok rs ∧ rs.length = k
  after : ∀ k, n < k → Rejected (upTo k log)

theorem checkChain_upTo {log : ByteArray} {rs : List Record} (h : checkChain log = .ok rs) (n : Nat) :
    checkChain (upTo n log) = .ok (rs.take n) := by
  obtain ⟨rfl, hreadable, hlinked⟩ := checkChain_ok h
  rw [upTo_written]
  exact checkChain_written (fun r hr => hreadable r (List.mem_of_mem_take hr)) (hlinked.take n)

theorem firstBad_intro {n : Nat} {log : ByteArray} {rs : List Record} (h : checkChain (upTo n log) = .ok rs)
    (hcount : rs.length = n) (hnext : Rejected (upTo (n + 1) log)) : FirstBad n log := by
  constructor
  · intro k hk
    have htake := checkChain_upTo h k
    rw [upTo_upTo hk] at htake
    exact ⟨rs.take k, htake, by rw [List.length_take]; omega⟩
  · intro k hk
    rw [rejected_iff] at hnext ⊢
    intro qs hqs
    have htake := checkChain_upTo hqs (n + 1)
    rw [upTo_upTo hk] at htake
    exact hnext _ htake

/-- A bad line is the first one whatever comes after it. -/
theorem FirstBad.of_upTo {m n : Nat} {log : ByteArray} (h : FirstBad m (upTo n log)) (hmn : m < n) :
    FirstBad m log := by
  obtain ⟨rs, hrs, hcount⟩ := h.before m (Nat.le_refl m)
  have hnext := h.after (m + 1) (Nat.lt_succ_self m)
  rw [upTo_upTo (Nat.le_of_lt hmn)] at hrs
  rw [upTo_upTo hmn] at hnext
  exact firstBad_intro hrs hcount hnext

/-! ## The records one after the other -/

/-- Where the lines are rejected, those before the reported one are accepted. -/
theorem checkLines_error {index : Nat} {previous : Digest} {lines : List String} {e : Ledger.Error}
    (h : checkLines index previous lines = .error e) :
    ∃ done line rest rs reason, lines = done ++ line :: rest ∧ e = .chainBroken (index + done.length + 1) reason ∧
      checkLines index previous done = .ok rs ∧ rs.length = done.length ∧
      checkLines index previous (done ++ [line]) = .error e := by
  induction lines generalizing index previous with
  | nil => cases h
  | cons line lines ih =>
    unfold checkLines at h
    split at h
    · next fault hline =>
      obtain rfl := Except.error.inj h
      refine ⟨[], line, lines, [], fault.message, rfl, rfl, rfl, rfl, ?_⟩
      rw [List.nil_append, checkLines, hline]
    · next r hline =>
      split at h
      · next e' hrest =>
        obtain rfl := Except.error.inj h
        obtain ⟨done, bad, rest, rs, reason, rfl, he, hdone, hcount, hbad⟩ := ih hrest
        refine ⟨line :: done, bad, rest, r :: rs, reason, rfl, ?_, ?_, ?_, ?_⟩
        · rw [he, List.length_cons, Nat.add_right_comm index 1, Nat.add_assoc index]
        · rw [checkLines, hline]
          dsimp only
          rw [hdone]
        · rw [List.length_cons, List.length_cons, hcount]
        · rw [List.cons_append, checkLines, hline]
          dsimp only
          rw [hbad]
      · cases h

/-- The bytes of a text of whole lines are taken line by line. -/
theorem takeLines_join {ls : List String} (h : ∀ l ∈ ls, Terminated l) (n : Nat) (rest : List UInt8) :
    takeLines (ls.length + n) (octets (String.join ls).toList ++ rest) =
      octets (String.join ls).toList ++ takeLines n rest := by
  induction ls with
  | nil => rw [List.length_nil, Nat.zero_add]; rfl
  | cons l ls ih =>
    rw [List.forall_mem_cons] at h
    obtain ⟨body, hbody, hl⟩ := h.1
    have hfree : 10 ∉ octets body := fun hmem => hbody (Text.mem_octets (by decide) hmem)
    have hline : octets l.toList = octets body ++ [10] := by rw [hl, Text.octets_append]; rfl
    rw [String.join_cons, String.toList_append, Text.octets_append, hline, List.length_cons, Nat.add_right_comm,
      List.append_assoc, List.append_assoc, List.singleton_append, takeLines_line hfree, ih h.2, List.append_assoc,
      List.append_assoc, List.singleton_append]

theorem upTo_join {ls : List String} (h : ∀ l ∈ ls, Terminated l) (ms : List String) :
    upTo ls.length (Text.encode (String.join (ls ++ ms))) = Text.encode (String.join ls) := by
  apply ByteArray.ext
  apply Array.ext'
  have hbytes := takeLines_join h 0 (octets (String.join ms).toList)
  rw [Nat.add_zero, takeLines, List.append_nil] at hbytes
  rw [data_upTo, Text.data_encode, Text.data_encode, String.join_append, String.toList_append, Text.octets_append,
    hbytes]

/-- The check of a text of whole lines goes through their bodies. -/
theorem checkChain_join {ls : List String} (h : ∀ l ∈ ls, Terminated l) :
    checkChain (Text.encode (String.join ls)) =
      checkLines 0 Digest.zero (ls.map fun l => String.ofList l.toList.dropLast) := by
  have hlines : Text.lines (String.join ls) = ls := by
    have hwhole := Text.lines_join_append h ""
    rwa [String.append_empty, Text.lines_empty, List.append_nil] at hwhole
  unfold checkChain
  rw [Text.decode?_encode]
  dsimp only
  rw [hlines]
  rcases List.eq_nil_or_concat' ls with rfl | ⟨init, last, rfl⟩
  · rfl
  · obtain ⟨body, -, hlast⟩ := h last (by simp)
    have hended : last.toList.getLast? = some '\n' := by rw [hlast, List.getLast?_concat]
    rw [List.getLast?_concat]
    dsimp only
    rw [if_pos hended]

/-- A text of whole lines is rejected at its first bad line. -/
theorem firstBad_of_lines {ls : List String} (h : ∀ l ∈ ls, Terminated l) {e : Ledger.Error}
    (he : checkChain (Text.encode (String.join ls)) = .error e) :
    ∃ n reason, e = .chainBroken (n + 1) reason ∧ n < ls.length ∧ FirstBad n (Text.encode (String.join ls)) := by
  rw [checkChain_join h] at he
  obtain ⟨done, bad, rest, rs, reason, hlines, hreason, hdone, hcount, hbad⟩ := checkLines_error he
  obtain ⟨before, after, rfl, hbefore, hafter⟩ := List.map_eq_append_iff.mp hlines
  obtain ⟨line, after, rfl, hline, -⟩ := List.map_eq_cons_iff.mp hafter
  rw [List.forall_mem_append, List.forall_mem_cons] at h
  have hlength : before.length = done.length := by rw [← hbefore, List.length_map]
  have hthrough : ∀ l ∈ before ++ [line], Terminated l := by
    rw [List.forall_mem_append, List.forall_mem_singleton]
    exact ⟨h.1, h.2.1⟩
  rw [Nat.zero_add] at hreason
  refine ⟨done.length, reason, hreason, ?_, firstBad_intro ?_ hcount ⟨e, ?_⟩⟩
  · rw [List.length_append, List.length_cons, hlength]
    omega
  · rw [← hlength, upTo_join h.1, checkChain_join h.1, hbefore, hdone]
  · have hnext := upTo_join hthrough after
    rw [List.length_append, List.length_singleton, hlength, List.append_assoc, List.singleton_append] at hnext
    rw [hnext, checkChain_join hthrough, List.map_append, List.map_singleton, hbefore, hline, hbad]

/-! ## Logs that are no text of whole lines -/

/-- The log is a text, and it is empty or ends in a line feed. -/
def Whole (log : ByteArray) : Prop := ∃ s, log = Text.encode s ∧ (s = "" ∨ ∃ t, s = t ++ "\n")

/-- A text is made of whole lines and a rest that may follow the last line feed. -/
theorem lines_and_rest (s : String) :
    ∃ ls rest, s = String.join ls ++ rest ∧ (∀ l ∈ ls, Terminated l) ∧ '\n' ∉ rest.toList := by
  have hlined := Text.lined_lines s
  rw [← Text.join_lines s]
  generalize Text.lines s = ls at hlined
  induction hlined with
  | nil => exact ⟨[], "", rfl, by simp, by simp⟩
  | @last l hl => exact ⟨[], l, by rw [String.join_cons, String.join_nil]; simp, by simp, hl.2⟩
  | @cons l ls hl _ ih =>
    obtain ⟨ms, rest, hls, hms, hrest⟩ := ih
    exact ⟨l :: ms, rest, by rw [String.join_cons, String.join_cons, hls, String.append_assoc],
      List.forall_mem_cons.mpr ⟨hl, hms⟩, hrest⟩

theorem whole_iff {log : ByteArray} :
    Whole log ↔ ∃ ls : List String, (∀ l ∈ ls, Terminated l) ∧ log = Text.encode (String.join ls) := by
  constructor
  · rintro ⟨s, rfl, rfl | ⟨t, rfl⟩⟩
    · exact ⟨[], by simp, rfl⟩
    · obtain ⟨ls, rest, rfl, hls, hrest⟩ := lines_and_rest t
      refine ⟨ls ++ [rest ++ "\n"], ?_, ?_⟩
      · rw [List.forall_mem_append, List.forall_mem_singleton]
        exact ⟨hls, rest.toList, hrest, String.toList_append⟩
      · rw [String.join_append, String.join_cons, String.join_nil, String.append_empty, String.append_assoc]
  · rintro ⟨ls, hls, rfl⟩
    refine ⟨String.join ls, rfl, ?_⟩
    rcases List.eq_nil_or_concat' ls with rfl | ⟨init, last, rfl⟩
    · exact .inl rfl
    · obtain ⟨body, -, hlast⟩ := hls last (by simp)
      refine .inr ⟨String.join init ++ String.ofList body, ?_⟩
      apply String.ext
      simp [String.join_append, hlast]

/-- The characters that are read from `i` on, up to where reading stops. -/
theorem validFrom_spec (b : ByteArray) (i : Nat) (hi : i ≤ b.size) :
    ∃ cs more, b.data.toList.drop i = octets cs ++ more ∧ Text.validFrom b i = i + (octets cs).length ∧
      (more ≠ [] → b.utf8DecodeChar? (Text.validFrom b i) = none) := by
  fun_induction Text.validFrom b i with
  | case1 i hlt c hc hfits ih =>
    obtain ⟨cs, more, hdrop, hend, hnone⟩ := ih hfits
    obtain ⟨later, hlater⟩ := Text.drop_of_decode hc
    have hsize : (String.utf8EncodeChar c).length = c.utf8Size := String.length_utf8EncodeChar c
    rw [← List.drop_drop, hlater, ← hsize, List.drop_left] at hdrop
    refine ⟨c :: cs, more, ?_, ?_, hnone⟩
    · rw [hlater, hdrop, Text.octets_cons, List.append_assoc]
    · rw [hend, Text.octets_cons, List.length_append, hsize, Nat.add_assoc]
  | case2 i hlt c hc hfits => exact absurd (ByteArray.le_size_of_utf8DecodeChar?_eq_some hc) hfits
  | case3 i hlt hc => exact ⟨[], _, rfl, rfl, fun _ => hc⟩
  | case4 i hlt =>
    have hend : b.data.toList.drop i = [] := by
      rw [List.drop_eq_nil_iff, Array.length_toList]
      exact Nat.not_lt.mp hlt
    exact ⟨[], [], hend, rfl, fun h => absurd rfl h⟩

theorem count_join {ls : List String} (h : ∀ l ∈ ls, Terminated l) :
    (octets (String.join ls).toList).count 10 = ls.length := by
  induction ls with
  | nil => rfl
  | cons l ls ih =>
    rw [List.forall_mem_cons] at h
    obtain ⟨body, hbody, hl⟩ := h.1
    have hfree : 10 ∉ octets body := fun hmem => hbody (Text.mem_octets (by decide) hmem)
    have hline : octets l.toList = octets body ++ [10] := by rw [hl, Text.octets_append]; rfl
    rw [String.join_cons, String.toList_append, Text.octets_append, hline, List.count_append, List.count_append,
      List.count_eq_zero_of_not_mem hfree, ih h.2, List.length_cons]
    simp [Nat.add_comm]

theorem takeLines_one_ne_nil {bs : List UInt8} (h : bs ≠ []) : takeLines 1 bs ≠ [] := by
  cases bs with
  | nil => exact absurd rfl h
  | cons b bs =>
    rw [takeLines]
    split <;> exact List.cons_ne_nil _ _

/-- What the lines of a log are that is rejected before its records are looked at: the reported line comes after whole
lines, and is no line of a text. -/
structure Torn (ls : List String) (log : ByteArray) : Prop where
  terminated : ∀ l ∈ ls, Terminated l
  above : upTo ls.length log = Text.encode (String.join ls)
  rejected : Rejected (upTo (ls.length + 1) log)
  not_whole : ¬ Whole log

/-- A log whose last line lacks its line feed. -/
theorem torn_of_unended {ls : List String} {rest : String} (h : ∀ l ∈ ls, Terminated l) (hne : rest ≠ "")
    (hrest : '\n' ∉ rest.toList) {e : Ledger.Error}
    (he : checkChain (Text.encode (String.join ls ++ rest)) = .error e) :
    Torn ls (Text.encode (String.join ls ++ rest)) := by
  have hfree : 10 ∉ octets rest.toList := fun hmem => hrest (Text.mem_octets (by decide) hmem)
  have hdata : (Text.encode (String.join ls ++ rest)).data.toList =
      octets (String.join ls).toList ++ octets rest.toList := by
    rw [Text.data_encode, String.toList_append, Text.octets_append]
  refine ⟨h, ?_, ?_, ?_⟩
  · have habove := upTo_join h [rest]
    rwa [String.join_append, String.join_cons, String.join_nil, String.append_empty] at habove
  · have hall : upTo (ls.length + 1) (Text.encode (String.join ls ++ rest)) = Text.encode (String.join ls ++ rest) := by
      apply ByteArray.ext
      apply Array.ext'
      have htail := takeLines_tail hfree 0 []
      rw [takeLines, List.append_nil] at htail
      rw [data_upTo, hdata, takeLines_join h, htail]
    rw [hall]
    exact ⟨e, he⟩
  · rintro ⟨s, hs, hended⟩
    rw [← Text.encode_inj hs] at hended
    rcases hended with hnil | ⟨t, ht⟩
    · exact hne (String.append_eq_empty_iff.mp hnil).2
    · have hlast := congrArg (fun s => s.toList.getLast?) ht
      have hne' : rest.toList ≠ [] := fun hnil => hne (String.toList_eq_nil_iff.mp hnil)
      simp only [String.toList_append, List.getLast?_append_of_ne_nil _ hne'] at hlast
      rw [show "\n".toList = ['\n'] from rfl, List.getLast?_append_of_ne_nil _ (List.cons_ne_nil _ _)] at hlast
      exact hrest (List.mem_of_getLast? hlast)

/-- A log with bytes that are no text. -/
theorem torn_of_notUtf8 {log : ByteArray} (h : Text.decode? log = none) :
    ∃ ls, lineFeeds log (Text.validPrefix log) = ls.length ∧ Torn ls log := by
  obtain ⟨cs, more, hdrop, hend, hnone⟩ := validFrom_spec log 0 (Nat.zero_le _)
  obtain ⟨ls, rest, hsplit, hls, hrest⟩ := lines_and_rest (String.ofList cs)
  have hcs : cs = (String.join ls).toList ++ rest.toList := by
    rw [← String.toList_append, ← hsplit, String.toList_ofList]
  have hfree : 10 ∉ octets rest.toList := fun hmem => hrest (Text.mem_octets (by decide) hmem)
  rw [List.drop_zero] at hdrop
  rw [Nat.zero_add] at hend
  have hwhole (s : String) : log ≠ Text.encode s := by
    rintro rfl
    rw [Text.decode?_encode] at h
    cases h
  have hmore : more ≠ [] := by
    rintro rfl
    refine hwhole (String.ofList cs) (ByteArray.ext (Array.ext' ?_))
    rw [hdrop, Text.data_encode, String.toList_ofList, List.append_nil]
  have hdata : log.data.toList = octets (String.join ls).toList ++ (octets rest.toList ++ more) := by
    rw [hdrop, hcs, Text.octets_append, List.append_assoc]
  refine ⟨ls, ?_, hls, ?_, ?_, fun ⟨s, hs, _⟩ => hwhole s hs⟩
  · rw [lineFeeds, Text.toList_bytes, ByteArray.data_extract, Array.toList_extract, List.extract_eq_take_drop,
      List.drop_zero, Nat.sub_zero, Text.validPrefix, hend, hdrop, List.take_left, hcs, Text.octets_append,
      List.count_append, count_join hls, List.count_eq_zero_of_not_mem hfree, Nat.add_zero]
  · apply ByteArray.ext
    apply Array.ext'
    have hbytes := takeLines_join hls 0 (octets rest.toList ++ more)
    rw [Nat.add_zero, takeLines_zero, List.append_nil] at hbytes
    rw [data_upTo, hdata, hbytes, Text.data_encode]
  · rw [rejected_iff]
    intro rs hrs
    obtain ⟨hwritten, -, -⟩ := checkChain_ok hrs
    have hbytes : octets cs ++ takeLines 1 more = octets (String.join (rs.map fun r => r.encode ++ "\n")).toList := by
      rw [← Text.data_encode, ← written, ← hwritten, data_upTo, hdata, takeLines_join hls, takeLines_tail hfree,
        ← List.append_assoc, ← Text.octets_append, ← hcs]
    obtain ⟨ds, hds⟩ := Text.prefix_of_octets hbytes.symm
    rw [← hds, Text.octets_append, List.append_cancel_left_eq] at hbytes
    -- the characters would go on where reading stopped
    cases ds with
    | nil => exact takeLines_one_ne_nil hmore hbytes
    | cons c ds =>
      obtain ⟨spare, hspare⟩ := takeLines_prefix 1 more
      have hread : log.utf8DecodeChar? (octets cs).length = some c := by
        have hbroken : log.data.toList.drop (octets cs).length =
            String.utf8EncodeChar c ++ (octets ds ++ spare) := by
          rw [hdrop, List.drop_left, ← hspare, hbytes, Text.octets_cons, List.append_assoc]
        exact Text.decode_of_drop hbroken
      have hstop := hnone hmore
      rw [hend, hread] at hstop
      cases hstop

/-- A log is rejected at its first bad line, or before its records are looked at. -/
theorem rejected_cases {log : ByteArray} {e : Ledger.Error} (h : checkChain log = .error e) :
    Whole log ∨ ∃ ls reason, Torn ls log ∧ e = .chainBroken (ls.length + 1) reason := by
  cases hdecode : Text.decode? log with
  | none =>
    obtain ⟨ls, hcount, htorn⟩ := torn_of_notUtf8 hdecode
    unfold checkChain at h
    rw [hdecode] at h
    dsimp only at h
    rw [hcount] at h
    exact .inr ⟨ls, _, htorn, (Except.error.inj h).symm⟩
  | some text =>
    obtain rfl := Text.encode_of_decode? hdecode
    obtain ⟨ls, rest, rfl, hls, hrest⟩ := lines_and_rest text
    by_cases hne : rest = ""
    · exact .inl (whole_iff.mpr ⟨ls, hls, by rw [hne, String.append_empty]⟩)
    · have hlines : Text.lines (String.join ls ++ rest) = ls ++ [rest] := by
        rw [Text.lines_join_append hls, Text.lines_of_loose ⟨hne, hrest⟩]
      have hopen : rest.toList.getLast? ≠ some '\n' := fun hlast => hrest (List.mem_of_getLast? hlast)
      refine .inr ⟨ls, Fault.truncated.message, torn_of_unended hls hne hrest h, ?_⟩
      unfold checkChain at h
      rw [hdecode] at h
      dsimp only at h
      rw [hlines, List.getLast?_concat] at h
      dsimp only at h
      rw [if_neg hopen, List.length_append, List.length_singleton] at h
      exact (Except.error.inj h).symm

/-- **The line that a broken chain is reported at.** A log that is rejected is rejected through the reported line, and the
first bad line is that one or stands above it. It can stand above it only if the log is not a text of whole lines, and
then it is what the lines above the reported one are rejected with. -/
theorem reported_or_earlier {log : ByteArray} {e : Ledger.Error} (h : checkChain log = .error e) :
    ∃ n reason, e = .chainBroken (n + 1) reason ∧ Rejected (upTo (n + 1) log) ∧ ∃ m ≤ n, FirstBad m log ∧
      (m = n ∨ ¬ Whole log ∧ ∃ reason, checkChain (upTo n log) = .error (.chainBroken (m + 1) reason)) := by
  rcases rejected_cases h with hwhole | ⟨ls, reason, htorn, he⟩
  · obtain ⟨ls, hls, rfl⟩ := whole_iff.mp hwhole
    obtain ⟨n, reason, he, -, hfirst⟩ := firstBad_of_lines hls h
    exact ⟨n, reason, he, hfirst.after (n + 1) (Nat.lt_succ_self n), n, Nat.le_refl n, hfirst, .inl rfl⟩
  · refine ⟨ls.length, reason, he, htorn.rejected, ?_⟩
    cases habove : checkChain (upTo ls.length log) with
    | ok rs =>
      have hcount : rs.length = ls.length := by
        rw [htorn.above, checkChain_join htorn.terminated] at habove
        rw [← List.length_map Record.encode, ← (checkLines_ok habove).1, List.length_map]
      exact ⟨ls.length, Nat.le_refl _, firstBad_intro habove hcount htorn.rejected, .inl rfl⟩
    | error e' =>
      rw [htorn.above] at habove
      obtain ⟨m, reason', rfl, hm, hfirst⟩ := firstBad_of_lines htorn.terminated habove
      rw [← htorn.above] at hfirst
      exact ⟨m, Nat.le_of_lt hm, hfirst.of_upTo hm, .inr ⟨htorn.not_whole, reason', rfl⟩⟩

/-- A line that is no record, and a line that lacks its line feed. -/
def twoFaults : ByteArray := Text.encode "x\ny"

theorem checkChain_twoFaults : checkChain twoFaults = .error (.chainBroken 2 Fault.truncated.message) := rfl

theorem reported_or_earlier_twoFaults :
    checkChain twoFaults = .error (.chainBroken 2 Fault.truncated.message) ∧ Rejected (upTo 2 twoFaults) ∧
      ∃ m ≤ 1, FirstBad m twoFaults ∧ (m = 1 ∨ ¬ Whole twoFaults ∧
        ∃ reason, checkChain (upTo 1 twoFaults) = .error (.chainBroken (m + 1) reason)) := by
  obtain ⟨n, reason, he, hrejected, hfirst⟩ := reported_or_earlier checkChain_twoFaults
  obtain rfl : 1 = n := by
    injection he with hline
    omega
  exact ⟨checkChain_twoFaults, hrejected, hfirst⟩

/-- The lines above the reported one need not be the chain of as many records. -/
theorem later_line_reported :
    ¬ ∀ (log : ByteArray) (n : Nat) (reason : String), checkChain log = .error (.chainBroken (n + 1) reason) →
      (∃ rs, checkChain (upTo n log) = .ok rs ∧ rs.length = n) ∧ Rejected (upTo (n + 1) log) := by
  intro h
  obtain ⟨rs, habove, -⟩ := (h twoFaults 1 _ checkChain_twoFaults).1
  have hparse : Record.parse? "x" = none := by
    have hjson : Json.parse "x" = none := by
      unfold Json.parse
      split <;> rfl
    show (Json.parse "x").bind Record.ofJson? = none
    rw [hjson, Option.bind_none]
  have hline : checkChain (upTo 1 twoFaults) = checkLines 0 Digest.zero ["x"] := rfl
  rw [hline, checkLines, checkLine, hparse] at habove
  cases habove

end Mend.Attestation
