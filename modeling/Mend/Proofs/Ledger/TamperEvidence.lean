import Mathlib.Data.List.Induction
import Mend.Proofs.Ledger.Preimage
import Mend.Proofs.Text.Edit

/-!
# Tampering with the attestation log

The own digest of the last record commits to the whole log (`head_commits`), and a log of which one byte was replaced is
not accepted any more (`byte_protected`), unless different bytes are digested to the same digest for the records of the
two logs.

For the first, the chains are walked backwards from records with one digest: the bytes that are digested tell the
record (`Record.preimage_inj`) and with it the digest of the one before, and the number tells when both chains end.
For the second, lines are compared (`OneApart.lines`). No line begins with another one, so that the byte is in one of the
lines; and if it is in the last, then it is in its own digest (`OneApart.values`), which is that of the other fields.
-/

namespace Mend.Attestation

open Text (OneApart octets quotedValues)

/-- Different bytes are digested to the same digest for a record of the one list and one of the other. -/
def Collide (rs ss : List Record) : Prop :=
  ∃ r ∈ rs, ∃ s ∈ ss, r.preimage ≠ s.preimage ∧ Digest.sha256 r.preimage = Digest.sha256 s.preimage

/-- The records of a log that is accepted and that a machine can hold. -/
structure Sound (rs : List Record) : Prop where
  readable : ∀ r ∈ rs, Readable r
  linked : Linked 0 Digest.zero rs
  fits : ∀ r ∈ rs, r.encode.utf8ByteSize < UInt64.size

theorem le_size_written {rs : List Record} {r : Record} (h : r ∈ rs) :
    r.encode.utf8ByteSize ≤ (written rs).size := by
  obtain ⟨init, rest, rfl⟩ := List.append_of_mem h
  rw [← List.singleton_append, written_append, written_append, written_singleton, ByteArray.size_append,
    ByteArray.size_append, ByteArray.size_append]
  show _ ≤ _ + (r.encode.utf8ByteSize + _ + _)
  omega

theorem sound_of_checkChain {log : ByteArray} {rs : List Record} (h : checkChain log = .ok rs)
    (hsize : log.size < UInt64.size) : log = written rs ∧ Sound rs := by
  obtain ⟨rfl, hreadable, hlinked⟩ := checkChain_ok h
  exact ⟨rfl, hreadable, hlinked, fun r hr => Nat.lt_of_le_of_lt (le_size_written hr) hsize⟩

/-! ## The last digest -/

/-- Records with one digest are the same, or else a collision. -/
theorem eq_or_preimage_ne {r s : Record} (hr : Readable r) (hs : Readable s) (hrsize : r.encode.utf8ByteSize < UInt64.size)
    (hssize : s.encode.utf8ByteSize < UInt64.size) (hown : r.own = s.own) : r = s ∨ r.preimage ≠ s.preimage := by
  by_cases hpreimage : r.preimage = s.preimage
  · obtain ⟨hsequence, hdraft, hprevious⟩ := Record.preimage_inj hr hs hrsize hssize hpreimage
    exact .inl (Record.eq_of_fields hsequence hdraft hprevious hown)
  · exact .inr hpreimage

theorem Sound.init {rs : List Record} {r : Record} (h : Sound (rs ++ [r])) : Sound rs :=
  ⟨fun q hq => h.readable q (by simp [hq]), (linked_append.mp h.linked).1, fun q hq => h.fits q (by simp [hq])⟩

/-- Chains whose last records have one digest are the same, or else they hold a collision. -/
theorem eq_or_collide {rs ss : List Record} (hr : Sound rs) (hs : Sound ss)
    (h : rs.getLast?.map Record.own = ss.getLast?.map Record.own) : rs = ss ∨ Collide rs ss := by
  induction rs using List.reverseRecOn generalizing ss with
  | nil =>
    cases ss using List.reverseRecOn with
    | nil => exact .inl rfl
    | append_singleton ss s => simp at h
  | append_singleton rs r ih =>
    cases ss using List.reverseRecOn with
    | nil => simp at h
    | append_singleton ss s =>
      have hown : r.own = s.own := by simpa using h
      have hrmem : r ∈ rs ++ [r] := by simp
      have hsmem : s ∈ ss ++ [s] := by simp
      obtain ⟨-, hrsequence, hrprevious, hrown⟩ := linked_append.mp hr.linked
      obtain ⟨-, hssequence, hsprevious, hsown⟩ := linked_append.mp hs.linked
      rcases eq_or_preimage_ne (hr.readable r hrmem) (hs.readable s hsmem) (hr.fits r hrmem) (hs.fits s hsmem) hown with
        rfl | hpreimage
      · -- the numbers are those of the records before, and the digests before are the same
        have hlength : rs.length = ss.length := by omega
        have hlast : rs.getLast?.map Record.own = ss.getLast?.map Record.own := by
          rw [hrprevious] at hsprevious
          rcases List.eq_nil_or_concat' rs with rfl | ⟨_, p, rfl⟩ <;> rcases List.eq_nil_or_concat' ss with rfl | ⟨_, q, rfl⟩
          · rfl
          · simp at hlength
          · simp at hlength
          · simpa using hsprevious
        rcases ih hr.init hs.init hlast with rfl | ⟨p, hp, q, hq, hne, hdigest⟩
        · exact .inl rfl
        · exact .inr ⟨p, by simp [hp], q, by simp [hq], hne, hdigest⟩
      · refine .inr ⟨r, hrmem, s, hsmem, hpreimage, ?_⟩
        rw [← Record.computeHash_eq, ← Record.computeHash_eq, ← hrown, ← hsown, hown]

/-! ## The bytes of a log -/

/-- The bytes of the line of a record. -/
def lineBytes (r : Record) : List UInt8 := octets r.encode.toList

theorem data_written (rs : List Record) :
    (written rs).data.toList = (rs.map lineBytes).flatMap fun l => l ++ [10] := by
  rw [written, Text.data_encode, toList_lines, octets, List.flatMap_assoc, List.flatMap_map, List.flatMap_map]
  refine List.flatMap_congr fun r _ => ?_
  rw [List.flatMap_append]
  rfl

theorem newline_not_mem_lineBytes (r : Record) : 10 ∉ lineBytes r := fun h =>
  newline_not_mem_encode r (Text.mem_octets (c := '\n') (by decide) h)

theorem lineBytes_inj {r s : Record} (hr : Readable r) (hs : Readable s) (h : lineBytes r = lineBytes s) : r = s :=
  encode_inj hr hs (String.toList_inj.mp (Text.octets_inj h))

theorem map_lineBytes_inj {rs ss : List Record} (hr : ∀ r ∈ rs, Readable r) (hs : ∀ s ∈ ss, Readable s)
    (h : rs.map lineBytes = ss.map lineBytes) : rs = ss := by
  induction rs generalizing ss with
  | nil => exact (List.map_eq_nil_iff.mp h.symm).symm
  | cons r rs ih =>
    obtain ⟨s, ss, rfl, hline, hrest⟩ := List.map_eq_cons_iff.mp h.symm
    rw [lineBytes_inj (hr r (by simp)) (hs s (by simp)) hline.symm,
      ih (fun q hq => hr q (by simp [hq])) (fun q hq => hs q (by simp [hq])) hrest.symm]

/-- No line begins with another one. -/
theorem lineBytes_ne_append (r s : Record) (b : UInt8) (rest : List UInt8) : lineBytes s ≠ lineBytes r ++ b :: rest := by
  intro h
  obtain ⟨more, hmore⟩ := Text.prefix_of_octets h
  have hspell (t : Record) : t.encode.toList = Json.spell .none 0 t.toJson := Json.toList_compact 0 _
  have hnil : more = [] := by
    refine Json.spell_obj_append .none 0 (plain_toJson r) (plain_toJson s) ?_
    rw [hspell, hspell] at hmore
    exact hmore.symm
  rw [hnil, List.append_nil] at hmore
  rw [lineBytes, lineBytes, hmore] at h
  exact absurd (List.append_right_eq_self.mp h.symm) (List.cons_ne_nil _ _)

/-! ## The layout of a line -/

/-- A character that is neither a quote nor a comma and is written as it is. -/
def Tame (c : Char) : Prop := c ≠ '"' ∧ c ≠ ',' ∧ Json.escape c = [c]

instance (c : Char) : Decidable (Tame c) := inferInstanceAs (Decidable (_ ∧ _ ∧ _))

theorem tame_toHex (d : Digest) : ∀ c ∈ d.toHex.toList, Tame c := by
  have hdigit : ∀ n < 16, Tame (Text.Hex.digit n) := by decide
  intro c hc
  rw [Digest.toHex, Text.Hex.encode, String.toList_ofList, Text.Hex.encodeList] at hc
  obtain ⟨b, -, hb⟩ := List.mem_flatMap.mp hc
  have hbyte := b.toNat_lt
  rcases List.mem_cons.mp hb with rfl | hb
  · exact hdigit _ (by omega)
  · rw [List.mem_singleton.mp hb]
    exact hdigit _ (by omega)

theorem tame_toText (id : CycleId) : ∀ c ∈ id.toText.toList, Tame c := by
  have hdigit : ∀ n < 32, Tame (CycleId.alphabet.getD n '0') := by decide
  rw [CycleId.toText, String.toList_ofList]
  exact CycleId.forall_mem_digits hdigit 26 _ (by simp)

theorem tame_of_isMark {c : Char} (h : Time.isMark c) : Tame c := by
  have hall : ∀ n < 128, Time.isMark (Char.ofNat n) → Tame (Char.ofNat n) := by decide
  have hsmall : c.toNat < 128 := by
    rw [Time.isMark, Bool.or_eq_true] at h
    rcases h with h | h
    · simp only [Char.isDigit, Bool.and_eq_true, decide_eq_true_eq, UInt32.le_iff_toNat_le] at h
      exact Nat.lt_of_le_of_lt h.2 (by decide)
    · have hmarks : ("-+:.TZ".toList.all fun c => c.toNat < 128) = true := by decide
      exact of_decide_eq_true (List.all_eq_true.mp hmarks c (List.contains_iff_mem.mp h))
  have hc := hall c.toNat hsmall
  rw [Char.ofNat_toNat] at hc
  exact hc h

theorem tame_moment (t : Time) : ∀ c ∈ t.toText.toList, Tame c :=
  fun c hc => tame_of_isMark (List.all_eq_true.mp (Time.all_render _ t) c hc)

theorem quote_tame {s : String} (h : ∀ c ∈ s.toList, Tame c) : (Json.quote s).toList = '"' :: (s.toList ++ ['"']) := by
  have hescape : s.toList.flatMap Json.escape = s.toList := by
    rw [List.flatMap_congr (g := fun c => [c]) fun c hc => (h c hc).2.2]
    simp
  rw [Json.quote, String.toList_ofList, hescape]

/-- The values of a record that have neither quotes nor commas, each after its key. -/
def plainValues (r : Record) : List (List UInt8 × List UInt8) :=
  [(octets ("\x7b\"sequence\":" ++ toString r.sequence.toNat ++ ",\"cycle_id\":").toList, octets r.draft.cycle.toText.toList),
    (octets "\"recorded_at\":".toList, octets r.draft.recordedAt.toText.toList),
    (octets "\"prev_hash\":".toList, octets r.previous.toHex.toList),
    (octets "\"self_hash\":".toList, octets r.own.toHex.toList)]

/-- What follows them. -/
def lastValues (d : Draft) : List UInt8 :=
  octets ((Json.compactFields [("issues_before", Json.ofCount d.issuesBefore), ("issues_after", Json.ofCount d.issuesAfter),
    ("recipes_applied", .arr (d.recipes.map .str)), ("files_changed", .arr (d.files.map Json.ofPath)),
    ("verdict", .str d.verdict.name)] ++ "\x7d").toList)

theorem lineBytes_eq (r : Record) : lineBytes r = quotedValues 34 44 (lastValues r.draft) (plainValues r) := by
  have hchars : r.encode.toList = ("\x7b\"sequence\":" ++ toString r.sequence.toNat ++ ",\"cycle_id\":").toList ++
      '"' :: (r.draft.cycle.toText.toList ++ '"' :: ',' :: ("\"recorded_at\":".toList ++
      '"' :: (r.draft.recordedAt.toText.toList ++ '"' :: ',' :: ("\"prev_hash\":".toList ++
      '"' :: (r.previous.toHex.toList ++ '"' :: ',' :: ("\"self_hash\":".toList ++
      '"' :: (r.own.toHex.toList ++ '"' :: ',' :: (Json.compactFields [("issues_before", Json.ofCount r.draft.issuesBefore),
        ("issues_after", Json.ofCount r.draft.issuesAfter), ("recipes_applied", .arr (r.draft.recipes.map .str)),
        ("files_changed", .arr (r.draft.files.map Json.ofPath)), ("verdict", .str r.draft.verdict.name)] ++
        "\x7d").toList))))))) := by
    have hkeys : Json.quote "sequence" = "\"sequence\"" ∧ Json.quote "cycle_id" = "\"cycle_id\"" ∧
        Json.quote "recorded_at" = "\"recorded_at\"" ∧ Json.quote "prev_hash" = "\"prev_hash\"" ∧
        Json.quote "self_hash" = "\"self_hash\"" := by decide
    have hnumber (n : Nat) : toString (n : Int) = toString n := rfl
    show (Json.compact r.toJson).toList = _
    rw [Record.toJson, Json.compact]
    iterate 5 rw [Json.compactFields]
    simp only [hkeys, hnumber, Json.compact, Json.ofCycleId, Json.ofTime, Json.ofDigest, String.toList_append,
      quote_tame (tame_toText _), quote_tame (tame_moment _), quote_tame (tame_toHex _), List.append_assoc]
    simp
  have hquote (cs : List Char) : octets ('"' :: cs) = 34 :: octets cs := Text.octets_cons '"' cs
  have hcomma (cs : List Char) : octets (',' :: cs) = 44 :: octets cs := Text.octets_cons ',' cs
  rw [lineBytes, hchars]
  simp only [Text.octets_append, hquote, hcomma, quotedValues, plainValues, lastValues]

theorem not_mem_plainValues (r : Record) : ∀ v ∈ plainValues r, 34 ∉ v.2 ∧ 44 ∉ v.2 := by
  have htame (t : String) (ht : ∀ c ∈ t.toList, Tame c) : 34 ∉ octets t.toList ∧ 44 ∉ octets t.toList :=
    ⟨fun h => (ht '"' (Text.mem_octets (by decide) h)).1 rfl, fun h => (ht ',' (Text.mem_octets (by decide) h)).2.1 rfl⟩
  intro v hv
  simp only [plainValues, List.mem_cons, List.not_mem_nil, or_false] at hv
  rcases hv with rfl | rfl | rfl | rfl <;> dsimp only
  · exact htame r.draft.cycle.toText (tame_toText _)
  · exact htame r.draft.recordedAt.toText (tame_moment _)
  · exact htame r.previous.toHex (tame_toHex _)
  · exact htame r.own.toHex (tame_toHex _)

/-- One byte replaced in a line does not make its own digest another one that fits. -/
theorem own_of_oneApart {r s : Record} (hr : Readable r) (hs : Readable s) (hsequence : r.sequence = s.sequence)
    (hrown : r.own = r.computeHash) (hsown : s.own = s.computeHash) (h : OneApart (lineBytes r) (lineBytes s)) :
    r.own = s.own := by
  have hown (e : (plainValues r)[3]? = (plainValues s)[3]?) : r.own = s.own :=
    Digest.toHex_inj (String.toList_inj.mp (Text.octets_inj (Prod.mk.inj (Option.some.inj e)).2))
  have hkeys : (plainValues r).map Prod.fst = (plainValues s).map Prod.fst := by simp [plainValues, hsequence]
  rw [lineBytes_eq, lineBytes_eq] at h
  rcases h.values (by decide) hkeys (not_mem_plainValues r) (not_mem_plainValues s) with heq | ⟨hlast, i, hi⟩
  · exact hown (by rw [heq])
  by_cases hthree : i = 3
  · -- all else is the same, and so is the digest of it
    have hvalues : plainValues { r with own := s.own } = plainValues s := by
      have h0 := hi 0 (by omega)
      have h1 := hi 1 (by omega)
      have h2 := hi 2 (by omega)
      simp only [plainValues, List.getElem?_cons_zero, List.getElem?_cons_succ] at h0 h1 h2
      simp only [plainValues, Option.some.inj h0, Option.some.inj h1, Option.some.inj h2]
    have hline : lineBytes { r with own := s.own } = lineBytes s := by
      rw [lineBytes_eq, lineBytes_eq, hvalues]
      exact congrArg (quotedValues 34 44 · (plainValues s)) hlast
    have hsame : { r with own := s.own } = s := lineBytes_inj (hr.with_own s.own) hs hline
    rw [hrown, hsown, ← hsame]
    rfl
  · exact hown (hi 3 (Ne.symm hthree))

/-! ## Two accepted logs -/

/-- **The last digest commits to the whole log.** Two logs that are accepted and whose last records have the same own
digest are the same bytes, or different bytes are digested to one digest for records of theirs. Sizes are those of the
byte strings of a machine. -/
theorem head_commits {a b : ByteArray} {rs ss : List Record} (ha : checkChain a = .ok rs) (hb : checkChain b = .ok ss)
    (hasize : a.size < UInt64.size) (hbsize : b.size < UInt64.size)
    (h : rs.getLast?.map Record.own = ss.getLast?.map Record.own) : a = b ∨ Collide rs ss := by
  obtain ⟨rfl, hr⟩ := sound_of_checkChain ha hasize
  obtain ⟨rfl, hs⟩ := sound_of_checkChain hb hbsize
  rcases eq_or_collide hr hs h with rfl | hcollide
  · exact .inl rfl
  · exact .inr hcollide

/-- A log with two records of one draft. -/
def twoLinks : List Record := [sealed [] draft, sealed [sealed [] draft] draft]

theorem checkChain_twoLinks : checkChain (written twoLinks) = .ok twoLinks := by
  have hempty : checkChain (written []) = .ok [] := checkChain_written (by simp) trivial
  have hone : checkChain (written [sealed [] draft]) = .ok [sealed [] draft] :=
    checkChain_sealed hempty (by decide) storable_draft
  have htwo := checkChain_sealed hone (by decide) storable_draft
  rwa [← written_append] at htwo

theorem size_twoLinks : (written twoLinks).size = 730 := by
  have hline (n : Nat) (hn : n < 2) (previous own : Digest) :
      (lineBytes ⟨UInt64.ofNat n, draft, previous, own⟩).length = 364 := by
    simp only [lineBytes_eq, quotedValues, plainValues, List.length_append, List.length_cons, Text.length_octets,
      Digest.utf8ByteSize_toHex]
    revert n
    decide +kernel
  have hsize : (written twoLinks).size = ((twoLinks.map lineBytes).flatMap fun l => l ++ [10]).length := by
    rw [← data_written, Array.length_toList]
    exact ByteArray.size_data.symm
  have hfirst : (lineBytes (sealed [] draft)).length = 364 := hline 0 (by omega) _ _
  have hsecond : (lineBytes (sealed [sealed [] draft] draft)).length = 364 := hline 1 (by omega) _ _
  rw [hsize, twoLinks, List.map_cons, List.map_cons, List.map_nil, List.flatMap_cons, List.flatMap_cons,
    List.flatMap_nil, List.length_append, List.length_append, List.length_append, List.length_append, hfirst, hsecond]
  rfl

theorem head_commits_twice : checkChain (written twoLinks) = .ok twoLinks ∧ (written twoLinks).size < UInt64.size ∧
    (written twoLinks = written twoLinks ∨ Collide twoLinks twoLinks) := by
  have hsize : (written twoLinks).size < UInt64.size := Nat.lt_of_le_of_lt (Nat.le_of_eq size_twoLinks) (by decide)
  exact ⟨checkChain_twoLinks, hsize, head_commits checkChain_twoLinks checkChain_twoLinks hsize hsize rfl⟩

/-! ## One byte -/

/-- Logs that are accepted and differ in one byte hold a collision. -/
theorem collide_of_oneApart {rs ss : List Record} (hr : Sound rs) (hs : Sound ss)
    (h : OneApart (written rs).data.toList (written ss).data.toList) : Collide rs ss := by
  have hne : rs ≠ ss := by
    rintro rfl
    exact h.ne rfl
  refine (eq_or_collide hr hs ?_).resolve_left hne
  have hmark (ts : List Record) : ∀ l ∈ ts.map lineBytes, 10 ∉ l := by
    intro l hl
    obtain ⟨t, -, rfl⟩ := List.mem_map.mp hl
    exact newline_not_mem_lineBytes t
  rw [data_written, data_written] at h
  rcases h.lines (hmark rs) (hmark ss) with ⟨init, l, m, rest, hrlines, hslines, hline⟩ | ⟨l, hl, m, hm, c, rest, hprefix⟩
  · obtain ⟨rinit, rtail, rfl, hrinit, hrtail⟩ := List.map_eq_append_iff.mp hrlines
    obtain ⟨sinit, stail, rfl, hsinit, hstail⟩ := List.map_eq_append_iff.mp hslines
    obtain ⟨r, rrest, rfl, rfl, hrrest⟩ := List.map_eq_cons_iff.mp hrtail
    obtain ⟨s, srest, rfl, rfl, hsrest⟩ := List.map_eq_cons_iff.mp hstail
    have hinit : rinit = sinit := map_lineBytes_inj (fun q hq => hr.readable q (List.mem_append_left _ hq))
      (fun q hq => hs.readable q (List.mem_append_left _ hq)) (hrinit.trans hsinit.symm)
    have hrest : rrest = srest := map_lineBytes_inj
      (fun q hq => hr.readable q (List.mem_append_right _ (List.mem_cons_of_mem _ hq)))
      (fun q hq => hs.readable q (List.mem_append_right _ (List.mem_cons_of_mem _ hq))) (hrrest.trans hsrest.symm)
    subst hinit hrest
    rcases List.eq_nil_or_concat' rrest with rfl | ⟨_, q, rfl⟩
    · -- the last line is the one that differs
      obtain ⟨-, hrsequence, -, hrown⟩ := linked_append.mp hr.linked
      obtain ⟨-, hssequence, -, hsown⟩ := linked_append.mp hs.linked
      have hsequence := UInt64.toNat_inj.mp (hrsequence.trans hssequence.symm)
      have hown := own_of_oneApart (hr.readable r (by simp)) (hs.readable s (by simp)) hsequence hrown hsown hline
      rw [List.getLast?_concat, List.getLast?_concat, Option.map_some, Option.map_some, hown]
    · simp [List.getLast?_append, List.getLast?_cons]
  · obtain ⟨r, -, rfl⟩ := List.mem_map.mp hl
    obtain ⟨s, -, rfl⟩ := List.mem_map.mp hm
    rcases hprefix with hprefix | hprefix
    · exact absurd hprefix (lineBytes_ne_append r s c rest)
    · exact absurd hprefix (lineBytes_ne_append s r c rest)

/-- **Every byte of the log is protected.** If one byte of a log that is accepted is replaced by another one, the log
is not accepted any more, unless different bytes are digested to one digest for records of the two logs. Sizes are
those of the byte strings of a machine. -/
theorem byte_protected {log : ByteArray} {rs : List Record} (h : checkChain log = .ok rs) (hsize : log.size < UInt64.size)
    {i : Nat} (hi : i < log.size) {b : UInt8} (hb : b ≠ log[i]) :
    (∃ e, checkChain (log.set i b) = .error e) ∨ ∃ ss, checkChain (log.set i b) = .ok ss ∧ Collide rs ss := by
  cases hset : checkChain (log.set i b) with
  | error e => exact .inl ⟨e, rfl⟩
  | ok ss =>
    have hone : OneApart log.data.toList (log.set i b).data.toList := by
      have hdata : (log.set i b).data.toList = log.data.toList.set i b := Array.toList_set log.data i b hi
      rw [hdata]
      exact OneApart.of_set hi hb
    have hsize' : (log.set i b).size < UInt64.size := by
      show (log.data.set i b hi).size < UInt64.size
      rw [Array.size_set]
      exact hsize
    obtain ⟨hlog, hr⟩ := sound_of_checkChain h hsize
    obtain ⟨hlog', hs⟩ := sound_of_checkChain hset hsize'
    rw [hlog', hlog] at hone
    exact .inr ⟨ss, rfl, collide_of_oneApart hr hs hone⟩

theorem number_lt_twoLinks : 12 < (written twoLinks).size := Nat.lt_of_lt_of_eq (by decide) size_twoLinks.symm

/-- The number of the first record becomes one. -/
theorem byte_protected_number : checkChain (written twoLinks) = .ok twoLinks ∧
    (written twoLinks).get 12 number_lt_twoLinks = 48 ∧
    ((∃ e, checkChain ((written twoLinks).set 12 49 number_lt_twoLinks) = .error e) ∨
      ∃ ss, checkChain ((written twoLinks).set 12 49 number_lt_twoLinks) = .ok ss ∧ Collide twoLinks ss) := by
  have hsize : (written twoLinks).size < UInt64.size := Nat.lt_of_le_of_lt (Nat.le_of_eq size_twoLinks) (by decide)
  have hbyte : (written twoLinks).get 12 number_lt_twoLinks = 48 := by
    have hlist : (written twoLinks).data.toList[12]? = some 48 := by
      rw [data_written, twoLinks, List.map_cons, List.flatMap_cons, lineBytes_eq]
      rfl
    rw [List.getElem?_eq_getElem (by rw [Array.length_toList]; exact number_lt_twoLinks)] at hlist
    exact Option.some.inj hlist
  have hother : 49 ≠ (written twoLinks).get 12 number_lt_twoLinks := by
    rw [hbyte]
    decide
  exact ⟨checkChain_twoLinks, hbyte, byte_protected checkChain_twoLinks hsize number_lt_twoLinks hother⟩

end Mend.Attestation
