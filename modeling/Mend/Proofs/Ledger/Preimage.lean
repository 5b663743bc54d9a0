import Mend.Proofs.Json.Length
import Mend.Proofs.Ledger.AttestationChain
import Mend.Proofs.Path

/-!
# What the digest of a record covers

The bytes that are digested for a record hold each field in a frame. They tell the fields, and the fields tell the
record but for its own digest (`Record.payloads_inj`), so that records of different fields have one own digest only
if different bytes have (`uniquely_decodable`). A record that is read back from its line is told by the line
(`encode_inj`), and the line bounds what the frames have to hold (`Record.size_payload`).
-/

namespace Mend

theorem Verdict.name_inj {a b : Verdict} (h : a.name = b.name) : a = b := by
  cases a <;> cases b <;> first | rfl | exact absurd h (by decide)

namespace Attestation

/-! ## Records that are read back -/

/-- What is read as moment and paths of a record. -/
theorem of_ofJson? {r : Record} {j a b c d e f g h i k : Json}
    (hslots : Json.slots ["sequence", "cycle_id", "recorded_at", "prev_hash", "self_hash", "issues_before",
      "issues_after", "recipes_applied", "files_changed", "verdict"] true j =
        some [.given a, .given b, .given c, .given d, .given e, .given f, .given g, .given h, .given i, .given k])
    (hr : Record.ofJson? j = some r) :
    Json.time? c = some r.draft.recordedAt ∧ Json.list? Json.path? i = some r.draft.files := by
  simp only [Record.ofJson?, hslots, Option.bind_eq_bind, Option.bind_some, Json.Slot.required,
    Option.bind_eq_some_iff] at hr
  obtain ⟨_, -, _, -, t, ht, _, -, _, -, _, -, _, -, _, -, files, hfiles, _, -, hr⟩ := hr
  obtain rfl := Option.some.inj hr
  exact ⟨ht, hfiles⟩

theorem Readable.draft {r : Record} (h : Readable r) : r.draft.Legible := by
  rw [Readable, parse?_encode] at h
  obtain ⟨hmoment, hfiles⟩ := of_ofJson? (slots_toJson r) h
  refine ⟨hmoment, fun p hp => ?_⟩
  have hread : value? (RelPath.parse p.text) = some p := Json.of_list?_map hfiles p hp
  cases hparse : RelPath.parse p.text with
  | error e => simp [hparse, value?] at hread
  | ok q =>
    rw [hparse] at hread
    rw [Option.some.inj hread]

/-- Which digest a record carries does not matter for reading it. -/
theorem Readable.with_own {r : Record} (h : Readable r) (d : Digest) : Readable { r with own := d } :=
  Draft.Legible.readable (r := { r with own := d }) h.draft

theorem encode_inj {r s : Record} (hr : Readable r) (hs : Readable s) (h : r.encode = s.encode) : r = s := by
  rw [Readable, h] at hr
  exact Option.some.inj (hr.symm.trans hs)

/-! ## What is digested -/

/-- A draft of a moment of a clock and of paths that were read off texts. Eight bytes hold the lengths of its lists. -/
structure Draft.Proper (d : Draft) : Prop where
  moment : d.recordedAt.Proper
  paths : ∀ p ∈ d.files, p.Proper
  recipes : d.recipes.length < UInt64.size
  files : d.files.length < UInt64.size

theorem Draft.Legible.proper {d : Draft} (h : d.Legible) (hrecipes : d.recipes.length < UInt64.size)
    (hfiles : d.files.length < UInt64.size) : d.Proper :=
  ⟨Time.proper_of_parse h.moment, fun p hp => ⟨p.text, h.paths p hp⟩, hrecipes, hfiles⟩

theorem Draft.Proper.files_inj {d e : Draft} (hd : d.Proper) (he : e.Proper)
    (h : d.files.map RelPath.text = e.files.map RelPath.text) : d.files = e.files := by
  refine List.ext_getElem (by simpa using congrArg List.length h) fun i hi hj => ?_
  have htext := congrArg (·[i]?) h
  simp only [List.getElem?_map, List.getElem?_eq_getElem hi, List.getElem?_eq_getElem hj, Option.map_some,
    Option.some.injEq] at htext
  exact (hd.paths _ (List.getElem_mem hi)).eq_of_text (he.paths _ (List.getElem_mem hj)) htext

namespace Record

theorem ofNat_inj {m n : Nat} (hm : m < UInt64.size) (hn : n < UInt64.size) (h : UInt64.ofNat m = UInt64.ofNat n) :
    m = n := by
  have hnat := congrArg UInt64.toNat h
  rwa [UInt64.toNat_ofNat_of_lt' hm, UInt64.toNat_ofNat_of_lt' hn] at hnat

theorem count_inj {m n : Count} (h : UInt64.ofNat m.toNat = UInt64.ofNat n.toNat) : m = n :=
  UInt32.toNat_inj.mp (ofNat_inj (Nat.lt_trans m.toNat_lt (by decide)) (Nat.lt_trans n.toNat_lt (by decide)) h)

theorem eq_of_fields {r s : Record} (hsequence : r.sequence = s.sequence) (hdraft : r.draft = s.draft)
    (hprevious : r.previous = s.previous) (hown : r.own = s.own) : r = s := by
  cases r
  cases s
  simp only at hsequence hdraft hprevious hown
  rw [hsequence, hdraft, hprevious, hown]

/-- The bytes that are digested for a record. -/
def preimage (r : Record) : ByteArray := Digest.framed ((fields r.sequence r.draft r.previous).map Digest.Field.payload)

/-- The parts that are digested for a record. -/
def payloads (r : Record) : List ByteArray := (fields r.sequence r.draft r.previous).map Digest.Field.payload

theorem computeHash_eq (r : Record) : r.computeHash = Digest.sha256 r.preimage := rfl

/-- No part of what is digested is longer than the line. -/
theorem size_payload (r : Record) : r.draft.recipes.length ≤ r.encode.utf8ByteSize ∧
    r.draft.files.length ≤ r.encode.utf8ByteSize ∧
    ∀ f ∈ fields r.sequence r.draft r.previous, f.payload.size ≤ r.encode.utf8ByteSize := by
  obtain ⟨hrecipes, hrecipe⟩ := Json.le_compact_arr (fun s : String => (rfl : Json.str s = .str s)) r.draft.recipes
  obtain ⟨hfiles, hfile⟩ := Json.le_compact_arr (fun p : RelPath => (rfl : Json.ofPath p = .str p.text)) r.draft.files
  have hcycle : _ ≤ (Json.ofCycleId r.draft.cycle).compact.utf8ByteSize := Json.le_compact_str _
  have htime : _ ≤ (Json.ofTime r.draft.recordedAt).compact.utf8ByteSize := Json.le_compact_str _
  have hprevious : _ ≤ (Json.ofDigest r.previous).compact.utf8ByteSize := Json.le_compact_str _
  have hverdict := Json.le_compact_str r.draft.verdict.name
  have hrender := r.draft.recordedAt.utf8ByteSize_render
  rw [r.previous.utf8ByteSize_toHex] at hprevious
  have hsum : _ ≤ r.encode.utf8ByteSize := Json.sum_le_compact_obj [("sequence", .int r.sequence.toNat),
    ("cycle_id", Json.ofCycleId r.draft.cycle), ("recorded_at", Json.ofTime r.draft.recordedAt),
    ("prev_hash", Json.ofDigest r.previous), ("self_hash", Json.ofDigest r.own),
    ("issues_before", Json.ofCount r.draft.issuesBefore), ("issues_after", Json.ofCount r.draft.issuesAfter),
    ("recipes_applied", .arr (r.draft.recipes.map .str)), ("files_changed", .arr (r.draft.files.map Json.ofPath)),
    ("verdict", .str r.draft.verdict.name)]
  simp only [List.map_cons, List.map_nil, List.sum_cons, List.sum_nil] at hsum
  have hnumber (n : UInt64) : (Digest.Field.number n).payload.size = 8 := Digest.length_wordBytes n
  have htext (s : String) : (Digest.Field.text s).payload.size = s.utf8ByteSize := rfl
  have hbytes : (Digest.Field.bytes ⟨r.previous.bytes.toArray⟩).payload.size = 32 := r.previous.bytes.size_toArray
  refine ⟨by omega, by omega, fun f hf => ?_⟩
  simp only [fields, List.mem_append, List.mem_cons, List.mem_map, List.not_mem_nil, or_false] at hf
  rcases hf with ((((rfl | rfl | rfl | rfl | rfl | rfl | rfl) | ⟨s, hs, rfl⟩) | rfl) | ⟨p, hp, rfl⟩) | rfl
  · omega
  · rw [hnumber]; omega
  · rw [htext]; omega
  · rw [htext]; omega
  · rw [hnumber]; omega
  · rw [hnumber]; omega
  · rw [hnumber]; omega
  · rw [htext]
    have hs := hrecipe s hs
    omega
  · rw [hnumber]; omega
  · rw [htext]
    have hp := hfile p hp
    omega
  · rw [htext]; omega

/-- The parts that are digested tell all of the record but its own digest. -/
theorem payloads_inj {r s : Record} (hr : r.draft.Proper) (hs : s.draft.Proper) (h : r.payloads = s.payloads) :
    r.sequence = s.sequence ∧ r.draft = s.draft ∧ r.previous = s.previous := by
  simp only [payloads, fields, List.map_append, List.map_cons, List.map_nil, List.map_map, List.append_assoc,
    List.cons_append, List.nil_append, List.cons.injEq] at h
  obtain ⟨hprevious, hsequence, hcycle, hmoment, hbefore, hafter, hcount, hrest⟩ := h
  -- the count of recipes tells where they end, and so does that of the files
  have hlength := ofNat_inj hr.recipes hs.recipes (Digest.number_inj hcount)
  obtain ⟨hrecipes, hrest⟩ := List.append_inj hrest (by rw [List.length_map, List.length_map, hlength])
  obtain ⟨hcount, hrest⟩ := List.cons.inj hrest
  have hlength := ofNat_inj hr.files hs.files (Digest.number_inj hcount)
  obtain ⟨hfiles, hverdict⟩ := List.append_inj hrest (by rw [List.length_map, List.length_map, hlength])
  have hprevious' : r.previous = s.previous := by
    have hbytes := congrArg (fun b : ByteArray => b.data) hprevious
    exact congrArg Digest.mk (Vector.toArray_inj.mp (by simpa [Digest.Field.payload] using hbytes))
  have hdraft : r.draft = s.draft := by
    have hcycle' := CycleId.toText_inj (Digest.text_inj hcycle)
    have hmoment' := hr.moment.eq_of_render hs.moment (Digest.text_inj hmoment)
    have hbefore' := count_inj (Digest.number_inj hbefore)
    have hafter' := count_inj (Digest.number_inj hafter)
    have hrecipes' : r.draft.recipes = s.draft.recipes :=
      List.map_injective_iff.mpr (fun _ _ => Digest.text_inj) hrecipes
    have hfiles' := hr.files_inj hs (List.map_injective_iff.mpr (fun _ _ => Digest.text_inj)
      (by rw [List.map_map, List.map_map]; exact hfiles))
    have hverdict' : r.draft.verdict = s.draft.verdict := Verdict.name_inj (Digest.text_inj (List.cons.inj hverdict).1)
    cases hd : r.draft
    cases he : s.draft
    simp only [hd, he] at hcycle' hmoment' hbefore' hafter' hrecipes' hfiles' hverdict'
    rw [hcycle', hmoment', hbefore', hafter', hrecipes', hfiles', hverdict']
  exact ⟨Digest.number_inj hsequence, hdraft, hprevious'⟩

/-- What is digested for a record that can be read tells all of it but its own digest. -/
theorem preimage_inj {r s : Record} (hr : Readable r) (hs : Readable s) (hrsize : r.encode.utf8ByteSize < UInt64.size)
    (hssize : s.encode.utf8ByteSize < UInt64.size) (h : r.preimage = s.preimage) :
    r.sequence = s.sequence ∧ r.draft = s.draft ∧ r.previous = s.previous := by
  have hbound {t : Record} (ht : Readable t) (hsize : t.encode.utf8ByteSize < UInt64.size) :
      t.draft.Proper ∧ ∀ p ∈ t.payloads, p.size < UInt64.size := by
    obtain ⟨hrecipes, hfiles, hpayload⟩ := t.size_payload
    refine ⟨ht.draft.proper (Nat.lt_of_le_of_lt hrecipes hsize) (Nat.lt_of_le_of_lt hfiles hsize), fun p hp => ?_⟩
    obtain ⟨f, hf, rfl⟩ := List.mem_map.mp hp
    exact Nat.lt_of_le_of_lt (hpayload f hf) hsize
  obtain ⟨hrproper, hrpayload⟩ := hbound hr hrsize
  obtain ⟨hsproper, hspayload⟩ := hbound hs hssize
  exact payloads_inj hrproper hsproper (Digest.framed_inj hrpayload hspayload h)

/-! ## Records with one digest -/

/-- A record that carries the digest of its other fields, with parts whose sizes eight bytes can hold. -/
structure Sealed (r : Record) : Prop where
  own : r.own = r.computeHash
  draft : r.draft.Proper
  sizes : ∀ f ∈ fields r.sequence r.draft r.previous, f.payload.size < UInt64.size

/-- Sealed records have one own digest if they are the same, and else only by a collision. -/
theorem Sealed.own_eq_iff {r s : Record} (hr : r.Sealed) (hs : s.Sealed) :
    r.own = s.own ↔ r = s ∨ Digest.Collision r.preimage s.preimage := by
  have hdigest : r.own = s.own ↔ r.payloads = s.payloads ∨ Digest.Collision r.preimage s.preimage := by
    rw [hr.own, hs.own]
    exact Digest.ofFields_eq_iff hr.sizes hs.sizes
  constructor
  · intro hown
    refine (hdigest.mp hown).imp_left fun hpayloads => ?_
    obtain ⟨hsequence, hdraft, hprevious⟩ := payloads_inj hr.draft hs.draft hpayloads
    exact eq_of_fields hsequence hdraft hprevious hown
  · rintro (rfl | hcollision)
    · rfl
    · exact hdigest.mpr (.inr hcollision)

end Record

/-- **Fields are told from the bytes that are digested for them.** Lists of parts have one stream of bytes only if they
are the same, however many they are and whatever they hold. So field lists of different parts, those of any records
among them, have one digest only by a collision, and so have sealed records that differ in any field. The sizes are
those that eight bytes can hold. -/
theorem uniquely_decodable :
    (∀ ps qs : List ByteArray, (∀ p ∈ ps, p.size < UInt64.size) → (∀ q ∈ qs, q.size < UInt64.size) →
      (Digest.framed ps = Digest.framed qs ↔ ps = qs)) ∧
    (∀ fs gs : List Digest.Field, (∀ f ∈ fs, f.payload.size < UInt64.size) →
      (∀ g ∈ gs, g.payload.size < UInt64.size) →
      (Digest.ofFields fs = Digest.ofFields gs ↔ fs.map Digest.Field.payload = gs.map Digest.Field.payload ∨
        Digest.Collision (Digest.framed (fs.map Digest.Field.payload))
          (Digest.framed (gs.map Digest.Field.payload)))) ∧
    ∀ r s : Record, r.Sealed → s.Sealed → (r.own = s.own ↔ r = s ∨ Digest.Collision r.preimage s.preimage) := by
  refine ⟨fun ps qs hps hqs => ?_, fun fs gs hfs hgs => Digest.ofFields_eq_iff hfs hgs,
    fun r s hr hs => hr.own_eq_iff hs⟩
  constructor
  · exact Digest.framed_inj hps hqs
  · rintro rfl
    rfl

/-- The first link of a chain, for a draft with these recipes. -/
def firstLink (recipes : List String) : Record := Record.ofDraft { draft with recipes } 0 Digest.zero

theorem sealed_firstLink : ∀ recipes ∈ [["ab", "c"], ["a", "bc"]], (firstLink recipes).Sealed := by
  intro recipes h
  have hsizes : ∀ recipes ∈ [["ab", "c"], ["a", "bc"]],
      ∀ f ∈ Record.fields 0 { draft with recipes } Digest.zero, f.payload.size < UInt64.size := by decide +kernel
  have hcount : ∀ recipes ∈ [["ab", "c"], ["a", "bc"]], recipes.length < UInt64.size := by decide
  refine ⟨rfl, ⟨.inl (show 1 < 1000000000 by decide), ?_, hcount recipes h, show 1 < UInt64.size by decide⟩,
    hsizes recipes h⟩
  intro p hp
  obtain rfl : p = ⟨["a"]⟩ := List.mem_singleton.mp hp
  exact ⟨"a", by decide⟩

/-- A field that holds the length of the next one is not taken for two fields, and neither are letters that move from
one field to the next. -/
theorem uniquely_decodable_imitated :
    Digest.framed ["ab".toUTF8, "c".toUTF8] ≠ Digest.framed ["ab".toUTF8 ++ Digest.frame "c".toUTF8] ∧
    (Digest.ofFields [.text "ab", .text "c"] = Digest.ofFields [.text "a", .text "bc"] →
      Digest.Collision (Digest.framed ["ab".toUTF8, "c".toUTF8]) (Digest.framed ["a".toUTF8, "bc".toUTF8])) ∧
    (firstLink ["ab", "c"]).Sealed ∧ (firstLink ["a", "bc"]).Sealed ∧
    ((firstLink ["ab", "c"]).own = (firstLink ["a", "bc"]).own →
      Digest.Collision (firstLink ["ab", "c"]).preimage (firstLink ["a", "bc"]).preimage) := by
  obtain ⟨hstreams, hfields, hrecords⟩ := uniquely_decodable
  have hr := sealed_firstLink ["ab", "c"] (by simp)
  have hs := sealed_firstLink ["a", "bc"] (by simp)
  refine ⟨fun h => ?_, fun h => ?_, hr, hs, fun h => ?_⟩
  · have hparts := (hstreams _ _ (by decide) (by decide)).mp h
    exact absurd (congrArg List.length hparts) (by decide)
  · refine ((hfields _ _ (by decide) (by decide)).mp h).resolve_left fun hparts => ?_
    exact absurd (Digest.text_inj (List.cons.inj hparts).1) (by decide)
  · refine ((hrecords _ _ hr hs).mp h).resolve_left fun hsame => ?_
    exact absurd (congrArg (·.draft.recipes) hsame) (by decide)

end Attestation
end Mend
