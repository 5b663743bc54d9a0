import Mathlib.Data.List.Induction
import Mend.Ledger.Attestation
import Mend.Proofs.Json.Record
import Mend.Proofs.Ledger.AtomicWrite

/-!
# The attestation log

A record is read back from its line (`Draft.Legible.readable`). The check accepts the lines of linked records, one
after the other (`checkChain_written`), and nothing else (`checkChain_ok`). Recording keeps the log and adds the
line of one linked record (`exec_record`), so that every log that came about by recording is accepted
(`exec_recordAll`).
-/

namespace Mend.Attestation

open Fs Fs.Disk Ledger

/-! ## Lines -/

/-- A draft whose moment and paths are read back from their texts. -/
structure Draft.Storable (d : Draft) : Prop where
  moment : d.recordedAt.Storable
  paths : ∀ p ∈ d.files, RelPath.parse p.text = .ok p

/-- A draft whose moment and paths are those that their texts name. -/
structure Draft.Legible (d : Draft) : Prop where
  moment : Time.parse d.recordedAt.toText = some d.recordedAt
  paths : ∀ p ∈ d.files, RelPath.parse p.text = .ok p

theorem Draft.Storable.legible {d : Draft} (h : d.Storable) : d.Legible := ⟨Time.parse_toText h.moment, h.paths⟩

theorem plain_toJson (r : Record) : Json.Plain r.toJson := by
  refine .obj fun f hf => ?_
  simp only [List.mem_cons, List.not_mem_nil, or_false] at hf
  rcases hf with rfl | rfl | rfl | rfl | rfl | rfl | rfl | rfl | rfl | rfl
  · exact .count r.sequence.toNat_lt
  · exact .str _
  · exact .str _
  · exact .str _
  · exact .str _
  · exact Json.plain_count _
  · exact Json.plain_count _
  · exact Json.plain_list fun s _ => .str s
  · exact Json.plain_list fun p _ => .str p.text
  · exact .str _

/-- A record is read from slots that its fields are read from. -/
theorem ofJson?_of_slots {r : Record} {j a b c d e f g h i k : Json} {sequence : Nat}
    (hslots : Json.slots ["sequence", "cycle_id", "recorded_at", "prev_hash", "self_hash", "issues_before",
      "issues_after", "recipes_applied", "files_changed", "verdict"] true j =
        some [.given a, .given b, .given c, .given d, .given e, .given f, .given g, .given h, .given i, .given k])
    (ha : Json.nat? 64 a = some sequence) (hb : Json.cycleId? b = some r.draft.cycle)
    (hc : Json.time? c = some r.draft.recordedAt) (hd : Json.digest? d = some r.previous)
    (he : Json.digest? e = some r.own) (hf : Json.count? f = some r.draft.issuesBefore)
    (hg : Json.count? g = some r.draft.issuesAfter) (hh : Json.list? Json.text? h = some r.draft.recipes)
    (hi : Json.list? Json.path? i = some r.draft.files) (hk : Verdict.ofJson? k = some r.draft.verdict)
    (hsequence : UInt64.ofNat sequence = r.sequence) : Record.ofJson? j = some r := by
  simp only [Record.ofJson?, hslots, Json.Slot.required, ha, hb, hc, hd, he, hf, hg, hh, hi, hk, hsequence,
    Option.bind_eq_bind, Option.bind_some]

theorem slots_toJson (r : Record) : Json.slots ["sequence", "cycle_id", "recorded_at", "prev_hash", "self_hash",
      "issues_before", "issues_after", "recipes_applied", "files_changed", "verdict"] true r.toJson =
    some [.given (.int r.sequence.toNat), .given (Json.ofCycleId r.draft.cycle),
      .given (Json.ofTime r.draft.recordedAt), .given (Json.ofDigest r.previous), .given (Json.ofDigest r.own),
      .given (Json.ofCount r.draft.issuesBefore), .given (Json.ofCount r.draft.issuesAfter),
      .given (.arr (r.draft.recipes.map .str)), .given (.arr (r.draft.files.map Json.ofPath)),
      .given (.str r.draft.verdict.name)] := by
  rw [Record.toJson]
  refine (Json.slots_obj ?_ ?_ true).trans ?_
  · rfl
  · simp
  · rfl

theorem ofJson?_toJson {r : Record} (h : r.draft.Legible) : Record.ofJson? r.toJson = some r := by
  have hverdict : Verdict.ofJson? (.str r.draft.verdict.name) = some r.draft.verdict := by
    cases r.draft.verdict <;> decide
  have htime : Json.time? (Json.ofTime r.draft.recordedAt) = some r.draft.recordedAt := h.moment
  exact ofJson?_of_slots (slots_toJson r) (Json.nat?_ofNat r.sequence.toNat_lt) (Json.cycleId?_ofCycleId _) htime
    (Json.digest?_ofDigest _) (Json.digest?_ofDigest _) (Json.count?_ofCount _) (Json.count?_ofCount _)
    (Json.list?_texts _) (Json.list?_map fun p hp => Json.path?_ofPath (h.paths p hp)) hverdict UInt64.ofNat_toNat

theorem parse?_encode (r : Record) : Record.parse? r.encode = Record.ofJson? r.toJson := by
  show (Json.parse r.toJson.compact).bind Record.ofJson? = Record.ofJson? r.toJson
  rw [Json.parse_compact (plain_toJson r), Option.bind_some]

theorem newline_not_mem_encode (r : Record) : '\n' ∉ r.encode.toList :=
  Json.newline_not_mem_compact (plain_toJson r)

/-! ## Chains -/

/-- The bytes of a log that holds records: their lines, each with a line feed. -/
def written (rs : List Record) : ByteArray := Text.encode (String.join (rs.map fun r => r.encode ++ "\n"))

/-- The records are the links from number `index` on, after the link with digest `previous`. -/
def Linked (index : Nat) (previous : Digest) : List Record → Prop
  | [] => True
  | r :: rs => r.sequence.toNat = index ∧ r.previous = previous ∧ r.own = r.computeHash ∧ Linked (index + 1) r.own rs

theorem linked_append {index : Nat} {previous : Digest} {rs : List Record} {r : Record} :
    Linked index previous (rs ++ [r]) ↔ Linked index previous rs ∧ r.sequence.toNat = index + rs.length ∧
      r.previous = (rs.getLast?.map Record.own).getD previous ∧ r.own = r.computeHash := by
  induction rs generalizing index previous with
  | nil => simp [Linked]
  | cons q rs ih =>
    have hlast : ((q :: rs).getLast?.map Record.own).getD previous = (rs.getLast?.map Record.own).getD q.own := by
      rw [List.getLast?_cons]
      cases rs.getLast? <;> rfl
    rw [List.cons_append, Linked, ih, hlast, Linked, List.length_cons, Nat.add_right_comm index 1, Nat.add_assoc index]
    tauto

/-- The record is read back from its line. -/
def Readable (r : Record) : Prop := Record.parse? r.encode = some r

theorem Draft.Legible.readable {r : Record} (h : r.draft.Legible) : Readable r := by
  rw [Readable, parse?_encode, ofJson?_toJson h]

theorem Draft.Storable.readable {r : Record} (h : r.draft.Storable) : Readable r := h.legible.readable

theorem checkLine_ok {index : Nat} {previous : Digest} {line : String} {r : Record}
    (h : checkLine index previous line = .ok r) :
    line = r.encode ∧ Readable r ∧ r.sequence.toNat = index ∧ r.previous = previous ∧ r.own = r.computeHash := by
  rw [checkLine] at h
  split at h
  · cases h
  next hparse =>
  split at h
  · cases h
  next hline =>
  split at h
  · cases h
  next hsequence =>
  split at h
  · cases h
  next hprevious =>
  split at h
  · cases h
  next hown =>
  obtain rfl := Except.ok.inj h
  have hencode := not_not.mp hline
  exact ⟨hencode.symm, by rw [Readable, hencode, hparse], not_not.mp hsequence, not_not.mp hprevious, not_not.mp hown⟩

theorem checkLine_encode {index : Nat} {previous : Digest} {r : Record} (h : Readable r)
    (hsequence : r.sequence.toNat = index) (hprevious : r.previous = previous) (hown : r.own = r.computeHash) :
    checkLine index previous r.encode = .ok r := by
  rw [checkLine, h]
  simp only [hsequence, hprevious, ne_eq, not_true_eq_false, if_false]
  rw [if_neg (not_not.mpr hown)]

theorem checkLines_ok {index : Nat} {previous : Digest} {lines : List String} {rs : List Record}
    (h : checkLines index previous lines = .ok rs) :
    lines = rs.map Record.encode ∧ (∀ r ∈ rs, Readable r) ∧ Linked index previous rs := by
  induction lines generalizing index previous rs with
  | nil =>
    obtain rfl := Except.ok.inj h
    exact ⟨rfl, by simp, trivial⟩
  | cons line lines ih =>
    rw [checkLines] at h
    split at h
    · cases h
    next r hline =>
    split at h
    · cases h
    next rest hrest =>
    obtain rfl := Except.ok.inj h
    obtain ⟨hencode, hreadable, hlink⟩ := checkLine_ok hline
    obtain ⟨hlines, hall, hlinked⟩ := ih hrest
    refine ⟨by rw [List.map_cons, hencode, hlines], ?_, hlink.1, hlink.2.1, hlink.2.2, hlinked⟩
    intro q hq
    rcases List.mem_cons.mp hq with rfl | hq
    · exact hreadable
    · exact hall q hq

theorem checkLines_encode {index : Nat} {previous : Digest} {rs : List Record} (h : ∀ r ∈ rs, Readable r)
    (hlinked : Linked index previous rs) : checkLines index previous (rs.map Record.encode) = .ok rs := by
  induction rs generalizing index previous with
  | nil => rfl
  | cons r rs ih =>
    obtain ⟨hsequence, hprevious, hown, hrest⟩ := hlinked
    rw [List.map_cons, checkLines, checkLine_encode (h r (by simp)) hsequence hprevious hown]
    dsimp only
    rw [ih (fun q hq => h q (by simp [hq])) hrest]

theorem toList_lines (rs : List Record) :
    (String.join (rs.map fun r => r.encode ++ "\n")).toList =
      (rs.map fun r => r.encode.toList).flatMap fun l => l ++ ['\n'] := by
  rw [String.join, Text.toList_foldl_append, List.flatMap_def, List.map_map, List.map_map]
  simp [Function.comp_def]

theorem written_append (rs qs : List Record) : written (rs ++ qs) = written rs ++ written qs := by
  rw [written, written, written, ← Text.encode_append, List.map_append]
  congr 1
  apply String.ext
  simp [String.join, Text.toList_foldl_append]

/-- The check takes the lines of a log apart as they were put together. -/
theorem lines_written (rs : List Record) :
    Text.lines (String.join (rs.map fun r => r.encode ++ "\n")) = rs.map fun r => r.encode ++ "\n" := by
  have hnewline : ∀ l ∈ rs.map fun r => r.encode.toList, '\n' ∉ l := by
    intro l hl
    obtain ⟨r, -, rfl⟩ := List.mem_map.mp hl
    exact newline_not_mem_encode r
  rw [Text.lines, toList_lines, Text.cut_flatMap hnewline, List.map_map, List.map_map]
  refine List.map_congr_left fun r _ => ?_
  simp

/-- The check of records that were written goes through their lines. -/
theorem checkChain_written_eq (rs : List Record) :
    checkChain (written rs) = checkLines 0 Digest.zero (rs.map Record.encode) := by
  rw [checkChain, written, Text.decode?_encode]
  dsimp only
  rw [lines_written]
  cases hlast : (rs.map fun r => r.encode ++ "\n").getLast? with
  | none =>
    obtain rfl : rs = [] := by simpa using hlast
    rfl
  | some last =>
    have hbodies : (rs.map fun r => r.encode ++ "\n").map (fun l => String.ofList l.toList.dropLast) =
        rs.map Record.encode := by
      rw [List.map_map]
      refine List.map_congr_left fun r _ => ?_
      simp
    obtain ⟨r, -, rfl⟩ := List.mem_map.mp (List.mem_of_getLast? hlast)
    dsimp only
    rw [if_pos (by simp), hbodies]

theorem checkChain_written {rs : List Record} (h : ∀ r ∈ rs, Readable r)
    (hlinked : Linked 0 Digest.zero rs) : checkChain (written rs) = .ok rs := by
  rw [checkChain_written_eq, checkLines_encode h hlinked]

theorem checkChain_ok {log : ByteArray} {rs : List Record} (h : checkChain log = .ok rs) :
    log = written rs ∧ (∀ r ∈ rs, Readable r) ∧ Linked 0 Digest.zero rs := by
  rw [checkChain] at h
  split at h
  · cases h
  next text htext =>
  rw [Text.encode_of_decode? htext]
  dsimp only at h
  split at h
  next hlast =>
    obtain rfl := Except.ok.inj h
    have hnil : Text.lines text = [] := by simpa using hlast
    rw [← Text.join_lines text, hnil]
    exact ⟨rfl, by simp, trivial⟩
  next last hlast =>
    split at h
    next hnewline =>
      obtain ⟨hlines, hreadable, hlinked⟩ := checkLines_ok h
      refine ⟨?_, hreadable, hlinked⟩
      have hended : ∀ l ∈ Text.lines text, String.ofList l.toList.dropLast ++ "\n" = l := by
        rw [Text.lines, List.getLast?_map] at hlast
        obtain ⟨k, hk, rfl⟩ := Option.map_eq_some_iff.mp hlast
        intro l hl
        obtain ⟨m, hm, rfl⟩ := List.mem_map.mp hl
        have hm' := Text.getLast?_of_mem_cut hk (by simpa using hnewline) m hm
        apply String.ext
        simpa using List.dropLast_append_getLast? _ hm'
      have hwhole : Text.lines text = rs.map fun r => r.encode ++ "\n" := by
        calc Text.lines text
            = (Text.lines text).map fun l => String.ofList l.toList.dropLast ++ "\n" := by
              rw [List.map_congr_left hended, List.map_id']
          _ = ((Text.lines text).map fun l => String.ofList l.toList.dropLast).map (· ++ "\n") := by
              rw [List.map_map]
              rfl
          _ = rs.map fun r => r.encode ++ "\n" := by
              rw [hlines, List.map_map]
              rfl
      rw [written, ← hwhole, Text.join_lines]
    next => cases h

/-! ## Recording -/

/-- The record that a draft becomes after other records. -/
def sealed (rs : List Record) (d : Draft) : Record :=
  Record.ofDraft d (UInt64.ofNat rs.length) ((rs.getLast?.map Record.own).getD Digest.zero)

theorem nextRecord_eq {log : ByteArray} {rs : List Record} (h : checkChain log = .ok rs) (d : Draft) :
    nextRecord log d = sealed rs d := by
  obtain ⟨-, -, hlinked⟩ := checkChain_ok h
  rw [nextRecord, nextLink, h, sealed]
  rcases List.eq_nil_or_concat' rs with rfl | ⟨init, r, rfl⟩
  · rfl
  · have hsequence := (linked_append.mp hlinked).2.1
    have hnext : r.sequence + 1 = UInt64.ofNat (init ++ [r]).length := by
      rw [List.length_append, List.length_singleton, UInt64.ofNat_add, ← Nat.zero_add init.length, ← hsequence,
        UInt64.ofNat_toNat]
      rfl
    simp only [List.getLast?_concat, hnext, Option.map_some, Option.getD_some]

theorem checkChain_sealed {log : ByteArray} {rs : List Record} (h : checkChain log = .ok rs)
    (hcount : rs.length < UInt64.size) {d : Draft} (hd : d.Storable) :
    checkChain (log ++ written [sealed rs d]) = .ok (rs ++ [sealed rs d]) := by
  obtain ⟨rfl, hreadable, hlinked⟩ := checkChain_ok h
  rw [← written_append]
  refine checkChain_written ?_ (linked_append.mpr ⟨hlinked, ?_, rfl, rfl⟩)
  · intro r hr
    rcases List.mem_append.mp hr with hr | hr
    · exact hreadable r hr
    · rw [List.mem_singleton.mp hr]
      exact Draft.Storable.readable hd
  · rw [Nat.zero_add]
    exact UInt64.toNat_ofNat_of_lt' hcount

/-! ## Where a log is kept -/

/-- A log can be kept at a place: it lies below a directory that is there, the directories in between can be
made, and no directory stands at it. -/
def Keepable (d : Disk) (p : Place) : Prop :=
  ∃ base names at_ d₁ l, p.location = base ++ names ∧ d.locate base = .ok at_ ∧ d.node? at_ = some .dir ∧
    (∀ s ∈ names, s ≠ "" ∧ s ≠ "." ∧ s ≠ "..") ∧ (makeParent p).exec d = (.ok (), d₁) ∧ Slot d₁ p.location l

theorem keepable_of_slot {d : Disk} {p : Place} {l : Location} (h : Slot d p.location l) : Keepable d p := by
  obtain ⟨base, init, name, hp, -, hname, -, hinit, hbase⟩ := h.cut
  have hacceptable := (locate_eq_ok_iff.mp h.locate).1
  rw [hp] at hacceptable
  refine ⟨init, [name], base, d, l, hp, ?_, hbase, by simpa using hname, exec_makeParent h, h⟩
  exact locate_eq_ok_iff.mpr ⟨Acceptable.of_prefix hacceptable (List.prefix_append _ _), hinit⟩

theorem grown_makeParent {d d' : Disk} {p : Place} {r : Except Ledger.Error Unit}
    (h : (makeParent p).exec d = (r, d')) : Grown d d' := by
  rw [disk_makeParent h]
  exact grown_mkdirs d _

theorem readOrEmpty_slot {d : Disk} {p : Place} {l : Location} (h : Slot d p.location l) :
    readOrEmpty p d = .ok ((d.fileAt l).getD ByteArray.empty) := by
  rw [readOrEmpty, h.read]
  cases d.fileAt l <;> rfl

/-- What is read does not change when the directories around a log are made. -/
theorem readOrEmpty_of_grown {d d' : Disk} (hgrown : Grown d d') {p : Place} {base names at_ l : Location}
    (hp : p.location = base ++ names) (hbase : d.locate base = .ok at_) (hdir : d.node? at_ = some .dir)
    (hnames : ∀ s ∈ names, s ≠ "" ∧ s ≠ "." ∧ s ≠ "..") (h : Slot d' p.location l) :
    readOrEmpty p d = .ok ((d'.fileAt l).getD ByteArray.empty) := by
  obtain ⟨hacceptable, hfollow⟩ := locate_eq_ok_iff.mp h.locate
  have hinit := (locate_eq_ok_iff.mp hbase).2
  have hinit' := follow_mono (fun _ => hgrown.dir) hinit
  rw [hp, follow_append_of_dir hinit' (hgrown.dir hdir)] at hfollow
  rw [hgrown.fileAt]
  rcases follow_of_grown hgrown hdir hnames hfollow with hf | ⟨hf, hnone⟩
  · refine readOrEmpty_slot ⟨locate_eq_ok_iff.mpr ⟨hacceptable, ?_⟩, fun hl => h.not_dir (hgrown.dir hl)⟩
    rw [hp, follow_append_of_dir hinit hdir, hf]
  · have hread : d.read p.location = .error .notFound := by
      rw [Disk.read, Disk.find, reach_eq d hacceptable, hp, follow_append_of_dir hinit hdir, hf]
      rfl
    rw [readOrEmpty, hread, fileAt_of_none hnone]
    rfl

/-- A line is added to the file in a slot, and nothing else changes. -/
theorem exec_appendLine_slot {d : Disk} {p : Place} {l : Location} (h : Slot d p.location l) (line : String) :
    ∃ d' mode, (Ledger.appendLine p line).exec d = (.ok (), d') ∧
      d'.node? = Function.update d.node? l
        (some (.file (withLine ((d.fileAt l).getD ByteArray.empty) line) mode)) := by
  obtain ⟨d₂, mode, htouch, hd₂⟩ := h.touch
  have hslot₂ := h.of_update hd₂
  have hread : d₂.read p.location = .ok ((d.fileAt l).getD ByteArray.empty) := by
    rw [hslot₂.read, fileAt_of_file (by rw [hd₂, Function.update_self])]
  obtain ⟨d₃, mode', hwrite, hd₃⟩ := hslot₂.write (withLine ((d.fileAt l).getD ByteArray.empty) line)
  have hchange : (do
      let d ← d.touch p.location
      let log ← d.read p.location
      d.write p.location (withLine log line)) = .ok d₃ := by
    rw [htouch]
    show ((d₂.read p.location).bind fun log => d₂.write p.location (withLine log line)) = _
    rw [hread]
    exact hwrite
  refine ⟨d₃, mode', ?_, by rw [hd₃, hd₂, Function.update_idem]⟩
  rw [Ledger.appendLine, Action.exec_bind_ok (exec_makeParent h), Action.exec_update, hchange]
  rfl

/-- The line is added to the log that is read. -/
theorem exec_appendLine {d : Disk} {p : Place} (h : Keepable d p) {log : ByteArray}
    (hlog : readOrEmpty p d = .ok log) (line : String) :
    ∃ d' l, (Ledger.appendLine p line).exec d = (.ok (), d') ∧ Slot d' p.location l ∧
      readOrEmpty p d' = .ok (withLine log line) := by
  obtain ⟨base, names, m, d₁, l, hp, hbase, hdir, hnames, hmake, hslot⟩ := h
  rw [readOrEmpty_of_grown (grown_makeParent hmake) hp hbase hdir hnames hslot] at hlog
  obtain ⟨d', mode, happend, hd'⟩ := exec_appendLine_slot hslot line
  rw [Except.ok.inj hlog] at hd'
  have hslot' := hslot.of_update hd'
  refine ⟨d', l, ?_, hslot', ?_⟩
  · -- the directories are there at the second try
    rw [Ledger.appendLine, Action.exec_bind_ok (exec_makeParent hslot)] at happend
    rw [Ledger.appendLine, Action.exec_bind_ok hmake, happend]
  · rw [readOrEmpty_slot hslot', fileAt_of_file (by rw [hd', Function.update_self])]
    rfl

theorem Session.records_of_raw {s : Session} {log : ByteArray} (h : s.raw = .ok log) :
    s.records = checkChain log := by
  rw [Session.records, h]

/-- The log of a session can be kept where it is. -/
def Session.Keepable (s : Session) : Prop :=
  match s.store with
  | .memory _ => True
  | .file p => Attestation.Keepable s.disk p

theorem terminated_append (log : ByteArray) : terminated (log ++ Text.encode "\n") = log ++ Text.encode "\n" := by
  have hdata : (log ++ Text.encode "\n").data = log.data.push 10 := by
    rw [ByteArray.data_append, show (Text.encode "\n").data = #[10] from rfl, Array.append_singleton]
  have hlast : (log ++ Text.encode "\n").get! ((log ++ Text.encode "\n").size - 1) = 10 := by
    show (log ++ Text.encode "\n").data[(log ++ Text.encode "\n").data.size - 1]! = 10
    rw [hdata, Array.size_push, Nat.add_sub_cancel, getElem!_pos _ _ (by simp), Array.getElem_push_eq]
  rw [terminated, hlast]
  simp

theorem written_singleton (r : Record) : written [r] = Text.encode r.encode ++ Text.encode "\n" := by
  rw [← Text.encode_append, written]
  simp [String.join]

theorem terminated_written (rs : List Record) : terminated (written rs) = written rs := by
  rcases List.eq_nil_or_concat' rs with rfl | ⟨init, r, rfl⟩
  · rfl
  · rw [written_append, written_singleton, ← ByteArray.append_assoc, terminated_append]

theorem withLine_of_checkChain {log : ByteArray} {rs : List Record} (h : checkChain log = .ok rs) (r : Record) :
    withLine log r.encode = log ++ written [r] := by
  obtain ⟨rfl, -⟩ := checkChain_ok h
  rw [withLine, terminated_written, written_singleton, ← Text.encode_append]

/-- Whatever the log holds, a draft becomes a record that follows it on a line of its own. -/
theorem exec_record_line {s : Session} {log : ByteArray} (hs : s.Keepable) (hraw : s.raw = .ok log) (d : Draft) :
    ∃ s', (record d).exec s = (.ok (nextRecord log d), s') ∧ s'.Keepable ∧
      s'.raw = .ok (withLine log (nextRecord log d).encode) := by
  have hquery : (Action.query Session.raw).exec s = (.ok log, s) := by rw [Action.exec_query, hraw]
  suffices happend : ∃ s', (appendLine (nextRecord log d).encode).exec s = (.ok (), s') ∧ s'.Keepable ∧
      s'.raw = .ok (withLine log (nextRecord log d).encode) by
    obtain ⟨s', happend, hs', hraw'⟩ := happend
    refine ⟨s', ?_, hs', hraw'⟩
    rw [record, Action.exec_bind_ok hquery]
    dsimp only
    rw [Action.exec_bind_ok happend]
    rfl
  rw [appendLine, Action.exec_bind_ok (Action.exec_get s)]
  obtain ⟨disk, store⟩ := s
  cases store with
  | memory log' =>
    obtain rfl : log' = log := Except.ok.inj hraw
    exact ⟨_, rfl, trivial, rfl⟩
  | file p =>
    obtain ⟨d', l, happend, hslot, hread⟩ := exec_appendLine hs hraw (nextRecord log d).encode
    refine ⟨⟨d', .file p⟩, ?_, keepable_of_slot hslot, hread⟩
    dsimp only
    rw [Action.exec_zoom, happend]

/-- A draft becomes the next record of the log, and the log stays whole. -/
theorem exec_record {s : Session} {log : ByteArray} {rs : List Record} {d : Draft} (hs : s.Keepable)
    (hraw : s.raw = .ok log) (hlog : checkChain log = .ok rs) (hcount : rs.length < UInt64.size)
    (hd : d.Storable) :
    ∃ s', (record d).exec s = (.ok (sealed rs d), s') ∧ s'.Keepable ∧
      s'.raw = .ok (log ++ written [sealed rs d]) ∧
      checkChain (log ++ written [sealed rs d]) = .ok (rs ++ [sealed rs d]) := by
  obtain ⟨s', hrecord, hs', hraw'⟩ := exec_record_line hs hraw d
  rw [nextRecord_eq hlog] at hrecord hraw'
  rw [withLine_of_checkChain hlog] at hraw'
  exact ⟨s', hrecord, hs', hraw', checkChain_sealed hlog hcount hd⟩

/-- Drafts become the next records of the log, in their order. -/
theorem exec_recordAll {ds : List Draft} {s : Session} {log : ByteArray} {rs : List Record} (hs : s.Keepable)
    (hraw : s.raw = .ok log) (hlog : checkChain log = .ok rs) (hcount : rs.length + ds.length ≤ UInt64.size)
    (hds : ∀ d ∈ ds, d.Storable) :
    ∃ qs s', (ds.mapM record).exec s = (.ok qs, s') ∧ qs.map Record.draft = ds ∧ s'.Keepable ∧
      s'.raw = .ok (log ++ written qs) ∧ checkChain (log ++ written qs) = .ok (rs ++ qs) := by
  induction ds generalizing s log rs with
  | nil =>
    have hempty : log ++ written [] = log := ByteArray.append_empty
    refine ⟨[], s, by rw [List.mapM_nil, Action.exec_pure], rfl, hs, by rw [hempty, hraw], ?_⟩
    rw [hempty, List.append_nil, hlog]
  | cons d ds ih =>
    rw [List.length_cons] at hcount
    obtain ⟨s₁, hrecord, hs₁, hraw₁, hlog₁⟩ := exec_record hs hraw hlog (by omega) (hds d (by simp))
    have hcount₁ : (rs ++ [sealed rs d]).length + ds.length ≤ UInt64.size := by
      rw [List.length_append, List.length_singleton]
      omega
    obtain ⟨qs, s', hrest, hdrafts, hs', hraw', hlog'⟩ :=
      ih hs₁ hraw₁ hlog₁ hcount₁ fun e he => hds e (by simp [he])
    rw [ByteArray.append_assoc, ← written_append, List.singleton_append] at hraw' hlog'
    refine ⟨sealed rs d :: qs, s', ?_, by rw [List.map_cons, hdrafts]; rfl, hs', hraw', ?_⟩
    · rw [List.mapM_cons, Action.exec_bind_ok hrecord, Action.exec_bind_ok hrest]
      rfl
    · rw [hlog', List.append_assoc, List.singleton_append]

/-- **The attestation log.** The check accepts exactly the lines of linked records, one after the other. Recording
a draft keeps what the log holds and adds the line of the next link, so that a log that came about by recording is
accepted with the records of the drafts. A chain has at most as many links as there are numbers for them. -/
theorem checkChain_record :
    (∀ (log : ByteArray) (rs : List Record),
      (checkChain log = .ok rs → log = written rs ∧ Linked 0 Digest.zero rs) ∧
      ((∀ r ∈ rs, r.draft.Storable) →
        (checkChain log = .ok rs ↔ log = written rs ∧ Linked 0 Digest.zero rs))) ∧
    (∀ (s : Session) (log : ByteArray) (rs : List Record) (d : Draft), s.Keepable → s.raw = .ok log →
      checkChain log = .ok rs → rs.length < UInt64.size → d.Storable →
      ∃ s', (record d).exec s = (.ok (sealed rs d), s') ∧ s'.raw = .ok (log ++ written [sealed rs d]) ∧
        s'.records = .ok (rs ++ [sealed rs d])) ∧
    (∀ (s : Session) (ds : List Draft), s.Keepable → s.raw = .ok ByteArray.empty → ds.length ≤ UInt64.size →
      (∀ d ∈ ds, d.Storable) →
      ∃ rs s', (ds.mapM record).exec s = (.ok rs, s') ∧ rs.map Record.draft = ds ∧ s'.raw = .ok (written rs) ∧
        s'.records = .ok rs ∧ s'.verified = true) := by
  refine ⟨fun log rs => ⟨fun h => ?_, fun hrs => ⟨fun h => ?_, ?_⟩⟩, ?_, ?_⟩
  · exact ⟨(checkChain_ok h).1, (checkChain_ok h).2.2⟩
  · exact ⟨(checkChain_ok h).1, (checkChain_ok h).2.2⟩
  · rintro ⟨rfl, hlinked⟩
    exact checkChain_written (fun r hr => Draft.Storable.readable (hrs r hr)) hlinked
  · intro s log rs d hs hraw hlog hcount hd
    obtain ⟨s', hrecord, -, hraw', hlog'⟩ := exec_record hs hraw hlog hcount hd
    exact ⟨s', hrecord, hraw', (Session.records_of_raw hraw').trans hlog'⟩
  · intro s ds hs hraw hcount hds
    have hlog : checkChain ByteArray.empty = .ok [] :=
      @checkChain_written [] (by simp) trivial
    obtain ⟨rs, s', hrecord, hdrafts, -, hraw', hlog'⟩ := exec_recordAll hs hraw hlog (by simpa using hcount) hds
    rw [ByteArray.empty_append] at hraw' hlog'
    have hrecords : s'.records = .ok rs := (Session.records_of_raw hraw').trans hlog'
    exact ⟨rs, s', hrecord, hdrafts, hraw', hrecords, by rw [Session.verified, hrecords]⟩

/-- A draft whose recipe has a line feed in its name. -/
def draft : Draft := ⟨default, ⟨0, 1⟩, 1, 0, ["fix\n"], [⟨["a"]⟩], .success⟩

theorem storable_draft : draft.Storable := by
  refine ⟨⟨by decide, .inl (by decide)⟩, ?_⟩
  simp only [draft, List.mem_singleton, forall_eq]
  decide

/-- A log that is not there yet, in a directory that is not there either. -/
def newLog : Session := ⟨Disk.empty, .file ⟨["state", "log"], "/state/log"⟩⟩

theorem keepable_newLog : newLog.Keepable := by
  have hmake : Disk.empty.mkdirs ["state"] = (.ok (), ⟨[("state", .dir [])]⟩) := rfl
  have hparent : (⟨["state", "log"], "/state/log"⟩ : Place).parent.location = ["state"] := by decide
  refine ⟨[], ["state", "log"], [], ⟨[("state", .dir [])]⟩, ["state", "log"], rfl, rfl, rfl, by decide, ?_, ?_⟩
  · rw [makeParent, Action.exec_ofFun, hparent, show newLog.disk = Disk.empty from rfl, hmake]
    rfl
  · exact ⟨locate_eq_ok_iff.mpr ⟨by decide, by rfl⟩, by simp [node?, Tree.at?, tree, Tree.children]⟩

theorem checkChain_record_twice :
    newLog.Keepable ∧ newLog.raw = .ok ByteArray.empty ∧ draft.Storable ∧
      ∃ rs s', ([draft, draft].mapM record).exec newLog = (.ok rs, s') ∧ rs.map Record.draft = [draft, draft] ∧
        s'.raw = .ok (written rs) ∧ s'.records = .ok rs ∧ s'.verified = true := by
  have hraw : newLog.raw = .ok ByteArray.empty := rfl
  refine ⟨keepable_newLog, hraw, storable_draft, ?_⟩
  exact checkChain_record.2.2 newLog [draft, draft] keepable_newLog hraw (by decide) (by simp [storable_draft])

end Mend.Attestation
