import Mend.Proofs.Ledger.TamperEvidence
import Mend.Proofs.Text.Lossy

/-!
# Recording on a damaged log

A log may hold any bytes at all: a record that was cut short, bytes that are no text, lines that are no records. What
the next record links to is the last line that can be read (`nextLink_eq`), and after a record is appended that is its
line (`readable_withLine`), since it starts after a line feed. A log that is accepted is accepted up to each of its
line feeds (`accepted_of_append`), so that no record that is appended makes a rejected log an accepted one.
-/

namespace Mend.Attestation

open Ledger

/-! ## The lines that can be read -/

/-- The records of the lines that can be read. -/
def readable (log : ByteArray) : List Record :=
  (Text.bodies (Text.decodeLossy log)).filterMap Record.parse?

theorem getLast?_encode (r : Record) : r.encode.toList.getLast? = some '\x7d' := by
  have htext : r.encode.toList = ("\x7b" ++ Json.compactFields _).toList ++ ['\x7d'] := String.toList_append
  rw [htext, List.getLast?_concat]

theorem body_encode (r : Record) : Text.body (r.encode ++ "\n") = r.encode := by
  apply Text.body_line
  rw [getLast?_encode]
  decide

theorem readable_written {rs : List Record} (h : ∀ r ∈ rs, Readable r) : readable (written rs) = rs := by
  have hbodies : Text.bodies (String.join (rs.map fun r => r.encode ++ "\n")) = rs.map Record.encode := by
    rw [Text.bodies, lines_written, List.map_map]
    exact List.map_congr_left fun r _ => body_encode r
  rw [readable, written, Text.decodeLossy_encode, hbodies, List.filterMap_map]
  calc rs.filterMap (Record.parse? ∘ Record.encode)
      = rs.filterMap some := List.filterMap_congr fun r hr => h r hr
    _ = rs := List.filterMap_some

/-- Whether the chain is whole or not, the next record links to the last line that can be read. -/
theorem nextLink_eq (log : ByteArray) : nextLink log = lastReadable log := by
  rw [nextLink]
  split
  · next rs hlog =>
    obtain ⟨rfl, hreadable, -⟩ := checkChain_ok hlog
    rw [lastReadable, ← readable, readable_written hreadable]
  · rfl

/-! ## The line that is added -/

/-- What a line is put after is the log, or the log and a line feed. If it is the log, that is empty, or it ends in a line
feed. -/
theorem terminated_cases (log : ByteArray) :
    (terminated log = log ∧ (log = ByteArray.empty ∨ ∃ a, log = a ++ Text.encode "\n")) ∨
      terminated log = log ++ Text.encode "\n" := by
  have hpush (a : ByteArray) : a.push 10 = a ++ Text.encode "\n" := by
    apply ByteArray.ext
    rw [ByteArray.data_append, ByteArray.data_push]
    rfl
  by_cases hended : log.size = 0 || log.get! (log.size - 1) = 10
  · refine .inl ⟨by rw [terminated, if_pos hended], ?_⟩
    rcases List.eq_nil_or_concat' log.data.toList with hnil | ⟨init, b, hlog⟩
    · exact .inl (ByteArray.ext (Array.ext' hnil))
    · have hdata : log.data = init.toArray.push b := by
        apply Array.ext'
        rw [hlog, Array.toList_push]
      have hlast : log.get! (log.size - 1) = b := by
        show log.data[log.data.size - 1]! = b
        rw [hdata, Array.size_push, Nat.add_sub_cancel, getElem!_pos _ _ (by simp), Array.getElem_push_eq]
      have hsize : log.size ≠ 0 := by
        show log.data.size ≠ 0
        rw [hdata, Array.size_push]
        exact Nat.succ_ne_zero _
      rw [hlast] at hended
      obtain rfl : b = 10 := by simpa [hsize] using hended
      refine .inr ⟨⟨init.toArray⟩, ?_⟩
      rw [← hpush]
      exact ByteArray.ext hdata
  · rw [terminated, if_neg hended]
    exact .inr (hpush log)

/-- At most a line feed is put between a log and its next line. -/
theorem withLine_eq (log : ByteArray) (line : String) :
    ∃ sep, (sep = "" ∨ sep = "\n") ∧ withLine log line = log ++ Text.encode (sep ++ line ++ "\n") := by
  rcases terminated_cases log with ⟨hsame, -⟩ | hadded
  · refine ⟨"", .inl rfl, ?_⟩
    rw [withLine, hsame, String.empty_append]
  · refine ⟨"\n", .inr rfl, ?_⟩
    rw [withLine, hadded, String.append_assoc, Text.encode_append "\n", ByteArray.append_assoc]

theorem terminated_withLine (log : ByteArray) (line : String) : terminated (withLine log line) = withLine log line := by
  have hwith : withLine log line = (terminated log ++ Text.encode line) ++ Text.encode "\n" := by
    rw [ByteArray.append_assoc, ← Text.encode_append]
    rfl
  rw [hwith, terminated_append]

/-- What a line is put after is read as a text of whole lines, and the line is read after it. -/
theorem decodeLossy_withLine (log : ByteArray) (line : String) :
    ∃ s, (s = "" ∨ ∃ t, s = t ++ "\n") ∧ Text.decodeLossy (terminated log) = s ∧
      Text.decodeLossy (withLine log line) = s ++ line ++ "\n" := by
  have hended : terminated log = ByteArray.empty ∨ ∃ a, terminated log = a ++ Text.encode "\n" := by
    rcases terminated_cases log with ⟨hsame, hcases⟩ | hadded
    · rwa [hsame]
    · exact .inr ⟨log, hadded⟩
  rcases hended with hempty | ⟨a, ha⟩
  · refine ⟨"", .inl rfl, ?_, ?_⟩
    · rw [hempty]
      exact Text.decodeLossy_encode ""
    · rw [withLine, hempty, ByteArray.empty_append, String.empty_append]
      exact Text.decodeLossy_encode _
  · refine ⟨Text.decodeLossy a ++ "\n", .inr ⟨_, rfl⟩, ?_, ?_⟩
    · have hread := Text.decodeLossy_append_newline a ""
      rwa [String.append_empty, String.append_empty, ← ha] at hread
    · have hread := Text.decodeLossy_append_newline a (line ++ "\n")
      rw [Text.encode_append, ← ByteArray.append_assoc, ← ha, ← String.append_assoc] at hread
      exact hread

/-- The line of a record is the last line that can be read. -/
theorem readable_withLine {r : Record} (h : Readable r) (log : ByteArray) :
    readable (withLine log r.encode) = readable (terminated log) ++ [r] := by
  obtain ⟨s, hs, hbefore, hafter⟩ := decodeLossy_withLine log r.encode
  have hreturn : r.encode.toList.getLast? ≠ some '\r' := by
    rw [getLast?_encode]
    decide
  rw [readable, readable, hbefore, hafter, Text.bodies_append_line hs (newline_not_mem_encode r) hreturn,
    List.filterMap_append, List.filterMap_cons, h, List.filterMap_nil]

/-- A record links to the one that was recorded before it. -/
theorem nextLink_withLine {r : Record} (h : Readable r) (log : ByteArray) :
    nextLink (withLine log r.encode) = (r.sequence + 1, r.own) := by
  rw [nextLink_eq, lastReadable, ← readable, readable_withLine h, List.getLast?_concat]

/-! ## The chain up to a line feed -/

theorem Linked.take {index : Nat} {previous : Digest} {rs : List Record} (h : Linked index previous rs) (k : Nat) :
    Linked index previous (rs.take k) := by
  induction rs generalizing index previous k with
  | nil =>
    rw [List.take_nil]
    exact h
  | cons r rs ih =>
    cases k with
    | zero => exact trivial
    | succ k => exact ⟨h.1, h.2.1, h.2.2.1, ih h.2.2.2 k⟩

/-- Each line feed of a log is the end of a record's line. -/
theorem written_of_append {rs : List Record} {x y : List UInt8} (h : (written rs).data.toList = x ++ 10 :: y) :
    ∃ k, (written (rs.take k)).data.toList = x ++ [10] := by
  induction rs generalizing x with
  | nil => simp [data_written] at h
  | cons r rs ih =>
    have hcons (qs : List Record) :
        (written (r :: qs)).data.toList = lineBytes r ++ 10 :: (written qs).data.toList := by
      rw [data_written, data_written, List.map_cons, List.flatMap_cons, List.append_assoc]
      rfl
    rw [hcons] at h
    rcases List.append_eq_append_iff.mp h with ⟨spare, hx, hrest⟩ | ⟨spare, hline, hrest⟩
    · cases spare with
      | nil => exact ⟨1, by rw [List.take_succ_cons, List.take_zero, hcons, hx, List.append_nil]; rfl⟩
      | cons b spare =>
        obtain ⟨rfl, hrest'⟩ := List.cons.inj hrest
        obtain ⟨k, hk⟩ := ih hrest'
        exact ⟨k + 1, by rw [List.take_succ_cons, hcons, hk, hx, List.append_assoc]; rfl⟩
    · cases spare with
      | nil => exact ⟨1, by rw [List.take_succ_cons, List.take_zero, hcons, hline, List.append_nil]; rfl⟩
      | cons b spare =>
        obtain ⟨rfl, -⟩ := List.cons.inj hrest
        exact absurd (by rw [hline]; simp) (newline_not_mem_lineBytes r)

/-- A log that is accepted is accepted up to each of its line feeds. -/
theorem accepted_of_append {a b : ByteArray} {rs : List Record}
    (h : checkChain (a ++ Text.encode "\n" ++ b) = .ok rs) :
    ∃ qs, checkChain (a ++ Text.encode "\n") = .ok qs := by
  obtain ⟨hlog, hreadable, hlinked⟩ := checkChain_ok h
  have hfeed : (Text.encode "\n").data.toList = [10] := rfl
  have hbytes : (written rs).data.toList = a.data.toList ++ 10 :: b.data.toList := by
    rw [← hlog, ByteArray.data_append, ByteArray.data_append, Array.toList_append, Array.toList_append, hfeed,
      List.append_assoc]
    rfl
  obtain ⟨k, hk⟩ := written_of_append hbytes
  have htake : a ++ Text.encode "\n" = written (rs.take k) := by
    apply ByteArray.ext
    apply Array.ext'
    rw [hk, ByteArray.data_append, Array.toList_append, hfeed]
  refine ⟨rs.take k, ?_⟩
  rw [htake]
  exact checkChain_written (fun r hr => hreadable r (List.mem_of_mem_take hr)) (hlinked.take k)

/-- The check rejects the log. -/
def Rejected (log : ByteArray) : Prop := ∃ e, checkChain log = .error e

theorem rejected_iff {log : ByteArray} : Rejected log ↔ ∀ rs, checkChain log ≠ .ok rs := by
  constructor
  · rintro ⟨e, he⟩ rs hrs
    rw [he] at hrs
    cases hrs
  · intro h
    cases hlog : checkChain log with
    | error e => exact ⟨e, hlog⟩
    | ok rs => exact absurd hlog (h rs)

/-- A line more does not make a rejected log an accepted one, where the log is rejected as it is and with a line feed
at its end. -/
theorem rejected_withLine {log : ByteArray} (h : Rejected log) (hended : Rejected (log ++ Text.encode "\n"))
    (line : String) : Rejected (withLine log line) := by
  rw [rejected_iff] at h hended ⊢
  intro rs hrs
  rw [withLine] at hrs
  rcases terminated_cases log with ⟨hsame, rfl | ⟨a, rfl⟩⟩ | hadded
  · exact h [] (@checkChain_written [] (by simp) trivial)
  · rw [hsame] at hrs
    obtain ⟨qs, hqs⟩ := accepted_of_append hrs
    exact h qs hqs
  · rw [hadded] at hrs
    obtain ⟨qs, hqs⟩ := accepted_of_append hrs
    exact hended qs hqs

theorem rejected_of_withLine {log : ByteArray} {line : String} (h : Rejected (withLine log line)) :
    Rejected (withLine log line ++ Text.encode "\n") := by
  have hwith : withLine log line = (terminated log ++ Text.encode line) ++ Text.encode "\n" := by
    rw [ByteArray.append_assoc, ← Text.encode_append]
    rfl
  rw [hwith, rejected_iff] at h ⊢
  intro rs hrs
  obtain ⟨qs, hqs⟩ := accepted_of_append hrs
  exact h qs hqs

/-! ## Recording -/

/-- However many drafts are recorded, a rejected log stays rejected. -/
theorem rejected_recordAll {ds : List Draft} {s : Session} {log : ByteArray} (hs : s.Keepable)
    (hraw : s.raw = .ok log) (h : Rejected log) (hended : Rejected (log ++ Text.encode "\n")) :
    ∃ rs s' more, (ds.mapM record).exec s = (.ok rs, s') ∧ s'.raw = .ok (log ++ more) ∧ Rejected (log ++ more) := by
  induction ds generalizing s log with
  | nil =>
    refine ⟨[], s, ByteArray.empty, by rw [List.mapM_nil, Action.exec_pure], ?_, ?_⟩
    · rw [hraw, ByteArray.append_empty]
    · rwa [ByteArray.append_empty]
  | cons d ds ih =>
    obtain ⟨s₁, hrecord, hs₁, hraw₁⟩ := exec_record_line hs hraw d
    obtain ⟨sep, -, hline⟩ := withLine_eq log (nextRecord log d).encode
    have hrejected := rejected_withLine h hended (nextRecord log d).encode
    obtain ⟨rs, s', more, hrest, hraw', hrejected'⟩ := ih hs₁ hraw₁ hrejected (rejected_of_withLine hrejected)
    rw [hline, ByteArray.append_assoc] at hraw' hrejected'
    refine ⟨nextRecord log d :: rs, s', _, ?_, hraw', hrejected'⟩
    rw [List.mapM_cons, Action.exec_bind_ok hrecord, Action.exec_bind_ok hrest]
    rfl

theorem nextRecord_sequence (log : ByteArray) (d : Draft) : (nextRecord log d).sequence = (nextLink log).1 := rfl

theorem nextRecord_previous (log : ByteArray) (d : Draft) : (nextRecord log d).previous = (nextLink log).2 := rfl

theorem toNat_sequence_lt {log : ByteArray}
    (h : ∀ q, (readable log).getLast? = some q → q.sequence.toNat < 2 ^ 64 - 2) (d : Draft) :
    (nextRecord log d).sequence.toNat + 1 < 2 ^ 64 := by
  rw [nextRecord_sequence, nextLink_eq, lastReadable, ← readable]
  cases hlast : (readable log).getLast? with
  | none => decide
  | some q =>
    have hq := h q hlast
    show (q.sequence + 1).toNat + 1 < 2 ^ 64
    rw [UInt64.toNat_add, UInt64.toNat_one, Nat.mod_eq_of_lt (by omega)]
    omega

/-- **Recording on a damaged log.** Whatever bytes the log holds, recording a draft keeps them, puts at most a line feed
after them and then the record's line, which is read back, and the record after it links to it. The numbers of the
records must not run out. If the check rejects the log, and also rejects it with a line feed at its end, then it rejects
the log after any number of further records. -/
theorem record_damaged {s : Session} {log : ByteArray} (hs : s.Keepable) (hraw : s.raw = .ok log) :
    (∀ d : Draft, d.Storable → (∀ q, (readable log).getLast? = some q → q.sequence.toNat < 2 ^ 64 - 2) →
      ∃ r s' sep, (record d).exec s = (.ok r, s') ∧ r.draft = d ∧ (sep = "" ∨ sep = "\n") ∧
        s'.raw = .ok (log ++ Text.encode (sep ++ r.encode ++ "\n")) ∧ '\n' ∉ r.encode.toList ∧
        Record.parse? r.encode = some r ∧
        ∀ e, ∃ q s'', (record e).exec s' = (.ok q, s'') ∧ q.sequence.toNat = r.sequence.toNat + 1 ∧
          q.previous = r.own) ∧
    (Rejected log → Rejected (log ++ Text.encode "\n") → ∀ ds : List Draft, ∃ rs s' more,
      (ds.mapM record).exec s = (.ok rs, s') ∧ s'.raw = .ok (log ++ more) ∧ Rejected (log ++ more)) := by
  constructor
  · intro d hd hsequence
    obtain ⟨s', hrecord, hs', hraw'⟩ := exec_record_line hs hraw d
    obtain ⟨sep, hsep, hline⟩ := withLine_eq log (nextRecord log d).encode
    have hreadable : Readable (nextRecord log d) := Draft.Storable.readable hd
    refine ⟨nextRecord log d, s', sep, hrecord, rfl, hsep, by rw [hraw', hline], newline_not_mem_encode _, hreadable, ?_⟩
    intro e
    obtain ⟨s'', hnext, -⟩ := exec_record_line hs' hraw' e
    have hlink := nextLink_withLine hreadable log
    have hnumber := toNat_sequence_lt hsequence d
    refine ⟨_, s'', hnext, ?_, ?_⟩
    · rw [nextRecord_sequence, hlink, UInt64.toNat_add, UInt64.toNat_one, Nat.mod_eq_of_lt hnumber]
    · rw [nextRecord_previous, hlink]
  · intro h hended ds
    exact rejected_recordAll hs hraw h hended

/-- A log that begins with half of a character; a record was appended to it. -/
def torn : ByteArray := withLine ⟨#[0xC3]⟩ (sealed [] draft).encode

/-- The file with that log. -/
def tornLog : Session := ⟨⟨[("log", .file torn 420)]⟩, .file ⟨["log"], "/log"⟩⟩

theorem keepable_tornLog : tornLog.Keepable :=
  keepable_of_slot (l := ["log"]) ⟨Fs.Disk.locate_eq_ok_iff.mpr ⟨by decide, rfl⟩,
    by simp [tornLog, Fs.Disk.node?, Fs.Tree.at?, Fs.Disk.tree, Fs.Tree.children, Fs.Tree.node]⟩

theorem rejected_torn : Rejected torn := by
  apply rejected_withLine
  · exact ⟨_, rfl⟩
  · exact ⟨_, rfl⟩

theorem readable_torn : (readable torn).getLast? = some (sealed [] draft) := by
  rw [torn, readable_withLine (Draft.Storable.readable storable_draft), List.getLast?_concat]

theorem record_damaged_torn :
    tornLog.Keepable ∧ tornLog.raw = .ok torn ∧ draft.Storable ∧
      (∀ q, (readable torn).getLast? = some q → q.sequence.toNat < 2 ^ 64 - 2) ∧ Rejected torn ∧
      Rejected (torn ++ Text.encode "\n") ∧
      (∃ r s', (record draft).exec tornLog = (.ok r, s') ∧ r.draft = draft ∧ Record.parse? r.encode = some r) ∧
      ∃ rs s' more, ([draft, draft].mapM record).exec tornLog = (.ok rs, s') ∧ s'.raw = .ok (torn ++ more) ∧
        Rejected (torn ++ more) := by
  have hraw : tornLog.raw = .ok torn := rfl
  have hsequence : ∀ q, (readable torn).getLast? = some q → q.sequence.toNat < 2 ^ 64 - 2 := by
    intro q hq
    rw [readable_torn] at hq
    obtain rfl := Option.some.inj hq
    decide
  have hended : Rejected (torn ++ Text.encode "\n") := rejected_of_withLine rejected_torn
  refine ⟨keepable_tornLog, hraw, storable_draft, hsequence, rejected_torn, hended, ?_, ?_⟩
  · obtain ⟨r, s', _, hrecord, hdraft, -, -, -, hparse, -⟩ :=
      (record_damaged keepable_tornLog hraw).1 draft storable_draft hsequence
    exact ⟨r, s', hrecord, hdraft, hparse⟩
  · exact (record_damaged keepable_tornLog hraw).2 rejected_torn hended [draft, draft]

end Mend.Attestation
