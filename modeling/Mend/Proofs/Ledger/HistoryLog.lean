import Mend.Proofs.Ledger.AttestationChain
import Mend.Proofs.Ledger.Growth
import Mend.Proofs.Text.Lines

/-!
# The history is what was appended

The log of a history is the lines of its entries, one after the other, and its last line feed may be missing
(`LeftBy`). Such a log is read as those entries (`LeftBy.parse?`), since the line of an entry has no line feed in it
and no carriage return at its end, and is never blank; and further entries follow on lines of their own, since the
missing line feed is put in first (`LeftBy.withLines`). Appending adds the lines to what is read (`exec_append_kept`),
so that after any calls the entries are all that was ever appended, in order, as they are in memory
(`entries_calls`).
-/

namespace Mend.History

open Fs Fs.Disk Ledger

/-! ## Logs -/

theorem withLines_append (log : ByteArray) (es fs : List Entry) :
    withLines log (es ++ fs) = withLines (withLines log es) fs := List.foldl_append

theorem withLines_concat (log : ByteArray) (es : List Entry) (e : Entry) :
    withLines log (es ++ [e]) = withLine (withLines log es) (Stored.line e) := withLines_append log es [e]

/-- The log is what an absent file becomes when the entries are appended, or this without its last line feed. -/
def LeftBy (es : List Entry) (log : ByteArray) : Prop :=
  log = withLines ByteArray.empty es ∨ log ++ Text.encode "\n" = withLines ByteArray.empty es

theorem terminated_withLines (es : List Entry) :
    terminated (withLines ByteArray.empty es) = withLines ByteArray.empty es := by
  rcases List.eq_nil_or_concat' es with rfl | ⟨init, e, rfl⟩
  · rfl
  · rw [withLines_concat, Attestation.terminated_withLine]

/-- What is before the last line feed is whole lines, and the line of the last entry. -/
theorem exists_last {es : List Entry} {log : ByteArray} (h : log ++ Text.encode "\n" = withLines ByteArray.empty es) :
    ∃ init e, es = init ++ [e] ∧ log = withLines ByteArray.empty init ++ Text.encode (Stored.line e) := by
  rcases List.eq_nil_or_concat' es with rfl | ⟨init, e, rfl⟩
  · have hsize := congrArg ByteArray.size h
    rw [ByteArray.size_append] at hsize
    exact absurd hsize (Nat.succ_ne_zero _)
  · refine ⟨init, e, rfl, (ByteArray.append_left_inj (Text.encode "\n")).mp ?_⟩
    rw [h, withLines_concat, withLine, terminated_withLines, ByteArray.append_assoc, ← Text.encode_append]

/-! ## Reading -/

/-- A text that is put after whole lines is read after them. -/
theorem decodeLossy_append {log : ByteArray} (hwhole : terminated log = log) :
    (Text.decodeLossy log = "" ∨ (Text.decodeLossy log).toList.getLast? = some '\n') ∧
      ∀ s, Text.decodeLossy (log ++ Text.encode s) = Text.decodeLossy log ++ s := by
  have hcases : log = ByteArray.empty ∨ ∃ a, log = a ++ Text.encode "\n" := by
    rcases Attestation.terminated_cases log with ⟨-, hlog⟩ | hadded
    · exact hlog
    · exact .inr ⟨log, hwhole.symm.trans hadded⟩
  rcases hcases with rfl | ⟨a, rfl⟩
  · have hempty : Text.decodeLossy ByteArray.empty = "" := Text.decodeLossy_encode ""
    refine ⟨.inl hempty, fun s => ?_⟩
    rw [hempty, ByteArray.empty_append, Text.decodeLossy_encode, String.empty_append]
  · have hread : Text.decodeLossy (a ++ Text.encode "\n") = Text.decodeLossy a ++ "\n" := by
      simpa using Text.decodeLossy_append_newline a ""
    refine ⟨.inr (by rw [hread, String.toList_append]; simp), fun s => ?_⟩
    rw [hread, ByteArray.append_assoc, ← Text.encode_append, Text.decodeLossy_append_newline]

/-- An entry is read from its line, whether that has a line feed or not. -/
theorem parse?_append_line {log : ByteArray} (hwhole : terminated log = log) {e : Entry}
    (he : e.recordedAt.Storable) :
    parse? (log ++ Text.encode (Stored.line e)) = (parse? log).map (· ++ [e]) := by
  obtain ⟨hended, hread⟩ := decodeLossy_append hwhole
  have hfeed : '\n' ∉ (Stored.line e).toList := Json.newline_not_mem_compact (plain_entry e)
  have hline : Text.lines (Stored.line e) = [Stored.line e] := by
    refine Text.lines_of_loose ⟨fun hempty => ?_, hfeed⟩
    have hblank := trimmed_line e
    rw [hempty] at hblank
    exact absurd hblank (by decide)
  have hbodies : Text.bodies (Text.decodeLossy log ++ Stored.line e) =
      Text.bodies (Text.decodeLossy log) ++ [Stored.line e] := by
    have hbody : [Stored.line e].map Text.body = [Stored.line e] := by
      rw [List.map_singleton, Text.body_of_not_mem hfeed]
    rcases hended with hempty | hlast
    · rw [hempty, String.empty_append, Text.bodies, hline, hbody]
      rfl
    · rw [Text.bodies, Text.lines_append_of_feed hlast, List.map_append, hline, hbody]
      rfl
  rw [parse?, parse?, hread, hbodies, List.filter_append,
    List.filter_cons_of_pos (by rw [trimmed_line]; rfl), List.filter_nil, List.mapM_append]
  cases ((Text.bodies (Text.decodeLossy log)).filter fun l => !(Text.trimmed l).isEmpty).mapM
      (Stored.ofText? : String → Option Entry) with
  | none => rfl
  | some old => simp [ofText?_line he]

namespace LeftBy

variable {es : List Entry} {log : ByteArray}

theorem parse? (h : LeftBy es log) (hes : ∀ e ∈ es, e.recordedAt.Storable) : parse? log = some es := by
  have hwritten (fs : List Entry) (hfs : ∀ e ∈ fs, e.recordedAt.Storable) :
      History.parse? (History.withLines ByteArray.empty fs) = some fs := by
    have hempty : History.parse? ByteArray.empty = some [] := by
      rw [History.parse?, show Text.decodeLossy ByteArray.empty = "" from Text.decodeLossy_encode ""]
      rfl
    rw [parse?_withLines rfl hfs, hempty]
    rfl
  rcases h with rfl | hcut
  · exact hwritten es hes
  · obtain ⟨init, e, rfl, rfl⟩ := exists_last hcut
    rw [parse?_append_line (terminated_withLines init) (hes e (by simp)),
      hwritten init fun x hx => hes x (by simp [hx])]
    rfl

/-- A line feed that is missing is put in before another line. -/
theorem terminated (h : LeftBy es log) : terminated log = withLines ByteArray.empty es := by
  rcases h with rfl | hcut
  · exact terminated_withLines es
  · obtain ⟨init, e, -, hlog⟩ := exists_last hcut
    have hlast : log.data.toList.getLast? = some 125 := by
      obtain ⟨cs, hcs⟩ := line_eq e
      have hline : Stored.line e = String.ofList ('\x7b' :: cs) ++ "\x7d" := by
        apply String.ext
        simpa using hcs
      rw [hlog, hline, Text.encode_append, ← ByteArray.append_assoc, ByteArray.data_append, Array.toList_append,
        show (Text.encode "\x7d").data.toList = [125] from rfl, List.getLast?_concat]
    rcases Attestation.terminated_cases log with ⟨-, rfl | ⟨a, rfl⟩⟩ | hadded
    · cases hlast
    · rw [ByteArray.data_append, Array.toList_append, show (Text.encode "\n").data.toList = [10] from rfl,
        List.getLast?_concat] at hlast
      exact absurd hlast (by decide)
    · rw [hadded, hcut]

/-- Further entries follow on lines of their own. -/
theorem withLines (h : LeftBy es log) (fs : List Entry) : LeftBy (es ++ fs) (withLines log fs) := by
  cases fs with
  | nil => rwa [List.append_nil]
  | cons f fs =>
    have hline : withLine log (Stored.line f) = withLine (History.withLines ByteArray.empty es) (Stored.line f) := by
      rw [withLine, withLine, h.terminated, terminated_withLines]
    refine .inl ?_
    rw [withLines_append]
    show History.withLines (withLine log (Stored.line f)) fs =
      History.withLines (withLine (History.withLines ByteArray.empty es) (Stored.line f)) fs
    rw [hline]

end LeftBy

/-! ## Appending -/

/-- The file at a place is read as `log`, and it is the file that is written once the directories around it are made. -/
structure Kept (d : Disk) (p : Place) (log : ByteArray) : Prop where
  read : readOrEmpty p d = .ok log
  made : ∃ d₁ l, (makeParent p).exec d = (.ok (), d₁) ∧ Slot d₁ p.location l ∧
    (d₁.fileAt l).getD ByteArray.empty = log

theorem kept_of_slot {d : Disk} {p : Place} {l : Location} (h : Slot d p.location l) :
    Kept d p ((d.fileAt l).getD ByteArray.empty) :=
  ⟨Attestation.readOrEmpty_slot h, d, l, exec_makeParent h, h, rfl⟩

/-- Nothing else is needed where no directory that is not there yet is left again on the way. -/
theorem Kept.of_keepable {d : Disk} {p : Place} {log : ByteArray} (h : Attestation.Keepable d p)
    (hread : readOrEmpty p d = .ok log) : Kept d p log := by
  obtain ⟨base, names, m, d₁, l, hp, hbase, hdir, hnames, hmake, hslot⟩ := h
  refine ⟨hread, d₁, l, hmake, hslot, ?_⟩
  rw [Attestation.readOrEmpty_of_grown (Attestation.grown_makeParent hmake) hp hbase hdir hnames hslot] at hread
  exact Except.ok.inj hread

variable {d : Disk} {p : Place} {log : ByteArray}

theorem Kept.appendLine (h : Kept d p log) (line : String) :
    ∃ d', (appendLine p line).exec d = (.ok (), d') ∧ Kept d' p (withLine log line) := by
  obtain ⟨-, d₁, l, hmake, hslot, hlog⟩ := h
  obtain ⟨d', mode, happend, hd'⟩ := Attestation.exec_appendLine_slot hslot line
  rw [hlog] at hd'
  have hkept := kept_of_slot (hslot.of_update hd')
  rw [fileAt_of_file (by rw [hd', Function.update_self])] at hkept
  refine ⟨d', ?_, hkept⟩
  -- the directories are there at the second try
  rw [Ledger.appendLine, Action.exec_bind_ok (exec_makeParent hslot)] at happend
  rw [Ledger.appendLine, Action.exec_bind_ok hmake, happend]

/-- A call appends the line of each entry. -/
theorem exec_append_kept (h : Kept d p log) (es : List Entry) :
    ∃ d', (append es).exec ⟨d, .file p⟩ = (.ok (), ⟨d', .file p⟩) ∧ Kept d' p (withLines log es) := by
  rw [append, Action.exec_bind_ok (Action.exec_get _)]
  dsimp only
  induction es generalizing d log with
  | nil => exact ⟨d, rfl, h⟩
  | cons e es ih =>
    obtain ⟨d₁, hline, hd₁⟩ := h.appendLine (Stored.line e)
    obtain ⟨d', hrest, hd'⟩ := ih hd₁
    refine ⟨d', ?_, hd'⟩
    have hone : ((Ledger.appendLine p (Stored.line e)).zoom Session.disk fun d s => { s with disk := d }).exec
        ⟨d, .file p⟩ = (.ok (), ⟨d₁, .file p⟩) := by
      rw [Action.exec_zoom, hline]
    rw [Action.forM_cons, Action.exec_bind_ok hone, hrest]

/-- Calls append the lines of all their entries. -/
theorem exec_calls_kept (h : Kept d p log) (calls : List (List Entry)) :
    ∃ d', (calls.forM append).exec ⟨d, .file p⟩ = (.ok (), ⟨d', .file p⟩) ∧
      Kept d' p (withLines log calls.flatten) := by
  induction calls generalizing d log with
  | nil => exact ⟨d, rfl, h⟩
  | cons es calls ih =>
    obtain ⟨d₁, hcall, hd₁⟩ := exec_append_kept h es
    obtain ⟨d', hrest, hd'⟩ := ih hd₁
    refine ⟨d', ?_, ?_⟩
    · rw [Action.forM_cons, Action.exec_bind_ok hcall, hrest]
    · rwa [List.flatten_cons, withLines_append]

/-- In memory the entries are kept as they are. -/
theorem exec_calls_memory (d : Disk) (es : List Entry) (calls : List (List Entry)) :
    (calls.forM append).exec ⟨d, .memory es⟩ = (.ok (), ⟨d, .memory (es ++ calls.flatten)⟩) := by
  induction calls generalizing es with
  | nil =>
    rw [List.flatten_nil, List.append_nil]
    rfl
  | cons fs calls ih =>
    have hcall : (append fs).exec ⟨d, .memory es⟩ = (.ok (), ⟨d, .memory (es ++ fs)⟩) := rfl
    rw [Action.forM_cons, Action.exec_bind_ok hcall, ih, List.flatten_cons, List.append_assoc]

/-- **The history is what was appended.** A file that is absent, or that holds what the store left in it for some
entries, perhaps without its last line feed, can be appended to in any number of calls with any entries whose moments
can be stored. Then it is read as those entries and all that were appended, in their order, as is a history that
is kept in memory; and it holds a line for each of them. -/
theorem entries_calls {es : List Entry} (hkept : Kept d p log) (hlog : LeftBy es log)
    (hes : ∀ e ∈ es, e.recordedAt.Storable) (calls : List (List Entry))
    (hcalls : ∀ fs ∈ calls, ∀ e ∈ fs, e.recordedAt.Storable) (d₀ : Disk) :
    ∃ s s₀, (calls.forM append).exec ⟨d, .file p⟩ = (.ok (), s) ∧
      (calls.forM append).exec ⟨d₀, .memory es⟩ = (.ok (), s₀) ∧
      s.entries = .ok (es ++ calls.flatten) ∧ s₀.entries = .ok (es ++ calls.flatten) ∧
      readOrEmpty p s.disk = .ok (withLines log calls.flatten) ∧
      LeftBy (es ++ calls.flatten) (withLines log calls.flatten) := by
  obtain ⟨d', hrun, hkept'⟩ := exec_calls_kept hkept calls
  have hleft := hlog.withLines calls.flatten
  have hall : ∀ e ∈ es ++ calls.flatten, e.recordedAt.Storable := by
    intro e he
    rcases List.mem_append.mp he with he | he
    · exact hes e he
    · obtain ⟨fs, hfs, he⟩ := List.mem_flatten.mp he
      exact hcalls fs hfs e he
  refine ⟨_, _, hrun, exec_calls_memory d₀ es calls, ?_, rfl, hkept'.read, hleft⟩
  rw [Session.entries]
  dsimp only
  rw [hkept'.read]
  dsimp only
  rw [hleft.parse? hall]

/-- An entry whose recipe has a carriage return, a line feed and quotes in its name. -/
def noisy : Entry := ⟨default, "fix\r\n\"all\"", .partly, ⟨3, 1, 2, none⟩, ⟨0, 1⟩⟩

/-- An entry of the last second of the year 9999. -/
def latest : Entry := ⟨default, "", .failure, ⟨0, 4, 1, some false⟩, ⟨253402300799, 0⟩⟩

theorem storable_noisy : noisy.recordedAt.Storable := ⟨by decide, .inl (by decide)⟩

theorem storable_latest : latest.recordedAt.Storable := ⟨by decide, .inl (by decide)⟩

/-- A log of one line that was cut before its line feed. -/
def cutLog : Disk := ⟨[("log", .file (Text.encode (Stored.line noisy)) 420)]⟩

theorem leftBy_cutLog : LeftBy [noisy] (Text.encode (Stored.line noisy)) := by
  refine .inr ?_
  rw [← Text.encode_append, ← List.nil_append [noisy], withLines_concat, withLine, terminated_withLines]
  exact ByteArray.empty_append.symm

theorem slot_cutLog : Slot cutLog ["log"] ["log"] :=
  ⟨locate_eq_ok_iff.mpr ⟨by decide, rfl⟩, by simp [cutLog, node?, Fs.Tree.at?, tree, Fs.Tree.children, Fs.Tree.node]⟩

/-- A log that was cut is read on, and a log that is not there yet, in a directory that is not there either, is made. -/
theorem entries_calls_cutLog :
    Kept cutLog ⟨["log"], "/log"⟩ (Text.encode (Stored.line noisy)) ∧ LeftBy [noisy] (Text.encode (Stored.line noisy)) ∧
      noisy.recordedAt.Storable ∧ latest.recordedAt.Storable ∧
      (∃ s, ([[latest], [], [noisy, noisy]].forM append).exec ⟨cutLog, .file ⟨["log"], "/log"⟩⟩ = (.ok (), s) ∧
        s.entries = .ok [noisy, latest, noisy, noisy]) ∧
      ∃ s, ([[noisy, latest], [latest]].forM append).exec ⟨Disk.empty, .file ⟨["state", "log"], "/state/log"⟩⟩ =
          (.ok (), s) ∧ s.entries = .ok [noisy, latest, latest] := by
  have hcut : Kept cutLog ⟨["log"], "/log"⟩ (Text.encode (Stored.line noisy)) := by
    have hslot : Slot cutLog (⟨["log"], "/log"⟩ : Place).location ["log"] := slot_cutLog
    exact kept_of_slot hslot
  have hnew : Kept Disk.empty ⟨["state", "log"], "/state/log"⟩ ByteArray.empty :=
    .of_keepable Attestation.keepable_newLog rfl
  refine ⟨hcut, leftBy_cutLog, storable_noisy, storable_latest, ?_, ?_⟩
  · obtain ⟨s, -, hrun, -, hentries, -⟩ := entries_calls hcut leftBy_cutLog (by simp [storable_noisy])
      [[latest], [], [noisy, noisy]] (by simp [storable_noisy, storable_latest]) Disk.empty
    exact ⟨s, hrun, hentries⟩
  · have habsent : LeftBy [] ByteArray.empty := .inl rfl
    obtain ⟨s, -, hrun, -, hentries, -⟩ := entries_calls hnew habsent (by simp)
      [[noisy, latest], [latest]] (by simp [storable_noisy, storable_latest]) Disk.empty
    exact ⟨s, hrun, hentries⟩

end Mend.History
