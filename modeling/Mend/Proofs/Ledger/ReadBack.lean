import Mend.Proofs.Ledger.AttestationChain
import Mend.Proofs.Ledger.SnapshotStore
import Mend.Proofs.Path

/-!
# Paths that are read back

A record names its files by the texts of their paths. The text of a path that was accepted is read as that very path,
or it is refused since it begins like a drive (`RelPath.Proper.parse_text`). A record with such a path cannot be read: it
breaks the log that it is added to, and a snapshot with such a path cannot be loaded (`read_back`).
-/

namespace Mend.Json

open RelPath

theorem path?_of_proper {p : RelPath} (h : p.Proper) :
    path? (ofPath p) = if p.drivelike then none else some p := by
  rw [path?, ofPath, parsed?, h.parse_text]
  split <;> rfl

/-- A list with a value that is not read is not read. -/
theorem list?_map_eq_none {α : Type} {read : Json → Option α} {write : α → Json} {xs : List α} {x : α} (hx : x ∈ xs)
    (h : read (write x) = none) : list? read (.arr (xs.map write)) = none := by
  rw [Option.eq_none_iff_forall_ne_some]
  intro ys hys
  simp only [list?] at hys
  induction xs generalizing ys with
  | nil => simp at hx
  | cons y xs ih =>
    rw [List.map_cons, List.mapM_cons, Option.bind_eq_bind, Option.bind_eq_some_iff] at hys
    obtain ⟨z, hz, hys⟩ := hys
    rw [Option.bind_eq_bind, Option.bind_eq_some_iff] at hys
    obtain ⟨zs, hzs, -⟩ := hys
    rcases List.mem_cons.mp hx with rfl | hx
    · rw [h] at hz
      cases hz
    · exact ih hx zs hzs

end Mend.Json

namespace Mend.Attestation

open Ledger RelPath

/-- A record is not read from slots that its files are not read from. -/
theorem ofJson?_of_unread {j a b c d e f g h i k : Json}
    (hslots : Json.slots ["sequence", "cycle_id", "recorded_at", "prev_hash", "self_hash", "issues_before",
      "issues_after", "recipes_applied", "files_changed", "verdict"] true j =
        some [.given a, .given b, .given c, .given d, .given e, .given f, .given g, .given h, .given i, .given k])
    (hi : Json.list? Json.path? i = none) : Record.ofJson? j = none := by
  simp only [Record.ofJson?, hslots, Json.Slot.required, hi, Option.bind_eq_bind, Option.bind_some, Option.bind_none,
    Option.bind_fun_none]

/-- A record that names a drive is not read back. -/
theorem parse?_encode_of_drive {r : Record} {p : RelPath} (hp : p ∈ r.draft.files) (hproper : p.Proper)
    (hdrive : p.drivelike = true) : Record.parse? r.encode = none := by
  have hpath : Json.path? (Json.ofPath p) = none := by rw [Json.path?_of_proper hproper, if_pos hdrive]
  rw [parse?_encode]
  exact ofJson?_of_unread (slots_toJson r) (Json.list?_map_eq_none hp hpath)

theorem checkLines_encode_append {index : Nat} {previous : Digest} {rs : List Record} (h : ∀ r ∈ rs, Readable r)
    (hlinked : Linked index previous rs) (lines : List String) :
    checkLines index previous (rs.map Record.encode ++ lines) =
      (checkLines (index + rs.length) ((rs.getLast?.map Record.own).getD previous) lines).map (rs ++ ·) := by
  induction rs generalizing index previous with
  | nil =>
    show checkLines index previous lines = (checkLines index previous lines).map ([] ++ ·)
    cases checkLines index previous lines <;> rfl
  | cons r rs ih =>
    obtain ⟨hsequence, hprevious, hown, hrest⟩ := hlinked
    have hlast : ((r :: rs).getLast?.map Record.own).getD previous = (rs.getLast?.map Record.own).getD r.own := by
      rw [List.getLast?_cons]
      cases rs.getLast? <;> rfl
    rw [List.map_cons, List.cons_append, checkLines, checkLine_encode (h r (by simp)) hsequence hprevious hown]
    dsimp only
    rw [ih (fun q hq => h q (by simp [hq])) hrest, hlast, List.length_cons, Nat.add_right_comm, Nat.add_assoc]
    cases checkLines (index + (rs.length + 1)) ((rs.getLast?.map Record.own).getD r.own) lines <;> rfl

/-- A line that cannot be read breaks the log at its own number. -/
theorem checkChain_unreadable {log : ByteArray} {rs : List Record} (h : checkChain log = .ok rs) {r : Record}
    (hr : Record.parse? r.encode = none) :
    checkChain (log ++ written [r]) = .error (.chainBroken (rs.length + 1) Fault.unparseable.message) := by
  obtain ⟨rfl, hreadable, hlinked⟩ := checkChain_ok h
  rw [← written_append, checkChain_written_eq, List.map_append, checkLines_encode_append hreadable hlinked]
  simp only [List.map_cons, List.map_nil, checkLines, checkLine, hr, Nat.zero_add]
  rfl

end Mend.Attestation

namespace Mend.Snapshot

open RelPath

/-- An entry of a drive is not read back. -/
theorem ofJson?_entry_of_drive {e : Entry} (hproper : e.path.Proper) (hdrive : e.path.drivelike = true) :
    Entry.ofJson? e.toJson = none := by
  have hpath : Json.path? (Json.ofPath e.path) = none := by rw [Json.path?_of_proper hproper, if_pos hdrive]
  rw [Entry.ofJson?, slots_entry]
  simp only [Json.Slot.required, hpath, Option.bind_eq_bind, Option.bind_some, Option.bind_none]

/-- A snapshot with a drive among its paths is not read back. -/
theorem ofBytes?_page_of_drive {s : Snapshot} (h : ∀ e ∈ s.files, ∀ op ∈ e.undo.ops, op.Counted) {e : Entry}
    (he : e ∈ s.files) (hproper : e.path.Proper) (hdrive : e.path.drivelike = true) :
    (Stored.ofBytes? (Stored.page s) : Option Snapshot) = none := by
  have hfiles : Json.list? Entry.ofJson? (.arr (s.files.map Entry.toJson)) = none :=
    Json.list?_map_eq_none he (ofJson?_entry_of_drive hproper hdrive)
  show (Json.parseBytes (Text.encode s.toJson.pretty)).bind ofJson? = none
  rw [Json.parseBytes_pretty (plain_snapshot h), Option.bind_some, ofJson?, slots_snapshot]
  simp only [Json.Slot.required, hfiles, Json.cycleId?_ofCycleId, Option.bind_eq_bind, Option.bind_some,
    Option.bind_none]

theorem mem_files_capture {id : CycleId} {cs : List Capture} {now : Time} {e : Entry} :
    e ∈ (capture id cs now).files ↔ ∃ c ∈ cs, Entry.ofCapture c = e := by
  rw [capture, List.mem_mergeSort, List.mem_map]

end Mend.Snapshot

namespace Mend.Ledger

open RelPath Attestation

/-- A record of proper paths extends the log, or it breaks it. -/
theorem checkChain_extended {log : ByteArray} {rs : List Record} {d : Draft} (h : checkChain log = .ok rs)
    (hcount : rs.length < UInt64.size) (hmoment : d.recordedAt.Storable) (hfiles : ∀ p ∈ d.files, p.Proper) :
    checkChain (withLine log (nextRecord log d).encode) =
      if d.files.any drivelike then .error (.chainBroken (rs.length + 1) Fault.unparseable.message)
      else .ok (rs ++ [sealed rs d]) := by
  rw [nextRecord_eq h, withLine_of_checkChain h]
  by_cases hdrive : d.files.any drivelike = true
  · rw [if_pos hdrive]
    obtain ⟨p, hp, hdrive⟩ := List.any_eq_true.mp hdrive
    exact checkChain_unreadable h (parse?_encode_of_drive hp (hfiles p hp) hdrive)
  · rw [if_neg hdrive]
    refine checkChain_sealed h hcount ⟨hmoment, fun p hp => ?_⟩
    rw [(hfiles p hp).parse_text, if_neg fun e => hdrive (List.any_eq_true.mpr ⟨p, hp, e⟩)]

/-- A snapshot of proper paths is read back, or one of them begins like a drive. -/
theorem ofBytes?_capture {id : CycleId} {cs : List Snapshot.Capture} {now : Time} (hmoment : now.Storable)
    (hcs : ∀ c ∈ cs, c.path.Proper ∧ (Text.lines c.after).length < UInt64.size) :
    (Stored.ofBytes? (Stored.page (Snapshot.capture id cs now)) : Option Snapshot) =
      if cs.any fun c => c.path.drivelike then none else some (Snapshot.capture id cs now) := by
  by_cases hdrive : (cs.any fun c => c.path.drivelike) = true
  · rw [if_pos hdrive]
    obtain ⟨c, hc, hdrive⟩ := List.any_eq_true.mp hdrive
    refine Snapshot.ofBytes?_page_of_drive (fun e he => ?_) (Snapshot.mem_files_capture.mpr ⟨c, hc, rfl⟩)
      (hcs c hc).1 hdrive
    obtain ⟨b, hb, rfl⟩ := Snapshot.mem_files_capture.mp he
    exact Diff.counted_between (hcs b hb).2
  · rw [if_neg hdrive]
    refine Snapshot.ofBytes?_page (fun e he => ?_) hmoment
    obtain ⟨c, hc, rfl⟩ := Snapshot.mem_files_capture.mp he
    refine Snapshot.storable_ofCapture ?_ (hcs c hc).2
    rw [(hcs c hc).1.parse_text, if_neg fun e => hdrive (List.any_eq_true.mpr ⟨c, hc, e⟩)]

/-- **Accepted paths are read back, but for drives behind a dot.** The text of an accepted path is read as the same
path exactly if it does not begin like a drive; if it does, the path was accepted from a text with a dot in front of
the drive. A record extends an accepted log exactly if none of its paths begins like a drive, and breaks it at its
own line otherwise. The file of a snapshot is read back exactly if none of its paths begins like a drive. -/
theorem read_back (raw : String) (p : RelPath) (log : ByteArray) (rs : List Record) (d : Draft) (id : CycleId)
    (cs : List Snapshot.Capture) (now : Time) :
    (RelPath.parse raw = .ok p →
      RelPath.parse p.text = (if p.drivelike then .error (.absolute p.text) else .ok p) ∧
      Json.path? (Json.ofPath p) = (if p.drivelike then none else some p) ∧
      (p.drivelike = true → ∃ rest, unified raw = '.' :: '/' :: rest)) ∧
    (checkChain log = .ok rs → rs.length < UInt64.size → d.recordedAt.Storable → (∀ p ∈ d.files, p.Proper) →
      checkChain (withLine log (nextRecord log d).encode) =
        if d.files.any drivelike then .error (.chainBroken (rs.length + 1) Fault.unparseable.message)
        else .ok (rs ++ [sealed rs d])) ∧
    (now.Storable → (∀ c ∈ cs, c.path.Proper ∧ (Text.lines c.after).length < UInt64.size) →
      (Stored.ofBytes? (Stored.page (Snapshot.capture id cs now)) : Option Snapshot) =
        if cs.any fun c => c.path.drivelike then none else some (Snapshot.capture id cs now)) := by
  refine ⟨fun h => ?_, fun h hcount hmoment hfiles => ?_, fun hmoment hcs => ?_⟩
  · have hproper : p.Proper := ⟨raw, h⟩
    exact ⟨hproper.parse_text, Json.path?_of_proper hproper, dotted_of_drivelike h⟩
  · exact checkChain_extended h hcount hmoment hfiles
  · exact ofBytes?_capture hmoment hcs

/-- A path that begins like a drive. -/
def drive : RelPath := ⟨["a:b"]⟩

theorem parse_drive : RelPath.parse "./a:b" = .ok drive := by decide

/-- A draft and a capture of that path. -/
def driveDraft : Draft := ⟨default, ⟨0, 1⟩, 1, 0, ["trailing-whitespace"], [drive], .success⟩

theorem read_back_drive :
    RelPath.parse "./a:b" = .ok drive ∧ RelPath.parse drive.text = .error (.absolute "a:b") ∧
      Json.path? (Json.ofPath drive) = none ∧
      checkChain (withLine ByteArray.empty (nextRecord ByteArray.empty driveDraft).encode) =
        .error (.chainBroken 1 Fault.unparseable.message) ∧
      (Stored.ofBytes? (Stored.page (Snapshot.capture default [⟨drive, some "x\n ", "x\n"⟩] ⟨0, 1⟩)) :
        Option Snapshot) = none := by
  have hproper : drive.Proper := ⟨_, parse_drive⟩
  have hstorable : Time.Storable ⟨0, 1⟩ := ⟨by decide, .inl (by decide)⟩
  have hempty : checkChain ByteArray.empty = .ok [] := @checkChain_written [] (by simp) trivial
  obtain ⟨hpath, hchain, hsnapshot⟩ := read_back "./a:b" drive ByteArray.empty [] driveDraft default
    [⟨drive, some "x\n ", "x\n"⟩] ⟨0, 1⟩
  refine ⟨parse_drive, (hpath parse_drive).1, (hpath parse_drive).2.1, ?_, ?_⟩
  · exact hchain hempty (by decide) hstorable (by simpa [driveDraft] using hproper)
  · refine hsnapshot hstorable fun c hc => ?_
    obtain rfl := List.mem_singleton.mp hc
    exact ⟨hproper, by decide⟩

end Mend.Ledger
