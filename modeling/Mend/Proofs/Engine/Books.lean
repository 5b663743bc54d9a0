import Mend.Proofs.Engine.Surroundings
import Mend.Proofs.Ledger.Growth
import Mend.Proofs.Ledger.Spared

/-!
# The books of a workspace

The books are what the ledger holds: the stores of trust, history and attestations, and the files that they are kept in.
A store changes only its own part of them, as `Books.commit`, `Books.append` and `Books.attest` tell, and everything else
leaves them as they are, if nobody else touches these files (`Tended`).
-/

namespace Mend

open Fs Fs.Disk Ledger
open Action

/-- What the ledger of a workspace holds. -/
@[ext]
structure Books where
  trust : Trust.Store
  history : History.Store
  attestations : Attestation.Store
  /-- The file of the table of trust. -/
  page : Option ByteArray
  /-- The file of the history. -/
  past : Option ByteArray
  /-- The file of the attestation log. -/
  log : Option ByteArray

namespace Workspace

/-- What a file holds. -/
def fileAt (w : Workspace) (p : Place) : Option ByteArray := w.disk.fileAt (resolve [] p.location)

/-- What the ledger holds. -/
def books (w : Workspace) : Books where
  trust := w.trust
  history := w.history
  attestations := w.attestations
  page := w.trust.file.bind w.fileAt
  past := match w.history with
    | .memory _ => none
    | .file p => w.fileAt p
  log := match w.attestations with
    | .memory _ => none
    | .file p => w.fileAt p

end Workspace

namespace Books

/-- A part of the ledger is kept in the file. -/
def Booked (b : Books) (p : Place) : Prop :=
  b.trust.file = some p ∨ b.history = .file p ∨ b.attestations = .file p

/-- The location of a file of the ledger. -/
def Covers (b : Books) (m : Location) : Prop := ∃ p, b.Booked p ∧ m = resolve [] p.location

/-- The bytes of the attestation log. -/
def bytes (b : Books) : ByteArray :=
  match b.attestations with
  | .memory log => log
  | .file _ => b.log.getD ByteArray.empty

/-- The table of trust that a cycle starts with, if it can be read. -/
def table? (b : Books) : Option Trust.Table :=
  match b.trust.file with
  | none => some b.trust.table
  | some _ =>
    if (b.page.getD ByteArray.empty).size = 0 then some []
    else Stored.ofBytes? (b.page.getD ByteArray.empty)

/-! ## Changes -/

/-- The books with a table that was read. -/
def withTable (b : Books) (t : Trust.Table) : Books := { b with trust := { b.trust with table := t } }

/-- The books after a change of the table, which is written through. -/
def commit (b : Books) (change : Trust.Table → Trust.Table) : Books :=
  { b with
    trust := { b.trust with table := change b.trust.table }
    page := b.trust.file.bind fun _ => some (Stored.page (change b.trust.table)) }

/-- The books with more entries in the history. -/
def append (b : Books) (es : List History.Entry) : Books :=
  match b.history with
  | .memory old => { b with history := .memory (old ++ es) }
  | .file _ => { b with past := if es.isEmpty then b.past else some (History.withLines (b.past.getD ByteArray.empty) es) }

/-- The books with one more record. -/
def attest (b : Books) (d : Attestation.Draft) : Books :=
  match b.attestations with
  | .memory log => { b with attestations := .memory (withLine log (Attestation.nextRecord log d).encode) }
  | .file _ => { b with log := some (withLine b.bytes (Attestation.nextRecord b.bytes d).encode) }

variable {b : Books}

/-- Entries change nothing but the history. -/
theorem append_eq (es : List History.Entry) :
    b.append es = { b with history := (b.append es).history, past := (b.append es).past } := by
  rw [append]
  split <;> rfl

/-- A record changes nothing but the log. -/
theorem attest_eq (d : Attestation.Draft) :
    b.attest d = { b with attestations := (b.attest d).attestations, log := (b.attest d).log } := by
  rw [attest]
  split <;> rfl

variable {b' : Books}

theorem append_congr (h : b'.history = b.history) (hpast : b'.past = b.past) (es : List History.Entry) :
    (b'.append es).history = (b.append es).history ∧ (b'.append es).past = (b.append es).past := by
  rw [append, append, h]
  split
  · exact ⟨rfl, hpast⟩
  · exact ⟨rfl, by rw [hpast]⟩

theorem bytes_congr (h : b'.attestations = b.attestations) (hlog : b'.log = b.log) : b'.bytes = b.bytes := by
  rw [bytes, bytes, h, hlog]

theorem attest_congr (h : b'.attestations = b.attestations) (hlog : b'.log = b.log) (d : Attestation.Draft) :
    (b'.attest d).attestations = (b.attest d).attestations ∧ (b'.attest d).log = (b.attest d).log := by
  rw [attest, attest, bytes_congr h hlog, h]
  split
  · exact ⟨rfl, hlog⟩
  · exact ⟨rfl, rfl⟩

@[simp] theorem booked_withTable (t : Trust.Table) : (b.withTable t).Booked = b.Booked := rfl

@[simp] theorem booked_commit (change : Trust.Table → Trust.Table) : (b.commit change).Booked = b.Booked := rfl

@[simp] theorem booked_append (es : List History.Entry) : (b.append es).Booked = b.Booked := by
  funext p
  rw [append]
  split
  · next old hold => simp [Booked, hold]
  · rfl

@[simp] theorem booked_attest (d : Attestation.Draft) : (b.attest d).Booked = b.Booked := by
  funext p
  rw [attest]
  split
  · next log hlog => simp [Booked, hlog]
  · rfl

theorem append_file {p : Place} (h : b.history = .file p) (es : List History.Entry) : b.append es =
    { b with past := if es.isEmpty then b.past else some (History.withLines (b.past.getD ByteArray.empty) es) } := by
  rw [append, h]

theorem attest_memory {log : ByteArray} (h : b.attestations = .memory log) (d : Attestation.Draft) :
    b.attest d = { b with attestations := .memory (withLine log (Attestation.nextRecord b.bytes d).encode) } := by
  rw [attest, bytes, h]

theorem attest_file {p : Place} (h : b.attestations = .file p) (d : Attestation.Draft) :
    b.attest d = { b with log := some (withLine b.bytes (Attestation.nextRecord b.bytes d).encode) } := by
  rw [attest, h]

theorem bytes_attest (d : Attestation.Draft) :
    (b.attest d).bytes = withLine b.bytes (Attestation.nextRecord b.bytes d).encode := by
  rw [attest]
  split
  · next log hlog => simp only [bytes, hlog]
  · next p hp =>
    rw [bytes]
    simp only [hp, Option.getD_some]

end Books

namespace Workspace

variable {l : Layout} {w w' : Workspace}

/-- The files of the ledger are in the state directory, and have names of their own. -/
theorem Placed.covers (h : w.Placed l) {m : Location} (hm : w.books.Covers m) :
    m = l.location ++ ["trust.json"] ∨ m = l.location ++ ["history.jsonl"] ∨
      m = l.location ++ ["attestations.jsonl"] := by
  obtain ⟨p, hp | hp | hp, rfl⟩ := hm
  · obtain rfl := h.trust p hp
    exact .inl (resolve_child (by decide))
  · obtain rfl := h.history p hp
    exact .inr (.inl (resolve_child (by decide)))
  · obtain rfl := h.attestations p hp
    exact .inr (.inr (resolve_child (by decide)))

theorem Placed.lasting (h : w.Placed l) : Lasting w.books.Covers := by
  intro m name hm
  have hlast {s : String} (hs : s.toList.getLast? ≠ some 'p') : m ++ [name ++ temporarySuffix] ≠ l.location ++ [s] := by
    intro e
    exact Snapshot.append_temporarySuffix_ne_of_getLast hs name (by simpa using congrArg List.getLast? e)
  rcases h.covers hm with heq | heq | heq
  · exact hlast (by decide) heq
  · exact hlast (by decide) heq
  · exact hlast (by decide) heq

theorem Placed.not_covers_snapshot (h : w.Placed l) (s : String) :
    ¬ w.books.Covers (resolve [] l.snapshots.location ++ [s]) := by
  intro hm
  have hlength {name : String} : resolve [] l.snapshots.location ++ [s] ≠ l.location ++ [name] := by
    rw [Layout.snapshots, resolve_child (by decide)]
    intro e
    have hlength := congrArg List.length e
    simp [Layout.location] at hlength
  rcases h.covers hm with heq | heq | heq
  · exact hlength heq
  · exact hlength heq
  · exact hlength heq

theorem Placed.not_covers_lock (h : w.Placed l) : ¬ w.books.Covers (resolve [] l.lock.location) := by
  intro hm
  rw [Layout.lock, resolve_child (by decide)] at hm
  rcases h.covers hm with heq | heq | heq
  · exact absurd (List.append_cancel_left heq) (by decide)
  · exact absurd (List.append_cancel_left heq) (by decide)
  · exact absurd (List.append_cancel_left heq) (by decide)

theorem page_congr (h : w'.trust.file = w.trust.file) (hfiles : ∀ p, w.trust.file = some p → w'.fileAt p = w.fileAt p) :
    w'.books.page = w.books.page := by
  show w'.trust.file.bind w'.fileAt = w.trust.file.bind w.fileAt
  rw [h]
  cases hfile : w.trust.file with
  | none => rfl
  | some p => exact hfiles p hfile

theorem past_congr (h : w'.history = w.history) (hfiles : ∀ p, w.history = .file p → w'.fileAt p = w.fileAt p) :
    w'.books.past = w.books.past := by
  simp only [books, h]
  cases hstore : w.history with
  | memory old => rfl
  | file p => exact hfiles p hstore

theorem log_congr (h : w'.attestations = w.attestations)
    (hfiles : ∀ p, w.attestations = .file p → w'.fileAt p = w.fileAt p) : w'.books.log = w.books.log := by
  simp only [books, h]
  cases hstore : w.attestations with
  | memory log => rfl
  | file p => exact hfiles p hstore

theorem books_congr (htrust : w'.trust = w.trust) (hhistory : w'.history = w.history)
    (hattestations : w'.attestations = w.attestations)
    (hfiles : ∀ p, w.books.Booked p → w'.fileAt p = w.fileAt p) : w'.books = w.books :=
  Books.ext htrust hhistory hattestations
    (page_congr (congrArg _ htrust) fun p hp => hfiles p (.inl hp))
    (past_congr hhistory fun p hp => hfiles p (.inr (.inl hp)))
    (log_congr hattestations fun p hp => hfiles p (.inr (.inr hp)))

end Workspace

/-! ## Books that nobody else touches -/

namespace Engine

variable {e : Engine} {b : Books} {d d' : Disk} {w w' : Workspace}

/-- What others may do to a disk without touching the books: the files of the ledger hold what they held, and the state
directory stays. There is nothing to touch if no part of the ledger is kept in a file. -/
structure Leaves (e : Engine) (b : Books) (d d' : Disk) : Prop where
  files : ∀ p, b.Booked p → d'.fileAt (resolve [] p.location) = d.fileAt (resolve [] p.location)
  there : (∃ p, b.Booked p) → e.layout.There d → e.layout.There d'

theorem leaves_of_spares (h : Spares b.Covers d d') : e.Leaves b d d' where
  files p hp := h.files _ ⟨p, hp, rfl⟩
  there _ hthere := hthere.mono h.dirs

/-- What the books of a workspace are while a cycle holds the lock. Others leave them alone. -/
structure Tended (e : Engine) (b : Books) (w : Workspace) : Prop where
  books : w.books = b
  placed : w.Placed e.layout
  there : (∃ p, b.Booked p) → e.layout.There w.disk
  edits : ∀ n p d, e.Leaves b d (w.around.edit n p d)

/-- Steps that change no store and no file of the ledger. -/
theorem Tended.congr (h : e.Tended b w) (hleaves : e.Leaves b w.disk w'.disk) (htrust : w'.trust = w.trust)
    (hhistory : w'.history = w.history) (hattestations : w'.attestations = w.attestations)
    (hsnapshots : ∀ p, w'.snapshots = .directory p → p = e.layout.snapshots) (haround : w'.around = w.around) :
    e.Tended b w' where
  books := by
    rw [Workspace.books_congr htrust hhistory hattestations fun p hp => hleaves.files p (h.books ▸ hp), h.books]
  placed := ⟨htrust ▸ h.placed.trust, hhistory ▸ h.placed.history, hattestations ▸ h.placed.attestations, hsnapshots⟩
  there hbooked := hleaves.there hbooked (h.there hbooked)
  edits := haround ▸ h.edits

theorem Tended.disk (h : e.Tended b w) (hleaves : e.Leaves b w.disk d') : e.Tended b { w with disk := d' } :=
  h.congr hleaves rfl rfl rfl h.placed.snapshots rfl

/-- A change of the books. -/
theorem Tended.become {b' : Books} (h : e.Tended b w) (hbooks : w'.books = b') (hbooked : b'.Booked = b.Booked)
    (hplaced : w'.Placed e.layout) (hdirs : ∀ m, w.disk.node? m = some .dir → w'.disk.node? m = some .dir)
    (haround : w'.around = w.around) : e.Tended b' w' where
  books := hbooks
  placed := hplaced
  there := by
    rw [hbooked]
    exact fun hkept => (h.there hkept).mono hdirs
  edits n p d := by
    obtain ⟨hfiles, hthere⟩ := h.edits n p d
    rw [haround]
    exact ⟨by rwa [hbooked], by rwa [hbooked]⟩

theorem Tended.lasting (h : e.Tended b w) : Lasting b.Covers := h.books ▸ h.placed.lasting

theorem keeps_pause_tended (p : Point) : Keeps (e.Tended b) (Workspace.pause p) := by
  intro w h
  exact h.congr (h.edits w.pauses p w.disk) rfl rfl rfl h.placed.snapshots rfl

/-! ## Stores -/

theorem readOrEmpty_child {l : Layout} (h : l.There d) {name : String} (hname : RelPath.Name name)
    (hshort : name.utf8ByteSize ≤ maxName) {content : ByteArray}
    (hread : readOrEmpty (l.root.child name) d = .ok content) :
    content = (d.fileAt (resolve [] (l.root.child name).location)).getD ByteArray.empty := by
  by_cases hpath : Acceptable (l.root.child name).location
  · have hfollow := (locate_eq_ok_iff.mp h.locate).2
    have hlocate : d.locate (l.root.child name).location = .ok (l.location ++ [name]) := by
      refine locate_eq_ok_iff.mpr ⟨hpath, ?_⟩
      rw [Place.child, follow_append_of_dir hfollow h.dir]
      exact follow_name h.dir hname hshort
    rw [resolve_child hname]
    rw [readOrEmpty, read_of_locate hlocate] at hread
    show content = (d.fileAt (l.location ++ [name])).getD ByteArray.empty
    rw [fileAt]
    cases hnode : d.node? (l.location ++ [name]) with
    | none =>
      rw [hnode] at hread
      exact (Except.ok.inj hread).symm
    | some n =>
      cases n with
      | dir => rw [hnode] at hread; cases hread
      | file old mode =>
        rw [hnode] at hread
        exact (Except.ok.inj hread).symm
  · -- the system does not take the path at all
    rw [readOrEmpty, Disk.read, Disk.find, Disk.reach] at hread
    split_ifs at hread with hnul hlong
    exact absurd ⟨by simpa using hnul, by omega⟩ hpath

/-! ### The lock -/

theorem openLock_of_acquire {p : Place} {s s' : Locks} {k : Location} (h : (acquire p).exec s = (.ok k, s')) :
    (openLock p).exec s.disk = (.ok (), s'.disk) := by
  have hdisk := disk_acquire p s
  rw [h] at hdisk
  rcases hopen : (openLock p).exec s.disk with ⟨cause | ⟨⟩, d⟩
  · rw [acquire, exec_bind_error (e := cause) (t := ⟨d, s.held⟩) (by rw [exec_zoom, hopen])] at h
    cases (Prod.mk.inj h).1
  · rw [hopen] at hdisk
    exact congrArg _ hdisk.symm

/-- Where a lock could be opened the state directory is. -/
theorem there_of_openLock {l : Layout} (h : (openLock l.lock).exec d = (.ok (), d')) : l.There d' := by
  obtain ⟨d₁, content, mode, -, hslot, hview⟩ := openLock_ok h
  exact (Layout.there_of_slot hslot).mono fun m => dirs_of_update hslot.not_dir hview

/-- Once a cycle has the lock the books are tended. -/
theorem yields_acquire_tended :
    Yields (fun w : Workspace => w.books = b ∧ w.Placed e.layout ∧ ∀ n p d, e.Leaves b d (w.around.edit n p d))
      (Workspace.onLocks (acquire e.layout.lock)) fun _ => e.Tended b := by
  rintro w k w' ⟨rfl, hplaced, hedits⟩ hrun
  rw [Workspace.exec_onLocks] at hrun
  rcases hacquire : (acquire e.layout.lock).exec ⟨w.disk, w.held⟩ with ⟨r, s⟩
  rw [hacquire] at hrun
  obtain ⟨hok, rfl⟩ := Prod.mk.inj hrun
  obtain rfl := ok_of_mapError hok
  have hopen := openLock_of_acquire hacquire
  have hspares : Spares w.books.Covers w.disk s.disk := by
    have hkept := keeps_openLock hplaced.not_covers_lock w.disk (.refl w.books.Covers w.disk)
    rwa [hopen] at hkept
  exact ⟨Workspace.books_congr rfl rfl rfl fun p hp => hspares.files _ ⟨p, hp, rfl⟩,
    ⟨hplaced.trust, hplaced.history, hplaced.attestations, hplaced.snapshots⟩, fun _ => there_of_openLock hopen, hedits⟩

/-! ### Writing one of the files -/

/-- A file of the ledger has a name in the state directory. -/
theorem Tended.child (h : e.Tended b w) {p : Place} (hp : b.Booked p) :
    ∃ name, RelPath.Name name ∧ p = e.layout.root.child name := by
  obtain rfl := h.books
  rcases hp with hp | hp | hp
  · exact ⟨_, by decide, h.placed.trust p hp⟩
  · exact ⟨_, by decide, h.placed.history p hp⟩
  · exact ⟨_, by decide, h.placed.attestations p hp⟩

/-- The other files of the ledger hold what they held. -/
theorem Tended.spared (h : e.Tended b w) {p : Place} (hp : b.Booked p)
    (hspares : ∀ L : Location → Prop, Lasting L → ¬ L (resolve [] p.location) → Spares L w.disk d) :
    (∀ m, w.disk.node? m = some .dir → d.node? m = some .dir) ∧
      ∀ q, b.Booked q → q ≠ p → d.fileAt (resolve [] q.location) = w.disk.fileAt (resolve [] q.location) := by
  have hothers := hspares (fun m => b.Covers m ∧ m ≠ resolve [] p.location) (fun m name hm => h.lasting m name hm.1)
    fun hm => hm.2 rfl
  refine ⟨hothers.dirs, fun q hq hne => hothers.files _ ⟨⟨q, hq, rfl⟩, fun heq => hne ?_⟩⟩
  obtain ⟨s, hs, rfl⟩ := h.child hp
  obtain ⟨t, ht, rfl⟩ := h.child hq
  rw [resolve_child hs, resolve_child ht] at heq
  obtain rfl : t = s := by simpa using heq
  rfl

theorem child_ne {root : Place} {s t : String} (h : s ≠ t) : root.child s ≠ root.child t := fun heq =>
  h (by simpa [Place.child] using congrArg Place.location heq)

/-! ### Trust -/

/-- What is read of a store of trust that is kept in a file. -/
theorem table?_of_open {p : Place} {store : Trust.Store} (hfile : b.trust.file = some p)
    (hread : ∀ content, readOrEmpty p d = .ok content → content = b.page.getD ByteArray.empty)
    (hopen : Trust.Store.open p d = .ok store) : ∃ t, b.table? = some t ∧ store = ⟨some p, t⟩ := by
  rw [Trust.Store.open] at hopen
  cases hcontent : readOrEmpty p d with
  | error cause => rw [hcontent] at hopen; cases hopen
  | ok content =>
  obtain rfl := hread content hcontent
  rw [hcontent] at hopen
  dsimp only at hopen
  rw [Books.table?, hfile]
  dsimp only
  split
  · next hempty =>
    rw [if_pos hempty] at hopen
    exact ⟨[], rfl, (Except.ok.inj hopen).symm⟩
  · next hempty =>
    rw [if_neg hempty] at hopen
    split at hopen
    · next t ht => exact ⟨t, ht, (Except.ok.inj hopen).symm⟩
    · cases hopen

/-- A table that is kept in a file is read from there. -/
theorem yields_openTrust : Yields (e.Tended b) Workspace.openTrust fun _ w =>
    ∃ t, b.table? = some t ∧ e.Tended (b.withTable t) w := by
  rintro w ⟨⟩ w' h hrun
  obtain rfl := h.books
  rw [Workspace.openTrust, exec_bind_ok (exec_get w)] at hrun
  cases hfile : w.trust.file with
  | none =>
    rw [hfile] at hrun
    obtain ⟨-, rfl⟩ := Prod.mk.inj hrun
    have htable : w.books.table? = some w.trust.table := by
      rw [Books.table?, show w.books.trust.file = none from hfile]
      rfl
    exact ⟨_, htable, h⟩
  | some p =>
    obtain rfl := h.placed.trust p hfile
    rw [hfile] at hrun
    dsimp only at hrun
    rw [exec_update] at hrun
    cases hopen : Trust.Store.open e.layout.trust w.disk with
    | error cause =>
      rw [hopen] at hrun
      cases (Prod.mk.inj hrun).1
    | ok store =>
    rw [hopen] at hrun
    obtain ⟨-, rfl⟩ := Prod.mk.inj hrun
    have hpage : w.books.page = w.disk.fileAt (resolve [] e.layout.trust.location) := by
      show w.trust.file.bind w.fileAt = _
      rw [hfile]
      rfl
    obtain ⟨t, htable, rfl⟩ := table?_of_open (b := w.books) hfile (fun content hread => by
      rw [hpage]
      exact readOrEmpty_child (h.there ⟨_, .inl hfile⟩) (by decide) (by decide) hread) hopen
    refine ⟨t, htable, h.become ?_ rfl ⟨?_, h.placed.history, h.placed.attestations, h.placed.snapshots⟩
      (fun _ hm => hm) rfl⟩
    · obtain ⟨disk, held, ⟨file, table⟩, rest⟩ := w
      obtain rfl : file = some e.layout.trust := hfile
      rfl
    · rintro p hp
      exact (Option.some.inj hp).symm

/-- A change of the table is written through. -/
theorem yields_commit_tended (change : Trust.Table → Trust.Table) :
    Yields (e.Tended b) (Workspace.onTrust (Trust.commit change)) fun _ => e.Tended (b.commit change) := by
  rintro w ⟨⟩ w' h hrun
  obtain rfl := h.books
  rw [Workspace.exec_onTrust] at hrun
  cases hfile : w.trust.file with
  | none =>
    have hcommit : (Trust.commit change).exec ⟨w.disk, w.trust⟩ =
        (.ok (), ⟨w.disk, { w.trust with table := change w.trust.table }⟩) := by
      rw [Trust.commit, exec_ofFun, hfile]
    rw [hcommit] at hrun
    obtain ⟨-, rfl⟩ := Prod.mk.inj hrun
    refine h.become ?_ rfl ⟨h.placed.trust, h.placed.history, h.placed.attestations, h.placed.snapshots⟩
      (fun _ hm => hm) rfl
    simp only [Books.commit, Workspace.books, hfile]
    rfl
  | some p =>
    obtain rfl := h.placed.trust p hfile
    rcases hwrite : (atomicWrite e.layout.trust (Stored.page (change w.trust.table))).exec w.disk with ⟨r, d⟩
    have hcommit : (Trust.commit change).exec ⟨w.disk, w.trust⟩ =
        (r, ⟨d, { w.trust with table := change w.trust.table }⟩) := by
      rw [Trust.commit, exec_ofFun, hfile]
      simp only [hwrite]
    rw [hcommit] at hrun
    obtain ⟨hok, rfl⟩ := Prod.mk.inj hrun
    obtain rfl := ok_of_mapError hok
    have hpage := fileAt_of_atomicWrite hwrite
    obtain ⟨hdirs, hother⟩ := h.spared (d := d) (.inl hfile) fun L hlasting hp => by
      have hkept := keeps_atomicWrite (hlasting.avoids hp) (Stored.page (change w.trust.table)) w.disk (.refl L _)
      rwa [hwrite] at hkept
    refine h.become ?_ rfl ⟨h.placed.trust, h.placed.history, h.placed.attestations, h.placed.snapshots⟩ hdirs rfl
    refine Books.ext rfl rfl rfl ?_ ?_ ?_
    · simp only [Books.commit, Workspace.books, Workspace.fileAt, hfile, Option.bind_some, hpage]
    · exact Workspace.past_congr rfl fun q hq =>
        hother q (.inr (.inl hq)) (h.placed.history q hq ▸ child_ne (by decide))
    · exact Workspace.log_congr rfl fun q hq =>
        hother q (.inr (.inr hq)) (h.placed.attestations q hq ▸ child_ne (by decide))

/-! ### History -/

/-- Lines are added one after the other. -/
theorem exec_append_file {p : Place} {es : List History.Entry} {x : History.Session}
    (h : (es.forM fun entry => (Ledger.appendLine p (Stored.line entry)).zoom History.Session.disk
      fun d s => { s with disk := d }).exec ⟨d, .file p⟩ = (.ok ⟨⟩, x)) :
    x = ⟨x.disk, .file p⟩ ∧ (∀ L : Location → Prop, ¬ L (resolve [] p.location) → Spares L d x.disk) ∧
      x.disk.fileAt (resolve [] p.location) = if es.isEmpty then d.fileAt (resolve [] p.location)
        else some (History.withLines ((d.fileAt (resolve [] p.location)).getD ByteArray.empty) es) := by
  induction es generalizing d with
  | nil =>
    obtain rfl := (Prod.mk.inj h).2
    exact ⟨rfl, fun L _ => .refl L d, rfl⟩
  | cons entry es ih =>
    rw [forM_cons, exec_bind, exec_zoom] at h
    rcases hline : (Ledger.appendLine p (Stored.line entry)).exec d with ⟨cause | ⟨⟩, d₁⟩
    · rw [hline] at h
      cases (Prod.mk.inj h).1
    rw [hline] at h
    obtain ⟨hstore, hspares, hcontent⟩ := ih h
    have hadded := fileAt_of_appendLine hline
    refine ⟨hstore, fun L hL => ?_, ?_⟩
    · have hkept : Keeps (Spares L d) (Ledger.appendLine p (Stored.line entry)) := keeps_appendLine hL _
      have hfirst := hkept d (.refl L d)
      rw [hline] at hfirst
      exact hfirst.trans (hspares L hL)
    · rw [hcontent, hadded, Option.getD_some, List.isEmpty_cons, if_neg Bool.false_ne_true]
      cases es with
      | nil => rfl
      | cons next rest => rfl

/-- Entries are appended to the history. -/
theorem yields_append_tended (es : List History.Entry) :
    Yields (e.Tended b) (Workspace.onHistory (History.append es)) fun _ => e.Tended (b.append es) := by
  rintro w ⟨⟩ w' h hrun
  obtain rfl := h.books
  rw [Workspace.exec_onHistory, History.append, exec_bind_ok (exec_get _)] at hrun
  cases hstore : w.history with
  | memory old =>
    rw [hstore] at hrun
    obtain ⟨-, rfl⟩ := Prod.mk.inj hrun
    refine h.become ?_ (Books.booked_append es)
      ⟨h.placed.trust, fun q hq => ?_, h.placed.attestations, h.placed.snapshots⟩ (fun _ hm => hm) rfl
    · simp only [Books.append, Workspace.books, hstore]
      rfl
    · cases hq
  | file p =>
    obtain rfl := h.placed.history p hstore
    rw [hstore] at hrun
    dsimp only at hrun
    rcases happend : (es.forM fun entry => (Ledger.appendLine e.layout.history (Stored.line entry)).zoom
      History.Session.disk fun d s => { s with disk := d }).exec ⟨w.disk, .file e.layout.history⟩ with ⟨r, x⟩
    rw [happend] at hrun
    obtain ⟨hok, rfl⟩ := Prod.mk.inj hrun
    obtain rfl := ok_of_mapError hok
    obtain ⟨hx, hspares, hcontent⟩ := exec_append_file happend
    obtain ⟨hdirs, hother⟩ := h.spared (.inr (.inl hstore)) fun L _ hp => hspares L hp
    refine h.become ?_ (Books.booked_append es) ⟨h.placed.trust, fun q hq => ?_, h.placed.attestations,
      h.placed.snapshots⟩ hdirs rfl
    · have hstore' : w.books.history = .file e.layout.history := hstore
      rw [Books.append_file hstore', hx]
      refine Books.ext rfl hstore.symm rfl ?_ ?_ ?_
      · exact Workspace.page_congr rfl fun q hq => hother q (.inl hq) (h.placed.trust q hq ▸ child_ne (by decide))
      · simp only [Workspace.books, Workspace.fileAt, hstore, hcontent]
      · exact Workspace.log_congr rfl fun q hq =>
          hother q (.inr (.inr hq)) (h.placed.attestations q hq ▸ child_ne (by decide))
    · rw [hx] at hq
      exact (History.Store.file.inj hq).symm

/-! ### Attestations -/

/-- The log is read as it is. -/
theorem Tended.raw (h : e.Tended b w) {log : ByteArray}
    (hraw : Attestation.Session.raw ⟨w.disk, w.attestations⟩ = .ok log) : log = b.bytes := by
  obtain rfl := h.books
  rw [Attestation.Session.raw] at hraw
  dsimp only at hraw
  rw [Books.bytes, show w.books.attestations = w.attestations from rfl]
  cases hstore : w.attestations with
  | memory old =>
    rw [hstore] at hraw
    exact (Except.ok.inj hraw).symm
  | file p =>
    have hplace := h.placed.attestations p hstore
    subst hplace
    rw [hstore] at hraw
    have hlog : w.books.log = w.disk.fileAt (resolve [] e.layout.attestations.location) := by
      simp only [Workspace.books, hstore, Workspace.fileAt]
    dsimp only
    rw [hlog]
    exact readOrEmpty_child (h.there ⟨_, .inr (.inr hstore)⟩) (by decide) (by decide) hraw

/-- A record that is made is the next one, and follows the others. -/
theorem yields_record_tended (draft : Attestation.Draft) :
    Yields (e.Tended b) (Workspace.onAttestations (Attestation.record draft)) fun r w =>
      r = Attestation.nextRecord b.bytes draft ∧ e.Tended (b.attest draft) w := by
  rintro w r w' h hrun
  rw [Workspace.exec_onAttestations, Attestation.record, exec_bind, exec_query] at hrun
  cases hraw : Attestation.Session.raw ⟨w.disk, w.attestations⟩ with
  | error cause =>
    rw [hraw] at hrun
    cases (Prod.mk.inj hrun).1
  | ok log =>
  rw [hraw] at hrun
  obtain rfl := h.raw hraw
  obtain rfl := h.books
  dsimp only at hrun
  -- what the record looks like does not matter
  generalize hrecord : Attestation.nextRecord w.books.bytes draft = record at hrun ⊢
  rw [exec_bind, Attestation.appendLine, exec_bind_ok (exec_get _)] at hrun
  cases hstore : w.attestations with
  | memory old =>
    rw [hstore] at hrun
    obtain ⟨hok, rfl⟩ := Prod.mk.inj hrun
    refine ⟨(Except.ok.inj hok).symm, h.become ?_ (Books.booked_attest draft)
      ⟨h.placed.trust, h.placed.history, fun q hq => ?_, h.placed.snapshots⟩ (fun _ hm => hm) rfl⟩
    · have hstore' : w.books.attestations = .memory old := hstore
      rw [Books.attest_memory hstore', hrecord]
      refine Books.ext rfl rfl rfl rfl rfl ?_
      simp only [Workspace.books, hstore]
      rfl
    · cases hq
  | file p =>
    obtain rfl := h.placed.attestations p hstore
    rw [hstore] at hrun
    dsimp only at hrun
    rw [exec_zoom] at hrun
    dsimp only at hrun
    rcases hline : (Ledger.appendLine e.layout.attestations record.encode).exec w.disk with ⟨cause | ⟨⟩, d⟩
    · rw [hline] at hrun
      cases (Prod.mk.inj hrun).1
    rw [hline] at hrun
    obtain ⟨hok, rfl⟩ := Prod.mk.inj hrun
    have hadded := fileAt_of_appendLine hline
    obtain ⟨hdirs, hother⟩ := h.spared (d := d) (.inr (.inr hstore)) fun L _ hp => by
      have hkept := keeps_appendLine hp record.encode w.disk (.refl L _)
      rwa [hline] at hkept
    refine ⟨(Except.ok.inj hok).symm, h.become ?_ (Books.booked_attest draft)
      ⟨h.placed.trust, h.placed.history, ?_, h.placed.snapshots⟩ hdirs rfl⟩
    · have hstore' : w.books.attestations = .file e.layout.attestations := hstore
      rw [Books.attest_file hstore', hrecord]
      refine Books.ext rfl rfl hstore.symm ?_ ?_ ?_
      · exact Workspace.page_congr rfl fun q hq => hother q (.inl hq) (h.placed.trust q hq ▸ child_ne (by decide))
      · exact Workspace.past_congr rfl fun q hq =>
          hother q (.inr (.inl hq)) (h.placed.history q hq ▸ child_ne (by decide))
      · have hbytes : w.books.bytes = (w.disk.fileAt (resolve [] e.layout.attestations.location)).getD ByteArray.empty := by
          simp only [Books.bytes, Workspace.books, hstore, Workspace.fileAt]
        rw [hbytes, ← hadded]
        rfl
    · rintro q hq
      exact (Attestation.Store.file.inj hq).symm

end Engine
end Mend
