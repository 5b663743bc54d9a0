import Mend.Engine.Cycle
import Mend.Proofs.Ledger.SnapshotStore

/-!
# What a step does to a workspace

The stores of a workspace write below the state directory and nowhere else: a workspace stays as it was
outside of it (`Untouched`) while its trust, history, log and lock change, whether or not a store fails.

Other programs get their turn when a cycle pauses, and the tools are such programs. `Foreign` tells what
is asked of them: directories stay, no directory is put where a file is worked on, the state directory is left
alone, and no file gets a name that belongs to a temporary file.
-/

namespace Mend

open Fs Fs.Disk Ledger
open Action

/-! ## The state directory -/

namespace Ledger.Layout

variable {l : Layout} {d d' d'' : Disk}

/-- Where the state directory is. -/
def location (l : Layout) : Location := resolve [] l.root.location

/-- No file outside of the state directory differs. -/
def Outside (l : Layout) (d d' : Disk) : Prop := ∀ m, ¬ l.location <+: m → d'.fileAt m = d.fileAt m

theorem Outside.refl (l : Layout) (d : Disk) : l.Outside d d := fun _ _ => rfl

theorem Outside.trans (h : l.Outside d d') (h' : l.Outside d' d'') : l.Outside d d'' :=
  fun m hm => (h' m hm).trans (h m hm)

end Ledger.Layout

namespace Trust

theorem Store.file_of_open {p : Place} {d : Disk} {store : Store} (h : Store.open p d = .ok store) :
    store.file = some p := by
  rw [Store.open] at h
  split at h
  · cases h
  · split at h
    · rw [← Except.ok.inj h]
    · split at h
      · rw [← Except.ok.inj h]
      · cases h

/-- The table is kept here or in its file of the state directory, and no other file has changed. -/
def Confined (l : Layout) (d : Disk) (x : Session) : Prop :=
  (∀ p ∈ x.store.file, p = l.trust) ∧ l.Outside d x.disk

theorem keeps_commit {l : Layout} {d : Disk} (change : Table → Table) : Keeps (Confined l d) (commit change) := by
  rintro ⟨disk, file, table⟩ ⟨hfile, hsame⟩
  cases file with
  | none => exact ⟨hfile, hsame⟩
  | some p =>
    obtain rfl := hfile p rfl
    rw [commit, exec_ofFun]
    dsimp only
    refine ⟨hfile, hsame.trans ?_⟩
    intro m hm
    exact fileAt_atomicWrite_child (show RelPath.Name "trust.json" by decide) (Prod.ext rfl rfl) hm

theorem keeps_ensure {l : Layout} {d : Disk} (id : String) : Keeps (Confined l d) (ensure id) := by
  refine keeps_get.bind fun s => ?_
  split
  · exact keeps_pure _
  · exact keeps_commit _

theorem keeps_recordOutcome {l : Layout} {d : Disk} (id : String) (o : Outcome) (rate : Float) (now : Time) :
    Keeps (Confined l d) (recordOutcome id o rate now) :=
  (keeps_commit _).bind fun _ => keeps_get.bind fun _ => keeps_pure _

end Trust

namespace History

/-- The history is kept here or in its file of the state directory, and no other file has changed. -/
def Confined (l : Layout) (d : Disk) (x : Session) : Prop :=
  (∀ p, x.store = .file p → p = l.history) ∧ l.Outside d x.disk

/-- What a line in the file keeps of a disk is kept by entries. -/
theorem keeps_append_of {l : Layout} {R : Disk → Prop} (h : ∀ line, Keeps R (Ledger.appendLine l.history line))
    (entries : List Entry) :
    Keeps (fun x : Session => (∀ p, x.store = .file p → p = l.history) ∧ R x.disk) (append entries) := by
  rintro ⟨disk, store⟩ hx
  rw [append, exec_bind_ok (exec_get _)]
  cases store with
  | memory old => exact ⟨nofun, hx.2⟩
  | file p =>
    obtain rfl := hx.1 p rfl
    have hone (line : String) : Keeps (fun x : Session => (∀ p, x.store = .file p → p = l.history) ∧ R x.disk)
        ((Ledger.appendLine l.history line).zoom Session.disk fun d s => { s with disk := d }) := by
      intro x hx
      rw [exec_zoom]
      exact ⟨hx.1, h line x.disk hx.2⟩
    exact Keeps.forM (fun e _ => hone _) _ hx

theorem keeps_append {l : Layout} {d : Disk} (entries : List Entry) : Keeps (Confined l d) (append entries) := by
  refine keeps_append_of (fun line d' hd' => hd'.trans ?_) entries
  intro m hm
  exact fileAt_appendLine_child (show RelPath.Name "history.jsonl" by decide) (Prod.ext rfl rfl) hm

end History

namespace Attestation

/-- The log is kept here or in its file of the state directory, and no other file has changed. -/
def Confined (l : Layout) (d : Disk) (x : Session) : Prop :=
  (∀ p, x.store = .file p → p = l.attestations) ∧ l.Outside d x.disk

/-- What a line in the file keeps of a disk is kept by a record. -/
theorem keeps_record_of {l : Layout} {R : Disk → Prop} (h : ∀ line, Keeps R (Ledger.appendLine l.attestations line))
    (draft : Draft) :
    Keeps (fun x : Session => (∀ p, x.store = .file p → p = l.attestations) ∧ R x.disk) (record draft) := by
  have hline (line : String) :
      Keeps (fun x : Session => (∀ p, x.store = .file p → p = l.attestations) ∧ R x.disk) (appendLine line) := by
    rintro ⟨disk, store⟩ hx
    rw [appendLine, exec_bind_ok (exec_get _)]
    cases store with
    | memory log => exact ⟨nofun, hx.2⟩
    | file p =>
      obtain rfl := hx.1 p rfl
      dsimp only
      rw [exec_zoom]
      exact ⟨hx.1, h line disk hx.2⟩
  exact (keeps_query _).bind fun _ => (hline _).bind fun _ => keeps_pure _

theorem keeps_record {l : Layout} {d : Disk} (draft : Draft) : Keeps (Confined l d) (record draft) := by
  refine keeps_record_of (fun line d' hd' => hd'.trans ?_) draft
  intro m hm
  exact fileAt_appendLine_child (show RelPath.Name "attestations.jsonl" by decide) (Prod.ext rfl rfl) hm

end Attestation

namespace Snapshot

/-- Snapshots are kept here or in their directory below the state directory, and no other file has changed. -/
def Confined (l : Layout) (d : Disk) (x : Session) : Prop :=
  (∀ p, x.store = .directory p → p = l.snapshots) ∧ l.Outside d x.disk

theorem keeps_take {l : Layout} {d : Disk} (id : CycleId) (cs : List Capture) (r : Retention) (now : Time) :
    Keeps (Confined l d) (take id cs r now) := by
  rintro ⟨disk, store⟩ h
  cases hrun : (take id cs r now).exec ⟨disk, store⟩ with
  | mk res x =>
  cases store with
  | memory t lost =>
    obtain ⟨t', htake⟩ := disk_take_memory id cs r now disk t lost
    rw [htake] at hrun
    obtain ⟨-, rfl⟩ := Prod.mk.inj hrun
    exact ⟨nofun, h.2⟩
  | directory dir =>
    obtain rfl := h.1 dir rfl
    obtain ⟨hstore, hsame⟩ := @fileAt_take id cs r now _ _ l.snapshots _ rfl hrun
    refine ⟨?_, h.2.trans ?_⟩
    · rintro p hp
      exact (Store.directory.inj (hstore.symm.trans hp)).symm
    · intro m hm
      refine hsame m fun hbelow => hm ?_
      rw [Layout.snapshots, resolve_child (show RelPath.Name "snapshots" by decide)] at hbelow
      exact (List.prefix_append _ _).trans hbelow

end Snapshot

namespace Ledger

theorem disk_acquire (p : Place) (s : Locks) : ((acquire p).exec s).2.disk = ((openLock p).exec s.disk).2 := by
  have hrest : Keeps (fun t : Locks => t.disk = ((openLock p).exec s.disk).2)
      (do
        let s ← get
        let l ← Action.query fun (s : Locks) => at_ p (s.disk.locate p.location)
        if s.held.contains l then throw (.locked p)
        set { s with held := l :: s.held }
        return l : Action Locks Ledger.Error Location) := by
    intro t ht
    rw [exec_bind_ok (exec_get t), exec_bind, exec_query]
    cases at_ p (t.disk.locate p.location) with
    | error e => exact ht
    | ok l =>
      dsimp only
      split
      · exact ht
      · exact ht
  rw [acquire, exec_bind, exec_zoom]
  cases hopen : (openLock p).exec s.disk with
  | mk r d =>
    rw [hopen] at hrest
    cases r with
    | error e => rfl
    | ok => exact hrest ⟨d, s.held⟩ rfl

end Ledger

namespace Workspace

/-! ## Steps -/

/-- The stores are kept here, or in the state directory. -/
structure Placed (l : Layout) (w : Workspace) : Prop where
  trust : ∀ p ∈ w.trust.file, p = l.trust
  history : ∀ p, w.history = .file p → p = l.history
  attestations : ∀ p, w.attestations = .file p → p = l.attestations
  snapshots : ∀ p, w.snapshots = .directory p → p = l.snapshots

theorem placed_onDisk (l : Layout) (d : Disk) (held : List Location) : ({ onDisk l d with held := held }).Placed l where
  trust _ hp := (Option.some.inj hp).symm
  history _ hp := (History.Store.file.inj hp).symm
  attestations _ hp := (Attestation.Store.file.inj hp).symm
  snapshots _ hp := (Snapshot.Store.directory.inj hp).symm

/-- The stores stay where they are, and outside of the state directory no file has changed. -/
structure Untouched (l : Layout) (w₀ w : Workspace) : Prop where
  around : w.around = w₀.around
  placed : w.Placed l
  outside : l.Outside w₀.disk w.disk

variable {l : Layout} {w₀ w w' : Workspace} {α : Type}

theorem exec_onTrust (act : Action Trust.Session Ledger.Error α) (w : Workspace) :
    (onTrust act).exec w = ((act.exec ⟨w.disk, w.trust⟩).1.mapError Engine.Error.ledger,
      { w with
        disk := (act.exec ⟨w.disk, w.trust⟩).2.disk
        trust := (act.exec ⟨w.disk, w.trust⟩).2.store }) := by
  rw [onTrust, exec_zoom, exec_mapError]

theorem exec_onSnapshots (act : Action Snapshot.Session Ledger.Error α) (w : Workspace) :
    (onSnapshots act).exec w = ((act.exec ⟨w.disk, w.snapshots⟩).1.mapError Engine.Error.ledger,
      { w with
        disk := (act.exec ⟨w.disk, w.snapshots⟩).2.disk
        snapshots := (act.exec ⟨w.disk, w.snapshots⟩).2.store }) := by
  rw [onSnapshots, exec_zoom, exec_mapError]

theorem exec_onHistory (act : Action History.Session Ledger.Error α) (w : Workspace) :
    (onHistory act).exec w = ((act.exec ⟨w.disk, w.history⟩).1.mapError Engine.Error.ledger,
      { w with
        disk := (act.exec ⟨w.disk, w.history⟩).2.disk
        history := (act.exec ⟨w.disk, w.history⟩).2.store }) := by
  rw [onHistory, exec_zoom, exec_mapError]

theorem exec_onAttestations (act : Action Attestation.Session Ledger.Error α) (w : Workspace) :
    (onAttestations act).exec w = ((act.exec ⟨w.disk, w.attestations⟩).1.mapError Engine.Error.ledger,
      { w with
        disk := (act.exec ⟨w.disk, w.attestations⟩).2.disk
        attestations := (act.exec ⟨w.disk, w.attestations⟩).2.store }) := by
  rw [onAttestations, exec_zoom, exec_mapError]

theorem exec_onLocks (act : Action Ledger.Locks Ledger.Error α) (w : Workspace) :
    (onLocks act).exec w = ((act.exec ⟨w.disk, w.held⟩).1.mapError Engine.Error.ledger,
      { w with disk := (act.exec ⟨w.disk, w.held⟩).2.disk, held := (act.exec ⟨w.disk, w.held⟩).2.held }) := by
  rw [onLocks, exec_zoom, exec_mapError]

theorem exec_onFiles (act : DiskAction Engine.Error α) (w : Workspace) :
    (onFiles act).exec w = ((act.exec w.disk).1, { w with disk := (act.exec w.disk).2 }) := by
  rw [onFiles, exec_zoom]

/-- What others make of the workspace in a pause. -/
theorem exec_pause (p : Point) (w : Workspace) :
    (pause p).exec w = (.ok ⟨⟩, { w with
      disk := w.around.edit w.pauses p w.disk
      clock := w.clock + w.around.millis w.pauses p
      pauses := w.pauses + 1 }) := rfl

theorem keeps_onTrust {act : Action Trust.Session Ledger.Error α} (h : ∀ d, Keeps (Trust.Confined l d) act) :
    Keeps (Untouched l w₀) (onTrust act) := by
  intro w hw
  obtain ⟨hfile, hsame⟩ := h w.disk ⟨w.disk, w.trust⟩ ⟨hw.placed.trust, .refl l _⟩
  rw [exec_onTrust]
  exact ⟨hw.around, ⟨hfile, hw.placed.history, hw.placed.attestations, hw.placed.snapshots⟩, hw.outside.trans hsame⟩

theorem keeps_onHistory {act : Action History.Session Ledger.Error α} (h : ∀ d, Keeps (History.Confined l d) act) :
    Keeps (Untouched l w₀) (onHistory act) := by
  intro w hw
  obtain ⟨hfile, hsame⟩ := h w.disk ⟨w.disk, w.history⟩ ⟨hw.placed.history, .refl l _⟩
  rw [exec_onHistory]
  exact ⟨hw.around, ⟨hw.placed.trust, hfile, hw.placed.attestations, hw.placed.snapshots⟩, hw.outside.trans hsame⟩

theorem keeps_onAttestations {act : Action Attestation.Session Ledger.Error α}
    (h : ∀ d, Keeps (Attestation.Confined l d) act) : Keeps (Untouched l w₀) (onAttestations act) := by
  intro w hw
  obtain ⟨hfile, hsame⟩ := h w.disk ⟨w.disk, w.attestations⟩ ⟨hw.placed.attestations, .refl l _⟩
  rw [exec_onAttestations]
  exact ⟨hw.around, ⟨hw.placed.trust, hw.placed.history, hfile, hw.placed.snapshots⟩, hw.outside.trans hsame⟩

theorem keeps_onSnapshots {act : Action Snapshot.Session Ledger.Error α}
    (h : ∀ d, Keeps (Snapshot.Confined l d) act) : Keeps (Untouched l w₀) (onSnapshots act) := by
  intro w hw
  obtain ⟨hdir, hsame⟩ := h w.disk ⟨w.disk, w.snapshots⟩ ⟨hw.placed.snapshots, .refl l _⟩
  rw [exec_onSnapshots]
  exact ⟨hw.around, ⟨hw.placed.trust, hw.placed.history, hw.placed.attestations, hdir⟩, hw.outside.trans hsame⟩

theorem keeps_acquire : Keeps (Untouched l w₀) (onLocks (acquire l.lock)) := by
  intro w hw
  rw [exec_onLocks]
  refine ⟨hw.around, ⟨hw.placed.trust, hw.placed.history, hw.placed.attestations, hw.placed.snapshots⟩, hw.outside.trans ?_⟩
  intro m hm
  dsimp only
  rw [disk_acquire]
  exact fileAt_openLock_child (show RelPath.Name "cycle.lock" by decide) (Prod.ext rfl rfl) hm

theorem keeps_openTrust : Keeps (Untouched l w₀) openTrust := by
  intro w hw
  rw [openTrust, exec_bind_ok (exec_get w)]
  cases hfile : w.trust.file with
  | none => exact hw
  | some p =>
    dsimp only
    rw [exec_update]
    cases hopen : Trust.Store.open p w.disk with
    | error e => exact hw
    | ok store =>
      have hp := Trust.Store.file_of_open hopen
      refine ⟨hw.around, ⟨?_, hw.placed.history, hw.placed.attestations, hw.placed.snapshots⟩, hw.outside⟩
      intro q hq
      rw [hp] at hq
      exact hw.placed.trust q (hfile ▸ hq)

theorem keeps_learn (cycle : CycleId) (lessons : List Lesson) (delta : History.Delta) (rate : Float) (now : Time) :
    Keeps (Untouched l w₀) (Lesson.learn cycle lessons delta rate now) := by
  refine (keeps_onHistory fun d => History.keeps_append _).bind fun _ => ?_
  refine Keeps.mapM fun lesson _ => ?_
  exact (keeps_onTrust fun d => Trust.keeps_recordOutcome _ _ _ _).bind fun _ => keeps_pure _

end Workspace
end Mend
