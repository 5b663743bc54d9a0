import Mend.Proofs.Ledger.Planning
import Mend.Proofs.Ledger.SnapshotStore

/-!
# Files that are left alone

What the ledger writes is a file and the temporary file beside it. Whatever comes of a write, directories stay and other
files hold what they held (`Spares`). So does what stores, prunes and restores snapshots, as long as the files that are
looked at are not among those (`keeps_take_spares`, `keeps_restore`).
-/

namespace Mend.Ledger

open Fs Fs.Disk
open Action
open Function (update)

/-- Directories stay, and the files at some locations hold what they held. -/
structure Spares (L : Location → Prop) (d d' : Disk) : Prop where
  dirs : ∀ m, d.node? m = some .dir → d'.node? m = some .dir
  files : ∀ m, L m → d'.fileAt m = d.fileAt m

/-- None of the locations is one of a temporary file. -/
def Lasting (L : Location → Prop) : Prop := ∀ m name, ¬ L (m ++ [name ++ temporarySuffix])

/-- None of the locations is that of the file at the place, or of the temporary file beside it. -/
structure Avoids (L : Location → Prop) (p : Place) : Prop where
  file : ¬ L (resolve [] p.location)
  beside : ¬ L (resolve [] (temporary p).location)

variable {L : Location → Prop} {d₀ d d' d'' : Disk} {p : Place}

theorem Spares.refl (L : Location → Prop) (d : Disk) : Spares L d d := ⟨fun _ h => h, fun _ _ => rfl⟩

theorem Spares.trans (h : Spares L d d') (h' : Spares L d' d'') : Spares L d d'' where
  dirs m hm := h'.dirs m (h.dirs m hm)
  files m hm := (h'.files m hm).trans (h.files m hm)

theorem spares_of_grown (h : Grown d d') : Spares L d d' := ⟨fun _ => h.dir, fun _ _ => h.fileAt _⟩

/-- A file came or went at another location. -/
theorem spares_of_update {l : Location} {n : Option Node} (hl : ¬ L l) (hleaf : d.node? l ≠ some .dir)
    (hview : d'.node? = update d.node? l n) : Spares L d d' where
  dirs _ := dirs_of_update hleaf hview
  files _ hm := fileAt_of_update hview fun e => hl (e ▸ hm)

/-- Temporary files have names of their own. -/
theorem resolve_temporary (p : Place) :
    ∃ m name, resolve [] (temporary p).location = m ++ [name ++ temporarySuffix] := by
  rw [temporary, Place.suffixed]
  split
  · next name _ => exact ⟨_, name, resolve_child (temporary_name name)⟩
  · have hname := temporary_name ""
    rw [String.empty_append] at hname
    exact ⟨resolve [] p.location, "", by rw [resolve_child hname, String.empty_append]⟩

theorem Lasting.avoids (h : Lasting L) (hp : ¬ L (resolve [] p.location)) : Avoids L p := by
  refine ⟨hp, ?_⟩
  obtain ⟨m, name, hname⟩ := resolve_temporary p
  rw [hname]
  exact h m name

/-- Of a file in a directory, both are in the directory. -/
theorem avoids_child {dir : Place} (hdir : ∀ s, ¬ L (resolve [] dir.location ++ [s])) {name : String}
    (hname : name ≠ "" ∧ name ≠ "." ∧ name ≠ "..") : Avoids L (dir.child name) := by
  refine ⟨?_, ?_⟩
  · rw [resolve_child hname]
    exact hdir _
  · rw [resolve_temporary_child hname]
    exact hdir _

/-! ## Writing -/

theorem keeps_makeParent (p : Place) : Keeps (Spares L d₀) (makeParent p) := by
  intro d hd
  rcases hrun : (makeParent p).exec d with ⟨r, d'⟩
  obtain rfl := disk_makeParent hrun
  exact hd.trans (spares_of_grown (grown_mkdirs d _))

theorem keeps_atomicWrite (hp : Avoids L p) (content : ByteArray) :
    Keeps (Spares L d₀) (atomicWrite p content) := by
  intro d hd
  rcases hrun : (atomicWrite p content).exec d with ⟨r, d'⟩
  obtain ⟨d₁, hgrown, hcase⟩ := atomicWrite_cases hrun
  have h₁ : Spares L d₀ d₁ := hd.trans (spares_of_grown hgrown)
  have htemporary {l : Location} (hl : Slot d₁ (temporary p).location l) : ¬ L l := by
    rw [locate_eq_resolve hl.locate]
    exact hp.beside
  rcases hcase with ⟨-, rfl⟩ | ⟨-, mode, hreplace⟩
  · exact h₁
  rcases replace_cases hreplace with ⟨-, l, k, new, hl, hk, -, hview⟩ | ⟨-, rfl | ⟨l, n, hl, hview⟩⟩
  · have hkL : ¬ L k := by
      rw [locate_eq_resolve hk.locate]
      exact hp.file
    refine h₁.trans ⟨fun m => dirs_of_move hl.not_dir hk.not_dir hview, fun m hm => ?_⟩
    have hmk : m ≠ k := fun e => hkL (e ▸ hm)
    have hml : m ≠ l := fun e => htemporary hl (e ▸ hm)
    exact fileAt_congr (by rw [hview, Function.update_of_ne hmk, Function.update_of_ne hml])
  · exact h₁
  · exact h₁.trans (spares_of_update (htemporary hl) hl.not_dir hview)

theorem keeps_appendLine (hp : ¬ L (resolve [] p.location)) (line : String) :
    Keeps (Spares L d₀) (appendLine p line) := by
  refine (keeps_makeParent p).bind fun _ d₁ h₁ => ?_
  rw [exec_update]
  cases hchange : (do
      let d ← d₁.touch p.location
      let log ← d.read p.location
      d.write p.location (withLine log line)) with
  | error e => exact h₁
  | ok d₃ =>
    obtain ⟨d₂, htouch, hrest⟩ := bind_ok hchange
    obtain ⟨log, -, hwrite⟩ := bind_ok hrest
    obtain ⟨l, mode, hl, hview⟩ := touch_ok htouch
    obtain ⟨k, mode', hk, hview'⟩ := write_ok hwrite
    have hlL : ¬ L l := by rwa [locate_eq_resolve hl.locate]
    have hkL : ¬ L k := by rwa [locate_eq_resolve hk.locate]
    exact (h₁.trans (spares_of_update hlL hl.not_dir hview)).trans (spares_of_update hkL hk.not_dir hview')

theorem keeps_openLock (hp : ¬ L (resolve [] p.location)) : Keeps (Spares L d₀) (openLock p) := by
  refine (keeps_makeParent p).bind fun _ d₁ h₁ => ?_
  rw [exec_update]
  cases htouch : d₁.touch p.location with
  | error e => exact h₁
  | ok d₂ =>
    obtain ⟨l, mode, hl, hview⟩ := touch_ok htouch
    have hlL : ¬ L l := by rwa [locate_eq_resolve hl.locate]
    exact h₁.trans (spares_of_update hlL hl.not_dir hview)

/-- What is written is there. -/
theorem fileAt_of_atomicWrite {content : ByteArray} (h : (atomicWrite p content).exec d = (.ok (), d')) :
    d'.fileAt (resolve [] p.location) = some content := by
  obtain ⟨d₁, l, k, mode, -, -, hk, -, hview⟩ := atomicWrite_ok h
  rw [← locate_eq_resolve hk.locate]
  exact fileAt_of_file (by rw [hview, Function.update_self])

/-- A file that could not be written holds what it held. -/
theorem fileAt_of_failed {content : ByteArray} {cause : Ledger.Error}
    (h : (atomicWrite p content).exec d = (.error cause, d'))
    (hp : ∀ m name, resolve [] p.location ≠ m ++ [name ++ temporarySuffix]) :
    d'.fileAt (resolve [] p.location) = d.fileAt (resolve [] p.location) := by
  obtain ⟨d₁, hgrown, ⟨-, rfl⟩ | ⟨-, mode, hreplace⟩⟩ := atomicWrite_cases h
  · exact hgrown.fileAt _
  rw [← hgrown.fileAt]
  rcases replace_cases hreplace with ⟨hok, -⟩ | ⟨-, rfl | ⟨l, n, hl, hview⟩⟩
  · cases hok
  · rfl
  · obtain ⟨m, name, hname⟩ := resolve_temporary p
    refine fileAt_of_update hview ?_
    rw [locate_eq_resolve hl.locate, hname]
    exact hp m name

/-- A line is added in a slot, after what was there. -/
theorem appendLine_ok {line : String} (h : (appendLine p line).exec d = (.ok (), d')) :
    ∃ d₁ mode, (makeParent p).exec d = (.ok (), d₁) ∧ Slot d₁ p.location (resolve [] p.location) ∧
      d'.node? = update d₁.node? (resolve [] p.location)
        (some (.file (withLine ((d.fileAt (resolve [] p.location)).getD ByteArray.empty) line) mode)) := by
  rw [appendLine, exec_bind] at h
  rcases hmake : (makeParent p).exec d with ⟨e | ⟨⟩, d₁⟩
  · rw [hmake] at h
    cases (Prod.mk.inj h).1
  rw [hmake] at h
  dsimp only at h
  rw [exec_update] at h
  cases hchange : (do
      let d ← d₁.touch p.location
      let log ← d.read p.location
      d.write p.location (withLine log line)) with
  | error e =>
    rw [hchange] at h
    cases (Prod.mk.inj h).1
  | ok d₃ =>
    rw [hchange] at h
    obtain ⟨-, rfl⟩ := Prod.mk.inj h
    obtain ⟨d₂, htouch, hrest⟩ := bind_ok hchange
    obtain ⟨log, hread, hwrite⟩ := bind_ok hrest
    obtain ⟨l, mode, hl, hview⟩ := touch_ok htouch
    obtain ⟨k, mode', hk, hview'⟩ := write_ok hwrite
    obtain rfl := locate_eq_resolve hk.locate
    obtain rfl := locate_eq_resolve hl.locate
    rw [hk.read, fileAt_of_file (by rw [hview, Function.update_self]), fileAt_makeParent hmake] at hread
    obtain rfl := Except.ok.inj hread
    exact ⟨d₁, mode', rfl, hl, by rw [hview', hview, Function.update_idem]⟩

theorem fileAt_of_appendLine {line : String} (h : (appendLine p line).exec d = (.ok (), d')) :
    d'.fileAt (resolve [] p.location) =
      some (withLine ((d.fileAt (resolve [] p.location)).getD ByteArray.empty) line) := by
  obtain ⟨d₁, mode, -, -, hview⟩ := appendLine_ok h
  exact fileAt_of_file (by rw [hview, Function.update_self])

/-- A lock is opened in a slot. -/
theorem openLock_ok (h : (openLock p).exec d = (.ok (), d')) :
    ∃ d₁ content mode, (makeParent p).exec d = (.ok (), d₁) ∧ Slot d₁ p.location (resolve [] p.location) ∧
      d'.node? = update d₁.node? (resolve [] p.location) (some (.file content mode)) := by
  rw [openLock, exec_bind] at h
  rcases hmake : (makeParent p).exec d with ⟨e | ⟨⟩, d₁⟩
  · rw [hmake] at h
    cases (Prod.mk.inj h).1
  rw [hmake] at h
  dsimp only at h
  rw [exec_update] at h
  cases htouch : d₁.touch p.location with
  | error e =>
    rw [htouch] at h
    cases (Prod.mk.inj h).1
  | ok d₂ =>
    rw [htouch] at h
    obtain ⟨-, rfl⟩ := Prod.mk.inj h
    obtain ⟨l, mode, hl, hview⟩ := touch_ok htouch
    obtain rfl := locate_eq_resolve hl.locate
    exact ⟨d₁, _, mode, rfl, hl, hview⟩

end Mend.Ledger

namespace Mend.Snapshot

open Fs Fs.Disk Ledger
open Action

variable {L : Location → Prop} {d₀ : Disk} {dir root : Place}

/-! ## Snapshots -/

/-- Whatever comes of taking a snapshot, files that are not in the directory of the snapshots are left alone. -/
theorem keeps_take_spares (hdir : ∀ s, ¬ L (resolve [] dir.location ++ [s])) (id : CycleId)
    (cs : List Capture) (r : Retention) (now : Time) :
    Keeps (fun x : Session => (∀ p, x.store = .directory p → p = dir) ∧ Spares L d₀ x.disk) (take id cs r now) := by
  rintro ⟨disk, store⟩ ⟨hstore, hspares⟩
  cases store with
  | memory t lost =>
    obtain ⟨t', htake⟩ := disk_take_memory id cs r now disk t lost
    rw [htake]
    exact ⟨nofun, hspares⟩
  | directory p =>
    obtain rfl := hstore p rfl
    let R (x : Session) : Prop := x.store = .directory p ∧ Spares L d₀ x.disk
    have hsave : Keeps R (save (capture id cs now)) := by
      rintro ⟨disk, store⟩ ⟨rfl, hspares⟩
      rw [save, exec_bind_ok (exec_get _)]
      dsimp only
      rw [exec_bind_ok (exec_get _)]
      split
      · exact ⟨rfl, hspares⟩
      · exact ⟨rfl, keeps_atomicWrite (avoids_child hdir (fileFor_name _)) _ disk hspares⟩
    have hprune : Keeps R (prune r id now) := by
      intro x hx
      obtain ⟨x', hrun, hx'⟩ := exec_prune (R := R) r now (by
        rintro k - y ⟨hy, hspares⟩
        obtain ⟨hy', hdisk | ⟨hslot, hview⟩⟩ := exec_remove_directory hy k
        · exact ⟨hy', hdisk ▸ hspares⟩
        · exact ⟨hy', hspares.trans (spares_of_update (hdir _) hslot.not_dir hview)⟩) hx
      rw [hrun]
      exact hx'
    obtain ⟨hstore', hspares'⟩ := (hsave.bind fun _ => hprune) ⟨disk, .directory p⟩ ⟨rfl, hspares⟩
    refine ⟨?_, hspares'⟩
    rintro q hq
    exact (Store.directory.inj (hstore'.symm.trans hq)).symm

theorem keeps_carryOut {x : Entry} (hx : Avoids L (root.file x.path)) (plan : Plan) :
    Keeps (Spares L d₀) (carryOut root x plan) := by
  cases plan with
  | write content => exact (keeps_atomicWrite hx _).bind fun _ => keeps_pure _
  | skip => exact keeps_pure _
  | leave found => exact keeps_pure _
  | remove =>
    refine Keeps.bind (fun d hd => ?_) fun _ => keeps_pure _
    rw [exec_update]
    cases hunlink : d.unlink (root.file x.path).location with
    | error e => cases e <;> exact hd
    | ok d' =>
      obtain ⟨l, hl, hview⟩ := unlink_ok hunlink
      have hlL : ¬ L l := by
        rw [locate_eq_resolve hl.locate]
        exact hx.file
      exact hd.trans (spares_of_update hlL hl.not_dir hview)

/-- Whatever comes of restoring a snapshot, files that it does not name are left alone. -/
theorem keeps_restore {s : Snapshot} (hs : ∀ x ∈ s.files, Avoids L (root.file x.path)) :
    Keeps (Spares L d₀) (s.restore root) := by
  refine (keeps_query _).bind fun _ d hd => ?_
  rcases hplans : planAll root s.cycle d s.files with cause | plans
  · rw [exec_bind, exec_query, hplans]
    exact hd
  rw [exec_bind_ok (by rw [exec_query, hplans])]
  refine Keeps.bind (Keeps.mapM fun x hx => ?_) (fun _ => keeps_pure _) d hd
  have hmem : x.1 ∈ s.files := by
    rw [← (planAll_ok hplans).1]
    exact List.mem_map_of_mem hx
  exact (keeps_carryOut (hs _ hmem) x.2).bind fun _ => keeps_pure _

end Mend.Snapshot
