import Mend.Proofs.Engine.Upkeep
import Mend.Proofs.Ledger.StoreEquivalence

/-!
# Snapshots of other cycles

A store that takes the snapshot of a cycle prunes others, and changes none of them (`Taken`): it has a snapshot as it
was, or none of that cycle. On the disk no directory is lost, and only that of the snapshots may be new (`Firm`), so that
the way to a file that was there is still there.
-/

namespace Mend

open Fs Fs.Disk Ledger
open Function (update)

namespace Ledger.Layout

variable {l : Layout} {d d' d'' : Disk}

/-- No directory is lost, and none is new but that of the snapshots. -/
structure Firm (l : Layout) (d d' : Disk) : Prop where
  kept : ∀ m, d.node? m = some .dir → d'.node? m = some .dir
  new : ∀ m, d'.node? m = some .dir → m = l.location ++ ["snapshots"] ∨ d.node? m = some .dir

theorem firm_of_dirs (h : ∀ m, d'.node? m = some .dir ↔ d.node? m = some .dir) : l.Firm d d' :=
  ⟨fun m => (h m).mpr, fun m hm => .inr ((h m).mp hm)⟩

namespace Firm

theorem refl (l : Layout) (d : Disk) : l.Firm d d := firm_of_dirs fun _ => .rfl

theorem trans (h : l.Firm d d') (h' : l.Firm d' d'') : l.Firm d d'' :=
  ⟨fun m hm => h'.kept m (h.kept m hm), fun m hm => (h'.new m hm).elim .inl (h.new m)⟩

theorem there (h : l.Firm d d') (hthere : l.There d) : l.There d' := hthere.mono h.kept

theorem slot (h : l.Firm d d') {steps m : Location} (hslot : Slot d steps m) (hm : m ≠ l.location ++ ["snapshots"]) :
    Slot d' steps m :=
  hslot.mono h.kept fun hdir => (h.new m hdir).elim hm hslot.not_dir

end Firm

theorem Upkept.firm (h : l.Upkept d d') : l.Firm d d' := firm_of_dirs h.dirs

end Ledger.Layout

namespace Snapshot

variable {l : Layout} {id : CycleId} {s : Snapshot} {store : Store} {d d' : Disk}

/-! ## What a store has -/

/-- The store has the snapshot under the identifier of its cycle. -/
def Has (l : Layout) (s : Snapshot) (store : Store) (d : Disk) : Prop :=
  (∃ t, store = .memory t false ∧ Ordered.get? t s.cycle = some s) ∨
    store = .directory l.snapshots ∧
      Slot d (fileFor l.snapshots s.cycle).location (locationOf l.snapshots s.cycle) ∧
      ∃ content, d.fileAt (locationOf l.snapshots s.cycle) = some content ∧ Stored.ofBytes? content = some s

theorem Has.load (h : Has l s store d) : (Session.mk d store).load s.cycle = .ok s := by
  rcases h with ⟨t, rfl, hget⟩ | ⟨rfl, hslot, content, hfile, hread⟩
  · rw [load_memory, hget]
  · have hcontent : d.read (fileFor l.snapshots s.cycle).location = .ok content := by rw [hslot.read, hfile]
    rw [Session.load]
    simp only [hcontent, hread]

theorem Has.congr (h : Has l s store d) (hfirm : l.Firm d d')
    (hsame : d'.node? (locationOf l.snapshots s.cycle) = d.node? (locationOf l.snapshots s.cycle)) :
    Has l s store d' := by
  refine h.imp_right fun ⟨hstore, hslot, content, hfile, hread⟩ => ⟨hstore, ?_, content, ?_, hread⟩
  · exact hfirm.slot hslot (Layout.locationOf_ne_child l _ _)
  · rw [fileAt_congr hsame, hfile]

theorem Has.slot (h : Has l s store d) (hstore : store = .directory l.snapshots) :
    Slot d (fileFor l.snapshots s.cycle).location (locationOf l.snapshots s.cycle) := by
  rcases h with ⟨t, rfl, -⟩ | ⟨-, hslot, -⟩
  · cases hstore
  · exact hslot

/-- A snapshot that the store does not have is not found. -/
theorem load_of_fresh (h : Fresh l id store d) (hslot : store = .directory l.snapshots →
      Slot d (fileFor l.snapshots id).location (locationOf l.snapshots id)) :
    (Session.mk d store).load id = .error (.snapshotNotFound id) := by
  rcases h with ⟨t, rfl, hcontains⟩ | ⟨rfl, hnone⟩
  · rw [load_memory, Ordered.contains_eq_false_iff.mp hcontains]
  · have hcontent : d.read (fileFor l.snapshots id).location = .error .notFound := by
      rw [(hslot rfl).read, fileAt_of_none hnone]
    rw [Session.load]
    simp only [hcontent]

/-! ## Taking a snapshot -/

variable {cs : List Capture} {r : Retention} {now : Time} {x : Session}

/-- What is kept here is put into the table, and what has expired is taken out. -/
theorem exec_take_table (d : Disk) (t : Ordered CycleId Snapshot) :
    (take id cs r now).exec ⟨d, .memory t false⟩ =
      (.ok (), ⟨d, .memory (expire r id now (put t (capture id cs now))) false⟩) := by
  have hdiscard (ids : List CycleId) (t : Ordered CycleId Snapshot) :
      (ids.forM discard).exec ⟨d, .memory t false⟩ = (.ok (), ⟨d, .memory (eraseAll t ids) false⟩) := by
    induction ids generalizing t with
    | nil => rfl
    | cons k ids ih => exact ih (Ordered.erase t k)
  rw [take, Action.exec_bind_ok (exec_save_memory d t false _), prune, Action.exec_bind_ok (Action.exec_get _)]
  exact hdiscard _ _

/-- What becomes of a disk and of the other snapshots in the store when the snapshot of a cycle is taken. -/
structure Taken (l : Layout) (id : CycleId) (store : Store) (d : Disk) (x : Session) : Prop where
  firm : l.Firm d x.disk
  clean : NoTemporary d → NoTemporary x.disk
  ascending : ∀ t lost, x.store = .memory t lost → Ordered.Ascending t
  fresh : ∀ k ≠ id, Fresh l k store d → Fresh l k x.store x.disk
  has : ∀ s : Snapshot, s.cycle ≠ id → Has l s store d → Has l s x.store x.disk ∨ Fresh l s.cycle x.store x.disk
  place : x.store = .directory l.snapshots → store = .directory l.snapshots

theorem taken_table {t : Ordered CycleId Snapshot} (h : t.Ascending) :
    Taken l id (.memory t false) d ⟨d, .memory (expire r id now (put t (capture id cs now))) false⟩ := by
  have hmemory {t : Ordered CycleId Snapshot} : Store.memory t false ≠ .directory l.snapshots := by
    intro heq
    cases heq
  have hother (k : CycleId) (hk : k ≠ id) :
      Ordered.get? (expire r id now (put t (capture id cs now))) k = Ordered.get? t k ∨
        Ordered.get? (expire r id now (put t (capture id cs now))) k = none := by
    rw [expire, get?_eraseAll (ascending_put h _), get?_put]
    split
    · exact .inr rfl
    · exact .inl (if_neg fun hput => hk hput.1)
  refine ⟨.refl l d, fun hclean => hclean, ?_, fun k hk hfresh => ?_, fun s hs hhas => ?_, fun hdir => ?_⟩
  · rintro _ _ ⟨⟩
    exact ascending_eraseAll (ascending_put h _) _
  · obtain ⟨t', ht, hcontains⟩ := hfresh.resolve_right fun hdir => hmemory hdir.1
    obtain ⟨rfl, -⟩ := Store.memory.inj ht
    have hnone := Ordered.contains_eq_false_iff.mp hcontains
    refine .inl ⟨_, rfl, Ordered.contains_eq_false_iff.mpr ?_⟩
    exact (hother k hk).elim (fun hsame => hsame.trans hnone) fun hgone => hgone
  · obtain ⟨t', ht, hget⟩ := hhas.resolve_right fun hdir => hmemory hdir.1
    obtain ⟨rfl, -⟩ := Store.memory.inj ht
    refine (hother _ hs).imp (fun hsame => .inl ⟨_, rfl, hsame.trans hget⟩) fun hgone => ?_
    exact .inl ⟨_, rfl, Ordered.contains_eq_false_iff.mpr hgone⟩
  · exact absurd hdir hmemory

theorem taken_of_take (hthere : l.There d) (hfresh : Fresh l id store d)
    (hascending : ∀ t lost, store = .memory t lost → Ordered.Ascending t)
    (h : (take id cs r now).exec ⟨d, store⟩ = (.ok (), x)) : Taken l id store d x := by
  rcases hfresh with ⟨t, rfl, -⟩ | ⟨rfl, hnew⟩
  · rw [exec_take_table] at h
    obtain rfl := (Prod.mk.inj h).2
    exact taken_table (hascending t false rfl)
  obtain ⟨d₁, hmake, hslot, hstore, hfiled⟩ := exec_take_directory (x := ⟨d, .directory l.snapshots⟩) rfl hnew h
  obtain ⟨hdirs, hclean, hmade⟩ := Batch.snapshots_made hthere hmake
  obtain ⟨mode, hfile⟩ := hfiled.file
  have hfirm : l.Firm d x.disk := by
    refine ⟨fun m hm => ?_, fun m hm => ?_⟩
    · have hdir := hdirs m hm
      have hne : m ≠ locationOf l.snapshots id := fun e => hslot.not_dir (e ▸ hdir)
      rcases hfiled.other m hne with hsame | ⟨hleaf, -⟩
      · rw [hsame, hdir]
      · exact absurd hdir hleaf
    · have hne : m ≠ locationOf l.snapshots id := by
        rintro rfl
        simp [hfile] at hm
      rcases hfiled.other m hne with hsame | ⟨-, hnone⟩
      · rcases hmade m with hsame' | ⟨hat, -⟩
        · exact .inr (by rw [← hsame', ← hsame, hm])
        · exact .inl hat
      · rw [hnone] at hm
        cases hm
  -- the file of another snapshot is as it was, or it is gone
  have hother (k : CycleId) (hk : k ≠ id) : x.disk.node? (locationOf l.snapshots k) = d.node? (locationOf l.snapshots k) ∨
      x.disk.node? (locationOf l.snapshots k) = none := by
    refine (hfiled.other _ (locationOf_ne hk)).imp (fun hsame => ?_) fun hgone => hgone.2
    rw [hsame]
    exact (hmade _).resolve_right fun hat => Layout.locationOf_ne_child l k _ hat.1
  refine ⟨hfirm, fun hd m name => ?_, fun t lost ht => ?_, fun k hk hfresh => ?_, fun s hs hhas => ?_, fun _ => rfl⟩
  · rcases hfiled.other _ (Batch.locationOf_ne_temporary l id m name) with hsame | ⟨-, hnone⟩
    · rw [hsame, hclean hd m name]
    · exact hnone
  · rw [hstore] at ht
    cases ht
  · obtain ⟨-, hnone⟩ := hfresh.resolve_left fun ⟨t, ht, _⟩ => nomatch ht
    exact .inr ⟨hstore, (hother k hk).elim (fun hsame => hsame.trans hnone) fun hgone => hgone⟩
  · rw [hstore]
    exact (hother _ hs).imp (fun hsame => hhas.congr hfirm hsame) fun hnone => .inr ⟨rfl, hnone⟩

/-- Afterwards files come and go, but none that holds a snapshot. -/
theorem Taken.after (h : Taken l id store d x) (hfirm : l.Firm x.disk d') (hclean : NoTemporary x.disk → NoTemporary d')
    (hstate : ∀ k, d'.node? (locationOf l.snapshots k) = x.disk.node? (locationOf l.snapshots k)) :
    Taken l id store d ⟨d', x.store⟩ where
  firm := h.firm.trans hfirm
  clean hd := hclean (h.clean hd)
  ascending := h.ascending
  fresh k hk hfresh := (h.fresh k hk hfresh).congr (hstate k)
  has s hs hhas := (h.has s hs hhas).imp (fun hkept => hkept.congr hfirm (hstate _)) fun hgone => hgone.congr (hstate _)
  place := h.place

end Snapshot
end Mend
