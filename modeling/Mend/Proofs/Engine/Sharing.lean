import Mathlib.Logic.Relation
import Mend.Proofs.Engine.Books
import Mend.Proofs.Engine.Cycle
import Mend.Proofs.Ledger.Standing

/-!
# Processes that share the file of trust

Processes share a workspace. Each one takes the lock, reads the table of trust, changes the table and writes it through,
and gives the lock back; in between everybody does elsewhere what he likes (`Trust.Step`). However the processes take turns,
counters and flags in the file are those that the completed sections make of it one after the other
(`Trust.standings_of_steps`), and these are the ones that a run of the sections without any overlap leaves
(`Trust.yields_inTurn`).
-/

namespace Mend

open Fs Fs.Disk Ledger
open Action
open Function (update)

namespace Ledger.Layout

/-- What the file of trust holds; nothing if there is no file. -/
def page (l : Layout) (d : Disk) : ByteArray := (d.fileAt (resolve [] l.trust.location)).getD ByteArray.empty

/-- What happens to a disk without touching the file of trust: it holds what it held, and the state directory stays. -/
structure Passes (l : Layout) (d d' : Disk) : Prop where
  page : l.page d' = l.page d
  there : l.There d → l.There d'

variable {l : Layout} {d d' : Disk}

theorem Passes.refl (l : Layout) (d : Disk) : l.Passes d d := ⟨rfl, id⟩

/-- The location is that of the file of trust. -/
def OnPage (l : Layout) (m : Location) : Prop := m = l.location ++ ["trust.json"]

theorem onPage_trust (l : Layout) : l.OnPage (resolve [] l.trust.location) := resolve_child (by decide)

theorem not_onPage_child {name : String} (hname : RelPath.Name name) (hne : name ≠ "trust.json") :
    ¬ l.OnPage (resolve [] (l.root.child name).location) := by
  rw [resolve_child hname]
  intro heq
  exact hne (by simpa using List.append_cancel_left heq)

theorem lasting_onPage (l : Layout) : Lasting l.OnPage := by
  intro m name heq
  exact Snapshot.append_temporarySuffix_ne_of_getLast (s := "trust.json") (by decide) name
    (by simpa using congrArg List.getLast? heq)

theorem passes_of_spares (h : Spares l.OnPage d d') : l.Passes d d' where
  page := by rw [page, page, h.files _ (onPage_trust l)]
  there hthere := hthere.mono h.dirs

end Ledger.Layout

namespace Ledger

variable {p : Place} {s s' : Locks} {k : Location}

/-- A lock that is taken was free. -/
theorem acquire_ok (h : (acquire p).exec s = (.ok k, s')) :
    k = resolve [] p.location ∧ k ∉ s.held ∧ s'.held = k :: s.held := by
  rw [acquire, exec_bind, exec_zoom] at h
  rcases hopen : (openLock p).exec s.disk with ⟨_ | _, d⟩
  · rw [hopen] at h
    cases (Prod.mk.inj h).1
  rw [hopen] at h
  dsimp only at h
  rw [exec_bind_ok (exec_get _), exec_bind, exec_query] at h
  cases hlocate : d.locate p.location with
  | error e =>
    simp only [hlocate, at_] at h
    cases (Prod.mk.inj h).1
  | ok m =>
    simp only [hlocate, at_] at h
    split at h
    · cases (Prod.mk.inj h).1
    · next hfree =>
      obtain ⟨hk, rfl⟩ := Prod.mk.inj h
      obtain rfl := Except.ok.inj hk
      exact ⟨locate_eq_resolve hlocate, by simpa using hfree, rfl⟩

/-- A lock that is refused is not held. -/
theorem acquire_error {e : Ledger.Error} (h : (acquire p).exec s = (.error e, s')) : s'.held = s.held := by
  rw [acquire, exec_bind, exec_zoom] at h
  rcases hopen : (openLock p).exec s.disk with ⟨_ | _, d⟩
  · rw [hopen] at h
    obtain ⟨-, rfl⟩ := Prod.mk.inj h
    rfl
  rw [hopen] at h
  dsimp only at h
  rw [exec_bind_ok (exec_get _), exec_bind, exec_query] at h
  cases hlocate : d.locate p.location with
  | error e =>
    simp only [hlocate, at_] at h
    obtain ⟨-, rfl⟩ := Prod.mk.inj h
    rfl
  | ok m =>
    simp only [hlocate, at_] at h
    split at h
    · obtain ⟨-, rfl⟩ := Prod.mk.inj h
      rfl
    · cases (Prod.mk.inj h).1

/-- Whether or not a lock is taken, the file of trust is left alone. -/
theorem passes_acquire {l : Layout} (s : Locks) : l.Passes s.disk ((acquire l.lock).exec s).2.disk := by
  rw [disk_acquire]
  exact Layout.passes_of_spares
    (keeps_openLock (Layout.not_onPage_child (by decide) (by decide)) s.disk (.refl _ _))

end Ledger

namespace Trust

/-! ## Sections -/

/-- What a process has while it holds the lock. -/
structure Holding where
  lock : Location
  /-- The store, once it was opened. -/
  store : Option Store := none
  /-- The updates that were written through. -/
  made : List Update := []
  /-- The updates of the table that could not be written. -/
  pending : List Update := []

/-- Processes, some of which hold the lock, and the disk and the locks that they share. -/
structure Site (ι : Type) where
  locks : Locks
  holding : ι → Option Holding
  /-- The sections that were completed, in the order in which they had the lock, with the updates they made. -/
  done : List (ι × List Update) := []

/-- The updates of the completed sections. -/
def Site.updates {ι : Type} (s : Site ι) : List Update := s.done.flatMap Prod.snd

variable {ι : Type} {l : Layout}

/-- A step of one of the processes, or of anybody else. The store works on what it has in memory; the file is read when
it is opened, and no other time. -/
inductive Step [DecidableEq ι] (l : Layout) : Site ι → Site ι → Prop where
  | work {s : Site ι} {d : Disk} (h : l.Passes s.locks.disk d) : Step l s { s with locks := ⟨d, s.locks.held⟩ }
  | take {s : Site ι} {i : ι} {k : Location} {x : Locks} (h : s.holding i = none)
      (hlock : (acquire l.lock).exec s.locks = (.ok k, x)) :
      Step l s { s with locks := x, holding := update s.holding i (some { lock := k }) }
  | read {s : Site ι} {i : ι} {g : Holding} {store : Store} (h : s.holding i = some g)
      (hopen : Store.open l.trust s.locks.disk = .ok store) :
      Step l s { s with holding := update s.holding i (some { g with store := some store, pending := [] }) }
  | write {s : Site ι} {i : ι} {g : Holding} {store : Store} {u : Update} {x : Session} (h : s.holding i = some g)
      (hstore : g.store = some store) (hwrite : (commit fun t => u.apply t).exec ⟨s.locks.disk, store⟩ = (.ok (), x)) :
      Step l s { s with
        locks := ⟨x.disk, s.locks.held⟩
        holding := update s.holding i
          (some { g with store := some x.store, made := g.made ++ (g.pending ++ [u]), pending := [] }) }
  | fail {s : Site ι} {i : ι} {g : Holding} {store : Store} {u : Update} {cause : Ledger.Error} {x : Session}
      (h : s.holding i = some g) (hstore : g.store = some store)
      (hwrite : (commit fun t => u.apply t).exec ⟨s.locks.disk, store⟩ = (.error cause, x)) :
      Step l s { s with
        locks := ⟨x.disk, s.locks.held⟩
        holding := update s.holding i (some { g with store := some x.store, pending := g.pending ++ [u] }) }
  | leave {s : Site ι} {i : ι} {g : Holding} (h : s.holding i = some g) :
      Step l s ⟨s.locks.release g.lock, update s.holding i none, s.done ++ [(i, g.made)]⟩

/-- Any number of steps. -/
abbrev Steps [DecidableEq ι] (l : Layout) : Site ι → Site ι → Prop := Relation.ReflTransGen (Step l)

/-! ## Reading and writing -/

/-- A store that is opened has what the file holds. -/
theorem standings_of_open {d : Disk} {store : Store} (hthere : l.There d) (h : Store.open l.trust d = .ok store) :
    store.file = some l.trust ∧ Ordered.Ascending store.table ∧
      standings? (l.page d) = some store.table.standings := by
  rw [Store.open] at h
  cases hread : readOrEmpty l.trust d with
  | error e =>
    rw [hread] at h
    cases h
  | ok content =>
  obtain rfl : content = l.page d := Engine.readOrEmpty_child hthere (by decide) (by decide) hread
  rw [hread] at h
  dsimp only at h
  split at h
  · next hempty =>
    obtain rfl := Except.ok.inj h
    exact ⟨rfl, .nil, if_pos hempty⟩
  · next hsize =>
    split at h
    · next t ht =>
      obtain rfl := Except.ok.inj h
      exact ⟨rfl, ascending_of_ofBytes? ht, standings?_of_ofBytes? hsize ht⟩
    · cases h

/-- A table that is changed is in the file, or the file is as it was. -/
theorem exec_commit {change : Table → Table} {s x : Session} {r : Except Ledger.Error Unit}
    (hfile : s.store.file = some l.trust) (h : (commit change).exec s = (r, x)) :
    x.store = ⟨some l.trust, change s.store.table⟩ ∧ (l.There s.disk → l.There x.disk) ∧
      (r = .ok () → l.page x.disk = Stored.page (change s.store.table)) ∧
      ∀ cause, r = .error cause → l.page x.disk = l.page s.disk := by
  obtain ⟨disk, file, table⟩ := s
  obtain rfl : file = some l.trust := hfile
  rcases hwrite : (atomicWrite l.trust (Stored.page (change table))).exec disk with ⟨r', d⟩
  rw [commit, exec_ofFun] at h
  simp only [hwrite] at h
  obtain ⟨rfl, rfl⟩ := Prod.mk.inj h
  refine ⟨rfl, fun hthere => hthere.mono ?_, ?_, ?_⟩
  · have hkept := keeps_atomicWrite (L := fun _ => False) (p := l.trust) ⟨id, id⟩ (Stored.page (change table)) disk (.refl _ _)
    rw [hwrite] at hkept
    exact hkept.dirs
  · rintro rfl
    rw [Layout.page, fileAt_of_atomicWrite hwrite, Option.getD_some]
  · rintro cause rfl
    have hlast : ∀ m name, resolve [] l.trust.location ≠ m ++ [name ++ temporarySuffix] := by
      intro m name heq
      exact Layout.lasting_onPage l m name (heq ▸ Layout.onPage_trust l)
    rw [Layout.page, Layout.page, fileAt_of_failed hwrite hlast]

/-! ## Counters and flags -/

/-- The counters and flags after updates, if there are any to begin with. -/
def counted (start : Option Standings) (us : List Update) : Option Standings :=
  start.map fun standings => us.foldl Update.count standings

theorem counted_append (start : Option Standings) (us vs : List Update) :
    counted start (us ++ vs) = counted (counted start us) vs := by
  rw [counted, counted, counted, Option.map_map]
  refine congrArg₂ _ (funext fun standings => ?_) rfl
  exact List.foldl_append

theorem counted_singleton {start : Option Standings} {t : Table} (h : start = some t.standings) (u : Update) :
    counted start [u] = some (u.apply t).standings := by
  rw [h, standings_apply]
  rfl

/-- What the file and the processes have at any time. At most one process is in a section. What the file says is made of
the updates of the completed sections and of those of this process, and its store is ahead of the file only by what could
not be written. -/
structure Sound (l : Layout) (start : Option Standings) (s : Site ι) : Prop where
  alone : ∀ i j g g', s.holding i = some g → s.holding j = some g' → i = j
  locked : ∀ i g, s.holding i = some g →
    g.lock = resolve [] l.lock.location ∧ g.lock ∈ s.locks.held ∧ l.There s.locks.disk
  idle : (∀ i, s.holding i = none) → standings? (l.page s.locks.disk) = counted start s.updates
  busy : ∀ i g, s.holding i = some g → standings? (l.page s.locks.disk) = counted start (s.updates ++ g.made)
  store : ∀ i g store, s.holding i = some g → g.store = some store → store.file = some l.trust ∧
    Ordered.Ascending store.table ∧ counted (standings? (l.page s.locks.disk)) g.pending = some store.table.standings

variable {start : Option Standings} {s s' : Site ι} {i : ι} {g g' : Holding}

/-- At first nobody is in a section. -/
theorem sound_of_idle (hidle : ∀ i, s.holding i = none) (hdone : s.done = []) :
    Sound l (standings? (l.page s.locks.disk)) s := by
  have hno {j : ι} {k : Holding} {φ : Prop} (hj : s.holding j = some k) : φ := by
    rw [hidle j] at hj
    cases hj
  refine ⟨fun j _ k _ hj _ => hno hj, fun j k hj => hno hj, fun _ => ?_, fun j k hj => hno hj, fun j k _ hj _ => hno hj⟩
  rw [Site.updates, hdone, List.flatMap_nil, counted]
  exact Option.map_id'.symm

/-- The file of trust is left alone. -/
theorem Sound.work (h : Sound l start s) {d : Disk} (hd : l.Passes s.locks.disk d) :
    Sound l start { s with locks := ⟨d, s.locks.held⟩ } where
  alone := h.alone
  locked j k hj := ⟨(h.locked j k hj).1, (h.locked j k hj).2.1, hd.there (h.locked j k hj).2.2⟩
  idle hnone := by
    dsimp only
    rw [hd.page]
    exact h.idle hnone
  busy j k hj := by
    dsimp only
    rw [hd.page]
    exact h.busy j k hj
  store j k store hj := by
    dsimp only
    rw [hd.page]
    exact h.store j k store hj

variable [DecidableEq ι]

/-- A process goes on in its section. -/
theorem Sound.become (h : Sound l start s) (hi : s.holding i = some g) {disk : Disk} (hlock : g'.lock = g.lock)
    (hthere : l.There s.locks.disk → l.There disk)
    (hbusy : standings? (l.page disk) = counted start (s.updates ++ g'.made))
    (hstore : ∀ store, g'.store = some store → store.file = some l.trust ∧ Ordered.Ascending store.table ∧
      counted (standings? (l.page disk)) g'.pending = some store.table.standings) :
    Sound l start { s with locks := ⟨disk, s.locks.held⟩, holding := update s.holding i (some g') } := by
  -- nobody else is in a section
  have honly (j : ι) (k : Holding) (hj : update s.holding i (some g') j = some k) : j = i ∧ k = g' := by
    by_cases hij : j = i
    · subst hij
      rw [Function.update_self] at hj
      exact ⟨rfl, (Option.some.inj hj).symm⟩
    · rw [Function.update_of_ne hij] at hj
      exact absurd (h.alone j i k g hj hi) hij
  obtain ⟨hat, hheld, hhere⟩ := h.locked i g hi
  refine ⟨fun j j' k k' hj hj' => ?_, fun j k hj => ?_, fun hnone => ?_, fun j k hj => ?_, fun j k store hj => ?_⟩
  · rw [(honly j k hj).1, (honly j' k' hj').1]
  · obtain ⟨-, rfl⟩ := honly j k hj
    rw [hlock]
    exact ⟨hat, hheld, hthere hhere⟩
  · have hsome := hnone i
    dsimp only at hsome
    rw [Function.update_self] at hsome
    cases hsome
  · obtain ⟨-, rfl⟩ := honly j k hj
    exact hbusy
  · obtain ⟨-, rfl⟩ := honly j k hj
    exact hstore store

/-- A process begins a section: nobody is in one, or the lock would not be free. -/
theorem Sound.take (h : Sound l start s) {k : Location} {x : Locks} (hlock : (acquire l.lock).exec s.locks = (.ok k, x)) :
    Sound l start { s with locks := x, holding := update s.holding i (some { lock := k }) } := by
  obtain ⟨rfl, hfree, hheld⟩ := acquire_ok hlock
  have hpasses := passes_acquire (l := l) s.locks
  rw [hlock] at hpasses
  have hthere := Engine.there_of_openLock (Engine.openLock_of_acquire hlock)
  have hnone (j : ι) : s.holding j = none := by
    cases hj : s.holding j with
    | none => rfl
    | some g =>
      obtain ⟨hat, hmem, -⟩ := h.locked j g hj
      exact absurd (hat ▸ hmem) hfree
  have honly (j : ι) (g : Holding) (hj : update s.holding i (some { lock := resolve [] l.lock.location }) j = some g) :
      j = i ∧ g = { lock := resolve [] l.lock.location } := by
    by_cases hij : j = i
    · subst hij
      rw [Function.update_self] at hj
      exact ⟨rfl, (Option.some.inj hj).symm⟩
    · rw [Function.update_of_ne hij, hnone j] at hj
      cases hj
  refine ⟨fun j j' g g' hj hj' => ?_, fun j g hj => ?_, fun hnone => ?_, fun j g hj => ?_, fun j g store hj hg => ?_⟩
  · rw [(honly j g hj).1, (honly j' g' hj').1]
  · obtain ⟨-, rfl⟩ := honly j g hj
    exact ⟨rfl, by rw [hheld]; exact List.mem_cons_self, hthere⟩
  · have hsome := hnone i
    dsimp only at hsome
    rw [Function.update_self] at hsome
    cases hsome
  · obtain ⟨-, rfl⟩ := honly j g hj
    dsimp only
    rw [hpasses.page, List.append_nil]
    exact h.idle hnone
  · obtain ⟨-, rfl⟩ := honly j g hj
    cases hg

/-- A process ends its section. -/
theorem Sound.leave (h : Sound l start s) (hi : s.holding i = some g) :
    Sound l start ⟨s.locks.release g.lock, update s.holding i none, s.done ++ [(i, g.made)]⟩ := by
  have hnone (j : ι) : update s.holding i none j = none := by
    by_cases hij : j = i
    · rw [hij, Function.update_self]
    · rw [Function.update_of_ne hij]
      cases hj : s.holding j with
      | none => rfl
      | some k => exact absurd (h.alone j i k g hj hi) hij
  have hno {j : ι} {k : Holding} {φ : Prop} (hj : update s.holding i none j = some k) : φ := by
    rw [hnone j] at hj
    cases hj
  refine ⟨fun j _ k _ hj _ => hno hj, fun j k hj => hno hj, fun _ => ?_, fun j k hj => hno hj, fun j k _ hj _ => hno hj⟩
  have hupdates : (s.done ++ [(i, g.made)]).flatMap Prod.snd = s.updates ++ g.made := by
    rw [List.flatMap_append, List.flatMap_singleton]
    rfl
  rw [Site.updates, hupdates]
  exact h.busy i g hi

/-- **One step.** -/
theorem Sound.step (h : Sound l start s) (hstep : Step l s s') : Sound l start s' := by
  cases hstep with
  | work hd => exact h.work hd
  | take hi hlock => exact h.take hlock
  | leave hi => exact h.leave hi
  | @read i g store hi hopen =>
    obtain ⟨hfile, hascending, hread⟩ := standings_of_open (h.locked i g hi).2.2 hopen
    refine h.become hi rfl id (h.busy i g hi) ?_
    rintro _ ⟨⟩
    refine ⟨hfile, hascending, ?_⟩
    rw [counted, hread]
    rfl
  | @write i g store u x hi hstore hwrite =>
    obtain ⟨hfile, hascending, hpending⟩ := h.store i g store hi hstore
    obtain ⟨hafter, hthere, hpage, -⟩ := exec_commit hfile hwrite
    have hwritten : standings? (l.page x.disk) = some (u.apply store.table).standings := by
      rw [hpage rfl, standings?_page (ascending_apply hascending u)]
    refine h.become hi rfl hthere ?_ ?_
    · rw [hwritten, ← List.append_assoc, ← List.append_assoc, counted_append, counted_append, ← h.busy i g hi, hpending]
      exact (counted_singleton rfl u).symm
    · rintro _ ⟨⟩
      rw [hafter, hwritten]
      exact ⟨rfl, ascending_apply hascending u, rfl⟩
  | @fail i g store u cause x hi hstore hwrite =>
    obtain ⟨hfile, hascending, hpending⟩ := h.store i g store hi hstore
    obtain ⟨hafter, hthere, -, hpage⟩ := exec_commit hfile hwrite
    have hkept := hpage cause rfl
    refine h.become hi rfl hthere ?_ ?_
    · rw [hkept]
      exact h.busy i g hi
    · rintro _ ⟨⟩
      rw [hafter, hkept, counted_append, hpending]
      exact ⟨rfl, ascending_apply hascending u, counted_singleton rfl u⟩

/-- **Any number of steps.** -/
theorem Sound.steps (h : Sound l start s) (hsteps : Steps l s s') : Sound l start s' := by
  induction hsteps with
  | refl => exact h
  | tail _ hstep ih => exact ih.step hstep

/-- When nobody is in a section any more, the file says what the completed sections make of it one after the other. -/
theorem standings_of_steps (hidle : ∀ i, s.holding i = none) (hdone : s.done = []) (hsteps : Steps l s s')
    (hidle' : ∀ i, s'.holding i = none) :
    standings? (l.page s'.locks.disk) = counted (standings? (l.page s.locks.disk)) s'.updates :=
  ((sound_of_idle hidle hdone).steps hsteps).idle hidle'

/-! ## One section after the other -/

/-- A section that makes updates. -/
def inSection (l : Layout) (us : List Update) : Workspace.Step Unit :=
  Workspace.locking l.lock do
    Workspace.openTrust
    us.forM fun u => Workspace.onTrust u.write

/-- Sections without any overlap. -/
def inTurn (l : Layout) (sections : List (List Update)) : Workspace.Step Unit := sections.forM (inSection l)

/-- The table is kept in its file, which says what it says. -/
structure Filed (l : Layout) (standings : Option Standings) (w : Workspace) : Prop where
  file : w.trust.file = some l.trust
  page : standings? (l.page w.disk) = standings

/-- The table was read, and is what the file says. -/
structure Opened (l : Layout) (standings : Option Standings) (w : Workspace) : Prop extends Filed l standings w where
  there : l.There w.disk
  ascending : Ordered.Ascending w.trust.table
  table : standings = some w.trust.table.standings

variable {standings : Option Standings}

theorem yields_open : Yields (fun w => Filed l standings w ∧ l.There w.disk) Workspace.openTrust
    fun _ => Opened l standings := by
  rintro w ⟨⟩ w' ⟨⟨hfile, hpage⟩, hthere⟩ hrun
  rw [Workspace.openTrust, exec_bind_ok (exec_get w), hfile] at hrun
  dsimp only at hrun
  rw [exec_update] at hrun
  cases hopen : Store.open l.trust w.disk with
  | error cause =>
    rw [hopen] at hrun
    cases (Prod.mk.inj hrun).1
  | ok store =>
    rw [hopen] at hrun
    obtain ⟨-, rfl⟩ := Prod.mk.inj hrun
    obtain ⟨hstore, hascending, hread⟩ := standings_of_open hthere hopen
    exact ⟨⟨hstore, hpage⟩, hthere, hascending, hpage.symm.trans hread⟩

theorem yields_write (u : Update) :
    Yields (Opened l standings) (Workspace.onTrust u.write) fun _ => Opened l (counted standings [u]) := by
  rintro w ⟨⟩ w' ⟨⟨hfile, hpage⟩, hthere, hascending, htable⟩ hrun
  rw [Workspace.exec_onTrust] at hrun
  rcases hwrite : u.write.exec ⟨w.disk, w.trust⟩ with ⟨r, x⟩
  rw [hwrite] at hrun
  obtain ⟨hok, rfl⟩ := Prod.mk.inj hrun
  obtain rfl := ok_of_mapError hok
  have hcounted := counted_singleton htable u
  rcases exec_write hwrite with ⟨-, rfl, hsame⟩ | hcommit
  · rw [hsame, ← htable] at hcounted
    rw [hcounted]
    exact ⟨⟨hfile, hpage⟩, hthere, hascending, htable⟩
  · obtain ⟨hstore, hthere', hwritten, -⟩ := exec_commit hfile hcommit
    refine ⟨⟨by rw [hstore], ?_⟩, hthere' hthere, ?_, ?_⟩
    · rw [hwritten rfl, standings?_page (ascending_apply hascending u), hcounted]
    · dsimp only
      rw [hstore]
      exact ascending_apply hascending u
    · dsimp only
      rw [hstore, hcounted]

theorem yields_writes (us : List Update) : Yields (Opened l standings) (us.forM fun u => Workspace.onTrust u.write)
    fun _ => Opened l (counted standings us) := by
  induction us generalizing standings with
  | nil =>
    refine yields_pure fun w hw => ?_
    rwa [show counted standings [] = standings from Option.map_id']
  | cons u us ih =>
    rw [forM_cons]
    refine (yields_write u).bind fun _ => ?_
    rw [show u :: us = [u] ++ us from rfl, counted_append]
    exact ih

theorem yields_inSection (us : List Update) :
    Yields (Filed l standings) (inSection l us) fun _ => Filed l (counted standings us) := by
  rintro w a w' ⟨hfile, hpage⟩ hrun
  rw [inSection, Engine.exec_locking, Workspace.exec_onLocks] at hrun
  have hpasses := passes_acquire (l := l) ⟨w.disk, w.held⟩
  rcases hacquire : (acquire l.lock).exec ⟨w.disk, w.held⟩ with ⟨cause | k, x⟩
  · rw [hacquire] at hrun
    cases (Prod.mk.inj hrun).1
  rw [hacquire] at hrun hpasses
  have hthere : l.There x.disk := Engine.there_of_openLock (Engine.openLock_of_acquire hacquire)
  rcases hact : (do
      Workspace.openTrust
      us.forM fun u => Workspace.onTrust u.write : Workspace.Step Unit).exec
        { w with disk := x.disk, held := x.held } with ⟨r, v⟩
  simp only [Except.mapError, hact] at hrun
  obtain ⟨rfl, rfl⟩ := Prod.mk.inj hrun
  have hbody : Yields (fun w => Filed l standings w ∧ l.There w.disk)
      (do
        Workspace.openTrust
        us.forM fun u => Workspace.onTrust u.write)
      fun _ => Opened l (counted standings us) := yields_open.bind fun _ => yields_writes us
  have hlocked : Filed l standings { w with disk := x.disk, held := x.held } :=
    ⟨hfile, (congrArg standings? hpasses.page).trans hpage⟩
  have hopened := hbody _ a v ⟨hlocked, hthere⟩ hact
  exact ⟨hopened.file, hopened.page⟩

theorem yields_inTurn (sections : List (List Update)) :
    Yields (Filed l standings) (inTurn l sections) fun _ => Filed l (counted standings sections.flatten) := by
  induction sections generalizing standings with
  | nil =>
    refine yields_pure fun w hw => ?_
    rwa [show counted standings [].flatten = standings from Option.map_id']
  | cons us sections ih =>
    rw [inTurn, forM_cons]
    refine (yields_inSection us).bind fun _ => ?_
    rw [List.flatten_cons, counted_append]
    exact ih

end Trust
end Mend
