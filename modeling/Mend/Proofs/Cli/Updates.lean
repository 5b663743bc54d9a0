import Mend.Cli.Run
import Mend.Proofs.Engine.Course
import Mend.Proofs.Engine.Turn

/-!
# Updates of trust

Cycles and the requests to disable or to enable a recipe are processes that share the file of trust
(`Trust.takesTurn_changeTrust`, `Engine.takesTurn_runCycle`). However they take turns, no update is lost
(**`Trust.updates_kept`**).
-/

namespace Mend.Trust

open Fs Fs.Disk Ledger
open Action
open Function (update)

variable {ι : Type} [DecidableEq ι] {l : Layout} {i : ι} {s : Site ι}

/-! ## Disabling and enabling -/

/-- A section with one update, which is written through. -/
theorem takesTurn_of_commit {h x : Locks} {k : Location} {store : Store} {u : Update} {y : Session} (hlocks : s.locks = h)
    (hi : s.holding i = none) (hacquire : (acquire l.lock).exec h = (.ok k, x))
    (hopen : Store.open l.trust x.disk = .ok store)
    (hwrite : (commit fun t => u.apply t).exec ⟨x.disk, store⟩ = (.ok (), y)) :
    TakesTurn l i s (some [u]) ⟨y.disk, x.held.erase k⟩ := by
  subst hlocks
  have htake := Step.take (l := l) hi hacquire
  have hread := Step.read (l := l) (s := { s with locks := x, holding := update s.holding i (some { lock := k }) })
    (i := i) (g := { lock := k }) (Function.update_self ..) hopen
  simp only [Function.update_idem] at hread
  have hwritten := Step.write (l := l) (u := u)
    (s := { s with locks := x, holding := update s.holding i (some { lock := k, store := some store }) })
    (i := i) (g := { lock := k, store := some store }) (Function.update_self ..) rfl hwrite
  simp only [Function.update_idem, List.nil_append] at hwritten
  have hleave := Step.leave (l := l)
    (s := { s with
      locks := ⟨y.disk, x.held⟩
      holding := update s.holding i (some { lock := k, store := some y.store, made := [u] }) })
    (i := i) (g := { lock := k, store := some y.store, made := [u] }) (Function.update_self ..)
  refine ⟨_, ((Relation.ReflTransGen.single htake).tail hread |>.tail hwritten).tail hleave, rfl, ?_, rfl⟩
  dsimp only
  rw [Function.update_idem, ← hi, Function.update_eq_self]

/-- The section of a request to disable or to enable a recipe. -/
theorem takesTurn_setDisabled {w : Workspace} (hlocks : s.locks = ⟨w.disk, w.held⟩) (hi : s.holding i = none)
    (hplaced : w.Placed l) (hfile : w.trust.file = some l.trust)
    (hedits : ∀ n p d, l.Passes d (w.around.edit n p d)) (recipe : String) (disabled : Bool)
    {r : Except Engine.Error Unit} {w' : Workspace}
    (hrun : (Workspace.locking l.lock do
      Workspace.openTrust
      Workspace.onTrust (setDisabled recipe disabled)).exec w = (r, w')) :
    w'.held = w.held ∧ (r = .ok () ∧ TakesTurn l i s (some [.setDisabled recipe disabled]) ⟨w'.disk, w'.held⟩ ∨
      (∃ cause, r = .error cause) ∧ ∃ us, TakesTurn l i s us ⟨w'.disk, w'.held⟩) := by
  have hturn : ∃ us, TakesTurn l i s us
      ⟨((Workspace.locking l.lock do
          Workspace.openTrust
          Workspace.onTrust (setDisabled recipe disabled)).exec w).2.disk,
        ((Workspace.locking l.lock do
          Workspace.openTrust
          Workspace.onTrust (setDisabled recipe disabled)).exec w).2.held⟩ := by
    refine takesTurn_locking hlocks hi hplaced hfile hedits fun k locked hlock hlocked => ?_
    rw [exec_bind]
    rcases hopen : Workspace.openTrust.exec locked with ⟨cause | ⟨⟩, v⟩
    · rcases hlocked.openTrust hopen with ⟨hok, -⟩ | ⟨-, hv⟩
      · cases hok
      · exact hv
    · rcases hlocked.openTrust hopen with ⟨-, hv⟩ | ⟨⟨cause, herror⟩, -⟩
      · exact (Underway.keeps_write (.setDisabled recipe disabled) v hv).weaken
      · cases herror
  rw [hrun] at hturn
  rw [Engine.exec_locking, Workspace.exec_onLocks] at hrun
  rcases hacquire : (acquire l.lock).exec ⟨w.disk, w.held⟩ with ⟨cause | k, x⟩
  · rw [hacquire] at hrun
    obtain ⟨rfl, rfl⟩ := Prod.mk.inj hrun
    exact ⟨acquire_error hacquire, .inr ⟨⟨_, rfl⟩, hturn⟩⟩
  rw [hacquire] at hrun
  obtain ⟨-, -, hheld⟩ := acquire_ok hacquire
  have hback : x.held.erase k = w.held := by rw [hheld, List.erase_cons_head]
  simp only [Except.mapError] at hrun
  rw [Workspace.openTrust, bind_assoc, exec_bind_ok (exec_get _)] at hrun
  simp only [hfile] at hrun
  rw [exec_bind, exec_update] at hrun
  cases hopen : Store.open l.trust x.disk with
  | error cause =>
    simp only [hopen] at hrun
    obtain ⟨rfl, rfl⟩ := Prod.mk.inj hrun
    exact ⟨hback, .inr ⟨⟨_, rfl⟩, hturn⟩⟩
  | ok store =>
    simp only [hopen, Workspace.exec_onTrust] at hrun
    rcases hwrite : (setDisabled recipe disabled).exec ⟨x.disk, store⟩ with ⟨cause | ⟨⟩, y⟩
    · rw [hwrite] at hrun
      obtain ⟨rfl, rfl⟩ := Prod.mk.inj hrun
      exact ⟨hback, .inr ⟨⟨_, rfl⟩, hturn⟩⟩
    · rw [hwrite] at hrun
      obtain ⟨rfl, rfl⟩ := Prod.mk.inj hrun
      exact ⟨hback, .inl ⟨rfl, takesTurn_of_commit (u := .setDisabled recipe disabled) hlocks hi hacquire hopen hwrite⟩⟩

/-- **A request to disable or to enable a recipe is one of the processes.** If it succeeds, it has made its update. -/
theorem takesTurn_changeTrust {h : Cli.Host} {c : Config} {recipe : String} {disabled : Bool} {x x' : Cli.Session}
    (hlocks : s.locks = ⟨x.disk, h.locked⟩) (hi : s.holding i = none) {r : Except Cli.Trace Unit}
    (hrun : (Cli.changeTrust h l c recipe disabled).exec x = (r, x')) :
    r = .ok () ∧ TakesTurn l i s (some [.setDisabled recipe disabled]) ⟨x'.disk, h.locked⟩ ∨
      (∃ cause, r = .error cause) ∧ ∃ us, TakesTurn l i s us ⟨x'.disk, h.locked⟩ := by
  have hidle : TakesTurn l i s none ⟨x.disk, h.locked⟩ := ⟨s, .refl, hlocks, rfl, (List.append_nil _).symm⟩
  rw [Cli.changeTrust, exec_bind, Cli.orFail, exec_query] at hrun
  cases hregistry : c.registry with
  | error cause =>
    rw [hregistry] at hrun
    obtain ⟨rfl, rfl⟩ := Prod.mk.inj hrun
    exact .inr ⟨⟨_, rfl⟩, none, hidle⟩
  | ok g =>
  rw [hregistry] at hrun
  by_cases hknown : Ordered.contains g recipe
  swap
  · simp only [Except.mapError, hknown] at hrun
    obtain ⟨rfl, rfl⟩ := Prod.mk.inj hrun
    exact .inr ⟨⟨_, rfl⟩, none, hidle⟩
  simp only [Except.mapError, hknown] at hrun
  rw [if_neg (by decide), exec_bind, Cli.within, exec_zoom, exec_mapError] at hrun
  rcases hsection : (Workspace.locking l.lock do
      Workspace.openTrust
      Workspace.onTrust (setDisabled recipe disabled)).exec
        { Workspace.onDisk l x.disk with held := h.locked } with ⟨r', w'⟩
  obtain ⟨hheld, hturn⟩ := takesTurn_setDisabled (w := { Workspace.onDisk l x.disk with held := h.locked })
    hlocks hi (Workspace.placed_onDisk l x.disk h.locked) rfl (fun _ _ d => .refl l d) recipe disabled hsection
  rw [show w'.held = h.locked from hheld] at hturn
  rw [hsection] at hrun
  rcases hturn with ⟨rfl, hturn⟩ | ⟨⟨cause, rfl⟩, us, hturn⟩
  · obtain ⟨rfl, rfl⟩ := Prod.mk.inj hrun
    exact .inl ⟨rfl, hturn⟩
  · obtain ⟨rfl, rfl⟩ := Prod.mk.inj hrun
    exact .inr ⟨⟨_, rfl⟩, us, hturn⟩

/-! ## All together -/

/-- What the processes have made of the file of trust, once nobody is in a section any more. -/
structure NothingLost (l : Layout) (s s' : Site ι) : Prop where
  /-- The file says what the updates of the sections make of it, in the order of the sections. -/
  counted : standings? (l.page s'.locks.disk) = counted (standings? (l.page s.locks.disk)) s'.updates
  /-- This is what the same sections leave if they run one after the other. -/
  inTurn : ∀ w w', w.trust.file = some l.trust → l.page w.disk = l.page s.locks.disk →
    (inTurn l (s'.done.map Prod.snd)).exec w = (.ok (), w') →
      standings? (l.page w'.disk) = standings? (l.page s'.locks.disk)
  /-- Every outcome counts once and the last toggle decides, recipe by recipe. -/
  recipes : ∀ t ∈ standings? (l.page s.locks.disk), ∃ t' ∈ standings? (l.page s'.locks.disk), ∀ recipe,
    (∀ o, ((t'.standing recipe).tally o).toNat =
      min (((t.standing recipe).tally o).toNat + s'.updates.countP (Update.Counts recipe o)) (UInt32.size - 1)) ∧
    (t'.standing recipe).disabled =
      ((s'.updates.filterMap (Update.flag? recipe)).getLast?).getD (t.standing recipe).disabled

/-- **No update of trust is lost.** However processes take turns, counters and flags in the file of trust are those that
the completed sections make of it one after the other. A cycle is such a process if nobody but the ledger touches the
books, and so is a request to disable or to enable a recipe. -/
theorem updates_kept :
    (∀ (l : Layout) (s s' : Site ι), (∀ i, s.holding i = none) → s.done = [] → Steps l s s' →
      (∀ i, s'.holding i = none) → NothingLost l s s') ∧
    (∀ (e : Engine) (id : CycleId) (now : Time) (w : Workspace) (i : ι) (s : Site ι), e.Undisturbed id now w →
      w.trust.file = some e.layout.trust → s.locks = ⟨w.disk, w.held⟩ → s.holding i = none →
        ∃ us, TakesTurn e.layout i s us ⟨((e.runCycle id now).exec w).2.disk, ((e.runCycle id now).exec w).2.held⟩) ∧
    ∀ (l : Layout) (h : Cli.Host) (c : Config) (recipe : String) (disabled : Bool) (x : Cli.Session) (i : ι) (s : Site ι),
      s.locks = ⟨x.disk, h.locked⟩ → s.holding i = none → ∀ r x',
        (Cli.changeTrust h l c recipe disabled).exec x = (r, x') →
          r = .ok () ∧ TakesTurn l i s (some [.setDisabled recipe disabled]) ⟨x'.disk, h.locked⟩ ∨
            (∃ cause, r = .error cause) ∧ ∃ us, TakesTurn l i s us ⟨x'.disk, h.locked⟩ := by
  refine ⟨fun l s s' hidle hdone hsteps hidle' => ?_, fun e id now w i s h hfile hlocks hi => ?_,
    fun l h c recipe disabled x i s hlocks hi r x' hrun => ?_⟩
  · have hcounted := standings_of_steps hidle hdone hsteps hidle'
    refine ⟨hcounted, fun w w' hfile hpage hrun => ?_, fun t ht => ?_⟩
    · have hfiled := yields_inTurn (s'.done.map Prod.snd) w ⟨⟩ w' ⟨hfile, rfl⟩ hrun
      rw [hfiled.page, hpage, hcounted, Site.updates, ← List.flatMap_def]
    · refine ⟨s'.updates.foldl Update.count t, ?_, fun recipe => ⟨fun o => ?_, ?_⟩⟩
      · rw [hcounted, counted, Option.mem_def.mp ht]
        rfl
      · exact tally_foldl s'.updates t recipe o
      · exact disabled_foldl s'.updates t recipe
  · exact Engine.takesTurn_runCycle h hfile hlocks hi
  · exact takesTurn_changeTrust hlocks hi hrun

/-! ### One folder -/

/-- A folder with a file that ends in a blank. -/
def plain : Disk := ⟨[("w", .dir [("a", .file "x\n ".toUTF8 newMode)])]⟩

/-- The folder, with the table of trust in its file. -/
def shelved : Workspace :=
  { Workspace.inMemory [] plain with trust := ⟨some Engine.passing.layout.trust, []⟩ }

set_option maxRecDepth 100000 in
theorem undisturbed_shelved : Engine.passing.Undisturbed default default shelved where
  placed := ⟨fun p hp => (Option.some.inj hp).symm, nofun, nofun, nofun⟩
  edits n p d := ⟨fun _ _ => rfl, fun _ h => h⟩
  tools := ⟨fun _ _ => ⟨fun _ _ => rfl, fun _ h => h⟩, fun _ => ⟨fun _ _ => rfl, fun _ h => h⟩⟩
  batch a ha p hp hcovers := by
    have hfiles : (Engine.passing.acting? default default shelved).map
        (fun a => (a.batch Engine.passing).map Prepared.file) = some [⟨["a"]⟩] := by decide +kernel
    rw [Option.mem_def.mp ha, Option.map_some, Option.some.injEq] at hfiles
    have hmem : p.file ∈ (a.batch Engine.passing).map Prepared.file := List.mem_map_of_mem hp
    rw [hfiles, List.mem_singleton] at hmem
    obtain ⟨q, hq | hq | hq, hm⟩ := hcovers
    · obtain rfl := Option.some.inj hq
      rw [hmem] at hm
      exact absurd hm (by decide)
    · cases hq
    · cases hq
  snapshot c hc := by
    have hnone : (Engine.passing.failure? default default shelved).isNone = true := by decide +kernel
    rw [Option.mem_def.mp hc] at hnone
    cases hnone

/-- The disk after a process was given the lock. -/
def given (l : Layout) (d : Disk) : Disk := ((acquire l.lock).exec ⟨d, []⟩).2.disk

/-- What comes of an update of a table that was opened then. -/
def written (l : Layout) (d : Disk) (t : Table) (u : Update) : Except Ledger.Error Unit × Session :=
  (commit fun t => u.apply t).exec ⟨given l d, ⟨some l.trust, t⟩⟩

/-- A section succeeds if each of its steps does. -/
theorem takesTurn_of_success {d : Disk} {t : Table} {u : Update} (hlocks : s.locks = ⟨d, []⟩) (hi : s.holding i = none)
    (hacquire : ((acquire l.lock).exec ⟨d, []⟩).1.toOption.isSome = true)
    (hopen : Store.open l.trust (given l d) = .ok ⟨some l.trust, t⟩)
    (hwrite : (written l d t u).1.toOption.isSome = true) :
    TakesTurn l i s (some [u]) ⟨(written l d t u).2.disk, []⟩ := by
  rcases hlock : (acquire l.lock).exec ⟨d, []⟩ with ⟨cause | k, x⟩
  · rw [hlock] at hacquire
    cases hacquire
  have hgiven : given l d = x.disk := by rw [given, hlock]
  rcases hrun : written l d t u with ⟨cause | ⟨⟩, y⟩
  · rw [hrun] at hwrite
    cases hwrite
  · rw [written, hgiven] at hrun
    obtain ⟨-, -, hheld⟩ := acquire_ok hlock
    have hturn := takesTurn_of_commit hlocks hi hlock (hgiven ▸ hopen) hrun
    rwa [hheld, List.erase_cons_head] at hturn

theorem open_of_empty {d : Disk} (h : (readOrEmpty l.trust d).toOption.map ByteArray.size = some 0) :
    Store.open l.trust d = .ok ⟨some l.trust, []⟩ := by
  cases hcontent : readOrEmpty l.trust d with
  | error cause =>
    rw [hcontent] at h
    cases h
  | ok content =>
    rw [hcontent] at h
    simp only [Store.open, hcontent, Option.some.inj h, if_true]

/-- A table that was written is opened, if its scores can be read. -/
theorem open_of_page {d : Disk} {t t' : Table} (hthere : l.There d)
    (hread : (readOrEmpty l.trust d).toOption.isSome = true) (hpage : l.page d = Stored.page t)
    (ht : Table.ofJson? (.obj (t.map fun e => (e.1, recordReread e.2.toJson))) = some t') :
    Store.open l.trust d = .ok ⟨some l.trust, t'⟩ := by
  cases hcontent : readOrEmpty l.trust d with
  | error cause =>
    rw [hcontent] at hread
    cases hread
  | ok content =>
    have hbytes : content = Stored.page t := (Engine.readOrEmpty_child hthere (by decide) (by decide) hcontent).trans hpage
    have htable : (Stored.ofBytes? content : Option Table) = some t' := by
      rw [hbytes, Stored.ofBytes?, parseBytes_page, Option.bind_some]
      exact ht
    have hsize : content.size ≠ 0 := hbytes ▸ size_page t
    simp only [Store.open, hcontent, htable, if_neg hsize]

/-- One recipe is disabled, and then another one. -/
def disabling : Update := .setDisabled "trailing-whitespace" true

def disablingOther : Update := .setDisabled "final-newline" true

/-- The table as it is read after the first of these updates. -/
def reread : Table :=
  (Table.ofJson? (.obj ((disabling.apply []).map fun e => (e.1, recordReread e.2.toJson)))).getD []

/-- The disk after the first of the updates. -/
def disabledOne : Disk := (written Engine.passing.layout plain [] disabling).2.disk

/-- The disk after both updates. -/
def disabledBoth : Disk := (written Engine.passing.layout disabledOne reread disablingOther).2.disk

set_option maxRecDepth 100000 in
theorem takesTurn_plain : TakesTurn Engine.passing.layout true (⟨⟨plain, []⟩, fun _ => none, []⟩ : Site Bool)
    (some [disabling]) ⟨disabledOne, []⟩ :=
  takesTurn_of_success rfl rfl (by decide +kernel) (open_of_empty (by decide +kernel)) (by decide +kernel)

set_option maxRecDepth 100000 in
theorem takesTurn_disabledOne {s : Site Bool} (hlocks : s.locks = ⟨disabledOne, []⟩) (hi : s.holding false = none) :
    TakesTurn Engine.passing.layout false s (some [disablingOther]) ⟨disabledBoth, []⟩ := by
  have hacquire : ((acquire Engine.passing.layout.lock).exec ⟨disabledOne, []⟩).1.toOption.isSome = true := by
    decide +kernel
  have hthere : Engine.passing.layout.There (given Engine.passing.layout disabledOne) := by
    rcases hlock : (acquire Engine.passing.layout.lock).exec ⟨disabledOne, []⟩ with ⟨cause | k, x⟩
    · rw [hlock] at hacquire
      cases hacquire
    · rw [given, hlock]
      exact Engine.there_of_openLock (Engine.openLock_of_acquire hlock)
  have hpage : Engine.passing.layout.page (given Engine.passing.layout disabledOne) = Stored.page (disabling.apply []) := by
    have hok : (written Engine.passing.layout plain [] disabling).1.toOption.isSome = true := by decide +kernel
    rcases hrun : written Engine.passing.layout plain [] disabling with ⟨cause | ⟨⟩, y⟩
    · rw [hrun] at hok
      cases hok
    · obtain ⟨-, -, hwritten, -⟩ := exec_commit (l := Engine.passing.layout) rfl hrun
      rw [given, (passes_acquire ⟨disabledOne, []⟩).page, disabledOne, hrun]
      exact hwritten rfl
  have hreread : Table.ofJson? (.obj ((disabling.apply []).map fun e => (e.1, recordReread e.2.toJson))) = some reread := by
    have hsome : (Table.ofJson? (.obj ((disabling.apply []).map
      fun e => (e.1, recordReread e.2.toJson)))).isSome = true := by decide +kernel
    obtain ⟨t, ht⟩ := Option.isSome_iff_exists.mp hsome
    rw [reread, ht, Option.getD_some]
  exact takesTurn_of_success hlocks hi hacquire (open_of_page hthere (by decide +kernel) hpage hreread) (by decide +kernel)

/-- Both recipes are disabled in the end, a cycle runs in the same folder, and a request is carried out there. -/
theorem updates_kept_plain :
    (∃ s' : Site Bool, Steps Engine.passing.layout ⟨⟨plain, []⟩, fun _ => none, []⟩ s' ∧
      s'.done = [(true, [disabling]), (false, [disablingOther])] ∧
      standings? (Engine.passing.layout.page s'.locks.disk) =
        some [("final-newline", { disabled := true }), ("trailing-whitespace", { disabled := true })]) ∧
    (∃ us, TakesTurn Engine.passing.layout true (⟨⟨plain, []⟩, fun _ => none, []⟩ : Site Bool) us
      ⟨((Engine.passing.runCycle default default).exec shelved).2.disk,
        ((Engine.passing.runCycle default default).exec shelved).2.held⟩) ∧
    ∀ h : Cli.Host, h.locked = [] → ∃ us, TakesTurn Engine.passing.layout true (⟨⟨plain, []⟩, fun _ => none, []⟩ : Site Bool)
      us ⟨((Cli.changeTrust h Engine.passing.layout {} "trailing-whitespace" true).exec { disk := plain }).2.disk, h.locked⟩ := by
  obtain ⟨hinterleaved, hcycle, hrequest⟩ := updates_kept (ι := Bool)
  refine ⟨?_, hcycle Engine.passing default default shelved true _ undisturbed_shelved rfl rfl rfl, fun h hlocked => ?_⟩
  · obtain ⟨s₁, hsteps₁, hlocks₁, hholding₁, hdone₁⟩ := takesTurn_plain
    obtain ⟨s₂, hsteps₂, hlocks₂, hholding₂, hdone₂⟩ := takesTurn_disabledOne hlocks₁ (by rw [hholding₁])
    have hdone : s₂.done = [(true, [disabling]), (false, [disablingOther])] := by
      rw [hdone₂, hdone₁]
      rfl
    have hkept := (hinterleaved Engine.passing.layout _ s₂ (fun _ => rfl) rfl (hsteps₁.trans hsteps₂) fun i => by
      rw [hholding₂, hholding₁]).counted
    have hempty : standings? (Engine.passing.layout.page plain) = some [] := if_pos (by decide +kernel)
    refine ⟨s₂, hsteps₁.trans hsteps₂, hdone, ?_⟩
    rw [hkept, hempty, Site.updates, hdone]
    decide +kernel
  · rcases hrun : (Cli.changeTrust h Engine.passing.layout {} "trailing-whitespace" true).exec { disk := plain } with ⟨r, x⟩
    rcases hrequest Engine.passing.layout h {} "trailing-whitespace" true { disk := plain } true
      ⟨⟨plain, []⟩, fun _ => none, []⟩ (by rw [hlocked]) rfl r x hrun with ⟨-, hturn⟩ | ⟨-, us, hturn⟩
    · exact ⟨_, hturn⟩
    · exact ⟨us, hturn⟩

end Mend.Trust
