import Mend.Proofs.Ledger.Standing
import Mend.Proofs.Ledger.WriteFrame

/-!
# Updates of trust that could not be written

An update changes the table first and writes it then. When the write fails, the file is as it was, but the table is not:
the update waits there, `get` and `all` show it, and the next update that is written takes it along. So the table is what
the file was made of, with the waiting updates on top (`Reached.behind`, along any calls), and every call extends or ends the
waiting (`unwritten_waits`). A recipe that only a waiting update made known counts as known: making sure of it once more
writes nothing.
-/

namespace Mend.Trust

open Fs (Disk Place)
open Fs.Disk (resolve)
open Ledger (Mishaps atomicWriteAmid atomicWriteAmid_none atomicWriteAmid_cases resolve_temporary_ne)

/-! ## Calls that may fail -/

/-- Changes the table, and writes it through amid mishaps. -/
def commitAmid (x : Mishaps) (change : Table → Table) : Action Session Ledger.Error Unit :=
  Action.ofFun fun s =>
    let table := change s.store.table
    let store := { s.store with table := table }
    match s.store.file with
    | none => (.ok (), { s with store := store })
    | some p =>
      let (r, disk) := (atomicWriteAmid x p (Stored.page table)).exec s.disk
      (r, ⟨disk, store⟩)

namespace Update

/-- The recipe that is updated. -/
def recipe : Update → String
  | ensure recipe => recipe
  | observe recipe _ _ _ => recipe
  | setDisabled recipe _ => recipe

/-- There is nothing to do. -/
def Settled (t : Table) : Update → Bool
  | ensure recipe => Ordered.contains t recipe
  | observe _ _ _ _ => false
  | setDisabled _ _ => false

/-- The update of a store amid mishaps. -/
def writeAmid (x : Mishaps) (u : Update) : Action Session Ledger.Error Unit := do
  let s ← get
  if u.Settled s.store.table then pure () else commitAmid x fun t => u.apply t

end Update

/-- Without mishaps, the update is the one that is carried out. -/
theorem exec_writeAmid_none (u : Update) (s : Session) : (u.writeAmid {}).exec s = u.write.exec s := by
  have hcommit (change : Table → Table) : (commitAmid {} change).exec s = (commit change).exec s := by
    unfold commitAmid commit
    rw [Action.exec_ofFun, Action.exec_ofFun]
    cases s.store.file with
    | none => rfl
    | some p =>
      dsimp only
      rw [atomicWriteAmid_none]
  unfold Update.writeAmid
  rw [Action.exec_bind_ok (Action.exec_get s)]
  cases u with
  | ensure recipe =>
    unfold Update.write ensure
    rw [Action.exec_bind_ok (Action.exec_get s), Update.Settled]
    split
    · rfl
    · exact hcommit _
  | observe recipe o rate now =>
    rw [Update.Settled, if_neg Bool.false_ne_true, hcommit]
    unfold Update.write recordOutcome
    rw [Action.exec_bind, Action.exec_bind]
    show (commit fun t => t.observe recipe o rate now).exec s = _
    rcases (commit fun t => t.observe recipe o rate now).exec s with ⟨cause | ⟨⟩, y⟩ <;> rfl
  | setDisabled recipe disabled =>
    rw [Update.Settled, if_neg Bool.false_ne_true]
    exact hcommit _

/-! ## The file and the table -/

/-- The bytes of the file of trust; none if there is no file. -/
def page (p : Place) (d : Disk) : ByteArray := (d.fileAt (resolve [] p.location)).getD ByteArray.empty

section

variable {x : Mishaps} {p : Place} {u : Update} {s s' : Session} {saved : Table} {waiting : List Update}

theorem page_of_read {d : Disk} {content : ByteArray} (h : d.read p.location = .ok content) : page p d = content := by
  obtain ⟨l, mode, hlocate, hfile⟩ := Fs.Disk.locate_of_read h
  unfold page
  rw [← Fs.Disk.locate_eq_resolve hlocate, Fs.Disk.fileAt_of_file hfile, Option.getD_some]

/-- A call that fails leaves the file and changes the table. One that succeeds had nothing to do, or the file has the
table. -/
theorem exec_writeAmid {r : Except Ledger.Error Unit} (hfile : s.store.file = some p)
    (h : (u.writeAmid x).exec s = (r, s')) :
    (r = .ok () ∧ s' = s ∧ u.Settled s.store.table = true) ∨
      u.Settled s.store.table = false ∧ s'.store = ⟨some p, u.apply s.store.table⟩ ∧
        match r with
        | .ok () => page p s'.disk = Stored.page (u.apply s.store.table)
        | .error _ => page p s'.disk = page p s.disk := by
  unfold Update.writeAmid at h
  rw [Action.exec_bind_ok (Action.exec_get s)] at h
  by_cases hsettled : u.Settled s.store.table = true
  · rw [if_pos hsettled] at h
    obtain ⟨rfl, rfl⟩ := Prod.mk.inj h
    exact .inl ⟨rfl, rfl, hsettled⟩
  rw [if_neg hsettled] at h
  refine .inr ⟨Bool.eq_false_iff.mpr hsettled, ?_⟩
  unfold commitAmid at h
  rw [Action.exec_ofFun, hfile] at h
  rcases hrun : (atomicWriteAmid x p (Stored.page (u.apply s.store.table))).exec s.disk with ⟨r', d'⟩
  dsimp only at h
  rw [hrun] at h
  obtain ⟨rfl, rfl⟩ := Prod.mk.inj h
  refine ⟨by rw [hfile], ?_⟩
  rcases atomicWriteAmid_cases hrun with ⟨rfl, hmoved⟩ | ⟨⟨e, rfl⟩, habandoned⟩
  · exact page_of_read hmoved.frame.2.1
  · have hkept := habandoned.frame.1 _ (resolve_temporary_ne p).symm
    dsimp only
    unfold page
    rw [hkept.fileAt]

end

/-! ## Any sequence of calls -/

/-- The states of a store that was opened on a file, with the table that the file was made of and the updates that wait to
be written. Other programs may do anything to the disk, but leave the file. -/
inductive Reached (p : Place) : Session → Table → List Update → Prop
  | opened {d : Disk} {store : Store} (h : Store.open p d = .ok store)
      (habsent : d.read p.location = .error .notFound → d.fileAt (resolve [] p.location) = none) :
      Reached p ⟨d, store⟩ store.table []
  | aside {s saved waiting} {d : Disk} (h : Reached p s saved waiting)
      (hfile : d.fileAt (resolve [] p.location) = s.disk.fileAt (resolve [] p.location)) :
      Reached p ⟨d, s.store⟩ saved waiting
  | settled {s s' saved waiting} {x : Mishaps} {u : Update} (h : Reached p s saved waiting)
      (hu : u.Settled s.store.table = true) (hrun : (u.writeAmid x).exec s = (.ok (), s')) :
      Reached p s' saved waiting
  | wrote {s s' saved waiting} {x : Mishaps} {u : Update} (h : Reached p s saved waiting)
      (hu : u.Settled s.store.table = false) (hrun : (u.writeAmid x).exec s = (.ok (), s')) :
      Reached p s' (u.apply s.store.table) []
  | failed {s s' saved waiting} {x : Mishaps} {u : Update} {e : Ledger.Error} (h : Reached p s saved waiting)
      (hrun : (u.writeAmid x).exec s = (.error e, s')) :
      Reached p s' saved (waiting ++ [u])

/-- The table is what the file was made of, with the waiting updates on top. -/
structure Behind (p : Place) (s : Session) (saved : Table) (waiting : List Update) : Prop where
  file : s.store.file = some p
  ascending : Ordered.Ascending saved
  content : standings? (page p s.disk) = some saved.standings
  table : s.store.table = waiting.foldl Update.apply saved

theorem ascending_foldl {saved : Table} (h : Ordered.Ascending saved) (us : List Update) :
    Ordered.Ascending (us.foldl Update.apply saved) := by
  induction us generalizing saved with
  | nil => exact h
  | cons u us ih => exact ih (ascending_apply h u)

theorem behind_of_open {p : Place} {d : Disk} {store : Store} (h : Store.open p d = .ok store)
    (habsent : d.read p.location = .error .notFound → d.fileAt (resolve [] p.location) = none) :
    Behind p ⟨d, store⟩ store.table [] := by
  unfold Store.open at h
  cases hread : Ledger.readOrEmpty p d with
  | error e =>
    rw [hread] at h
    cases h
  | ok content =>
    rw [hread] at h
    have hpage : page p d = content := by
      unfold Ledger.readOrEmpty at hread
      split at hread
      · next bytes hbytes =>
        obtain rfl := Except.ok.inj hread
        exact page_of_read hbytes
      · next hnone =>
        obtain rfl := Except.ok.inj hread
        unfold page
        rw [habsent hnone, Option.getD_none]
      · cases hread
    dsimp only at h
    split at h
    · next hsize =>
      obtain rfl := Except.ok.inj h
      refine ⟨rfl, List.Pairwise.nil, ?_, rfl⟩
      rw [hpage, standings?, if_pos hsize]
      rfl
    · next hsize =>
      split at h
      · next t ht =>
        obtain rfl := Except.ok.inj h
        exact ⟨rfl, ascending_of_ofBytes? ht, by rw [hpage, standings?_of_ofBytes? hsize ht], rfl⟩
      · cases h

theorem Reached.behind {p : Place} {s : Session} {saved : Table} {waiting : List Update}
    (h : Reached p s saved waiting) : Behind p s saved waiting := by
  induction h with
  | opened h habsent => exact behind_of_open h habsent
  | @aside s saved waiting d _ hfile ih =>
    have hpage : page p d = page p s.disk := by
      unfold page
      rw [hfile]
    exact ⟨ih.file, ih.ascending, by rw [hpage, ih.content], ih.table⟩
  | settled _ hu hrun ih =>
    rcases exec_writeAmid ih.file hrun with ⟨-, rfl, -⟩ | ⟨hnot, -⟩
    · exact ih
    · rw [hu] at hnot
      cases hnot
  | @wrote s s' saved waiting x u _ hu hrun ih =>
    rcases exec_writeAmid ih.file hrun with ⟨-, -, hyes⟩ | ⟨-, hstore, hpage⟩
    · rw [hu] at hyes
      cases hyes
    · have hascending : Ordered.Ascending (u.apply s.store.table) := by
        rw [ih.table]
        exact ascending_apply (ascending_foldl ih.ascending waiting) u
      exact ⟨by rw [hstore], hascending, by rw [hpage, standings?_page hascending], by rw [hstore]; rfl⟩
  | failed _ hrun ih =>
    rcases exec_writeAmid ih.file hrun with ⟨hok, -⟩ | ⟨-, hstore, hpage⟩
    · cases hok
    · refine ⟨by rw [hstore], ih.ascending, by rw [hpage, ih.content], ?_⟩
      rw [hstore, List.foldl_append, ← ih.table]
      rfl

/-! ## What waits is written -/

theorem contains_apply (t : Table) (u : Update) (recipe : String) :
    Ordered.contains (u.apply t) recipe = true ↔ Ordered.contains t recipe = true ∨ u.recipe = recipe := by
  have hinsert (k : String) (r : Record) :
      Ordered.contains (Ordered.insert t k r) recipe = true ↔ Ordered.contains t recipe = true ∨ k = recipe := by
    rw [Ordered.contains_insert, Bool.or_eq_true, beq_iff_eq, Std.LawfulEqOrd.compare_eq_iff_eq, or_comm, @eq_comm _ recipe]
  cases u with
  | ensure k =>
    show Ordered.contains (t.ensure k) recipe = true ↔ _ ∨ k = recipe
    unfold Table.ensure
    by_cases hk : Ordered.contains t k = true
    · rw [if_pos hk]
      constructor
      · exact .inl
      · rintro (h | rfl)
        · exact h
        · exact hk
    · rw [if_neg hk]
      exact hinsert k _
  | observe k o rate now => exact hinsert k _
  | setDisabled k disabled => exact hinsert k _

theorem contains_foldl (t : Table) (us : List Update) (recipe : String) :
    Ordered.contains (us.foldl Update.apply t) recipe = true ↔
      Ordered.contains t recipe = true ∨ ∃ u ∈ us, u.recipe = recipe := by
  induction us generalizing t with
  | nil => simp
  | cons u us ih =>
    rw [List.foldl_cons, ih, contains_apply, List.exists_mem_cons_iff]
    tauto

/-- **What could not be written waits.** Whatever calls there were and whichever of them failed, the file says what it was
made of, and the table has the updates besides that failed since. A call that fails leaves the file, and its update is in
the table. One that succeeds had nothing to do, or puts the whole table into the file. When making sure of a recipe
succeeds, the file has a record of it, or an update of it waits. -/
theorem unwritten_waits {p : Place} {s : Session} {saved : Table} {waiting : List Update}
    (h : Reached p s saved waiting) :
    (s.store.table = waiting.foldl Update.apply saved ∧ standings? (page p s.disk) = some saved.standings) ∧
      (∀ u : Update, (u.writeAmid {}).exec s = u.write.exec s) ∧
      (∀ x (u : Update) e s', (u.writeAmid x).exec s = (.error e, s') →
        page p s'.disk = page p s.disk ∧ s'.store.table = u.apply s.store.table) ∧
      (∀ x (u : Update) s', (u.writeAmid x).exec s = (.ok (), s') →
        u.Settled s.store.table = true ∧ s' = s ∨
          s'.store.table = u.apply s.store.table ∧ page p s'.disk = Stored.page s'.store.table) ∧
      ∀ x recipe s', ((Update.ensure recipe).writeAmid x).exec s = (.ok (), s') →
        (∃ known, standings? (page p s'.disk) = some known ∧ Ordered.contains known recipe = true) ∨
          s' = s ∧ ∃ u ∈ waiting, u.recipe = recipe := by
  obtain ⟨hfile, hascending, hcontent, htable⟩ := h.behind
  refine ⟨⟨htable, hcontent⟩, fun u => exec_writeAmid_none u s, ?_, ?_, ?_⟩
  · intro x u e s' hrun
    rcases exec_writeAmid hfile hrun with ⟨hok, -⟩ | ⟨-, hstore, hpage⟩
    · cases hok
    · exact ⟨hpage, by rw [hstore]⟩
  · intro x u s' hrun
    rcases exec_writeAmid hfile hrun with ⟨-, hsame, hsettled⟩ | ⟨-, hstore, hpage⟩
    · exact .inl ⟨hsettled, hsame⟩
    · exact .inr ⟨by rw [hstore], by rw [hpage, hstore]⟩
  · intro x recipe s' hrun
    rcases exec_writeAmid hfile hrun with ⟨-, rfl, hsettled⟩ | ⟨-, -, hpage⟩
    · change Ordered.contains s'.store.table recipe = true at hsettled
      rw [htable, contains_foldl] at hsettled
      rcases hsettled with hsaved | hwaiting
      · refine .inl ⟨_, hcontent, ?_⟩
        rwa [Table.standings, Ordered.contains_mapValues]
      · exact .inr ⟨rfl, hwaiting⟩
    · have hall : Ordered.Ascending ((Update.ensure recipe).apply s.store.table) := by
        rw [htable]
        exact ascending_apply (ascending_foldl hascending waiting) _
      refine .inl ⟨_, by rw [hpage, standings?_page hall], ?_⟩
      rw [Table.standings, Ordered.contains_mapValues, contains_apply]
      exact .inr rfl

/-! ## A recipe that is known and not written -/

/-- A directory stands where the temporary file of the table would be. -/
def obstructed : Disk := ⟨[("trust.json.remedy-tmp", .dir [])]⟩

/-- The place of the table. -/
def atRoot : Place := ⟨["trust.json"], "/trust.json"⟩

/-- The table is opened, and then making sure of a recipe fails. -/
theorem reached_obstructed :
    ∃ e, ((Update.ensure "r").writeAmid {}).exec ⟨obstructed, ⟨some atRoot, []⟩⟩ =
        (.error e, ⟨obstructed, ⟨some atRoot, [("r", Record.neutral)]⟩⟩) ∧
      Reached atRoot ⟨obstructed, ⟨some atRoot, []⟩⟩ [] [] ∧
      Reached atRoot ⟨obstructed, ⟨some atRoot, [("r", Record.neutral)]⟩⟩ [] [.ensure "r"] := by
  have hopened : Reached atRoot ⟨obstructed, ⟨some atRoot, []⟩⟩ [] [] := .opened rfl fun _ => rfl
  have hrun : ((Update.ensure "r").writeAmid {}).exec ⟨obstructed, ⟨some atRoot, []⟩⟩ =
      (.error (.io (Ledger.temporary atRoot) .isDirectory), ⟨obstructed, ⟨some atRoot, [("r", Record.neutral)]⟩⟩) := by
    rw [exec_writeAmid_none]
    rfl
  exact ⟨_, hrun, hopened, hopened.failed hrun⟩

/-- Making sure of the recipe once more succeeds, since it waits, and there is no file. -/
theorem unwritten_waits_obstructed :
    ∃ s, Reached atRoot s [] [.ensure "r"] ∧ ((Update.ensure "r").writeAmid {}).exec s = (.ok (), s) ∧
      page atRoot s.disk = ByteArray.empty ∧ ∃ u ∈ [Update.ensure "r"], u.recipe = "r" := by
  obtain ⟨-, -, -, hfailed⟩ := reached_obstructed
  have hagain : ((Update.ensure "r").writeAmid {}).exec ⟨obstructed, ⟨some atRoot, [("r", Record.neutral)]⟩⟩ =
      (.ok (), ⟨obstructed, ⟨some atRoot, [("r", Record.neutral)]⟩⟩) := rfl
  refine ⟨_, hfailed, hagain, rfl, ?_⟩
  obtain ⟨-, -, -, -, hensured⟩ := unwritten_waits hfailed
  rcases hensured {} "r" _ hagain with ⟨known, hknown, hmem⟩ | ⟨-, hwaits⟩
  · have hnone : standings? (page atRoot obstructed) = some [] := rfl
    rw [hnone] at hknown
    obtain rfl := Option.some.inj hknown
    cases hmem
  · exact hwaits

/-- A failed update leaves a trace in the table, and a recipe may be made sure of without a record of it in the file. -/
theorem failed_update_stays :
    (¬ ∀ (p : Place) (s s' : Session) (saved : Table) (waiting : List Update) (u : Update) (e : Ledger.Error),
        Reached p s saved waiting → u.write.exec s = (.error e, s') → s'.store.table = s.store.table) ∧
      ¬ ∀ (p : Place) (s s' : Session) (saved : Table) (waiting : List Update) (recipe : String),
        Reached p s saved waiting → (ensure recipe).exec s = (.ok (), s') →
          ∃ known, standings? (page p s'.disk) = some known ∧ Ordered.contains known recipe = true := by
  obtain ⟨e, hrun, hopened, hfailed⟩ := reached_obstructed
  rw [exec_writeAmid_none] at hrun
  constructor
  · intro h
    have hsame := congrArg List.length (h _ _ _ _ _ _ _ hopened hrun)
    cases hsame
  · intro h
    obtain ⟨known, hknown, hmem⟩ := h _ _ _ _ _ "r" hfailed rfl
    have hnone : standings? (page atRoot obstructed) = some [] := rfl
    rw [hnone] at hknown
    obtain rfl := Option.some.inj hknown
    cases hmem

end Mend.Trust
