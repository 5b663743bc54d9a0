import Mend.Proofs.Ledger.SnapshotDirectory

/-!
# Both stores are the same store

Calls of a store that is kept here and of one in a directory (`Call`), which give the same answers and leave the same
workspace (`stores_alike`). The two are `Matched` if they have the same snapshots and their disks differ in the
directory only. Every call keeps them so (`Matched.exec_run`), and what it makes of the snapshots is told by the table
of those that are kept here (`Call.table`).
-/

namespace Mend.Snapshot

open Fs Fs.Disk Ledger

/-! ## Calls -/

/-- A snapshot that is read back from its document, and whose files are aside from the directory. -/
structure Admissible (dir root : Place) (d : Disk) (s : Snapshot) : Prop where
  entries : ∀ x ∈ s.files, x.Storable
  time : s.createdAt.Storable
  clear : ∀ x ∈ s.files, Clear dir root d x.path

/-- A call of a store. -/
inductive Call where
  | take (cycle : CycleId) (captures : List Capture) (retention : Retention) (now : Time)
  | save (s : Snapshot)
  | load (id : CycleId)
  | list
  | remove (id : CycleId)
  | restore (id : CycleId)
  | restoreLatest

/-- What a call answers. -/
inductive Answer where
  | done
  | snapshot (s : Snapshot)
  | ids (ids : List CycleId)
  | report (r : Report)

namespace Call

/-- Makes a call. -/
def run (root : Place) : Call → Action Session Ledger.Error Answer
  | .take cycle captures retention now => do
    Snapshot.take cycle captures retention now
    return .done
  | .save s => do
    Snapshot.save s
    return .done
  | .load id => return .snapshot (← Action.query fun x => x.load id)
  | .list => return .ids (← Action.query Session.list)
  | .remove id => do
    Snapshot.remove id
    return .done
  | .restore id => return .report (← restoreId id root)
  | .restoreLatest => return .report (← Snapshot.restoreLatest root)

/-- The snapshot that a call gives to the store. -/
def stored : Call → Option Snapshot
  | .take cycle captures _ now => some (capture cycle captures now)
  | .save s => some s
  | _ => none

/-- A snapshot that the call gives to the store can be. -/
def Fits (dir root : Place) (d : Disk) (c : Call) : Prop := ∀ s, c.stored = some s → Admissible dir root d s

/-- A call that does not take the snapshot of a cycle away. -/
def Spares (id : CycleId) : Call → Prop
  | .take cycle _ _ _ => cycle = id
  | .remove k => k ≠ id
  | _ => True

end Call

/-- Makes calls one after the other, whether or not they fail. -/
def runAll (root : Place) : List Call → Session → List (Except Ledger.Error Answer) × Session
  | [], x => ([], x)
  | c :: cs, x =>
    let (r, x) := (c.run root).exec x
    let (rs, x) := runAll root cs x
    (r :: rs, x)

/-! ## The table -/

/-- The table with a snapshot, unless there is one of that cycle. -/
def put (t : Ordered CycleId Snapshot) (s : Snapshot) : Ordered CycleId Snapshot :=
  if Ordered.contains t s.cycle then t else Ordered.insert t s.cycle s

/-- The table without some snapshots. -/
def eraseAll (t : Ordered CycleId Snapshot) (ids : List CycleId) : Ordered CycleId Snapshot := ids.foldl Ordered.erase t

/-- The table without those that have expired. -/
def expire (r : Retention) (keep : CycleId) (now : Time) (t : Ordered CycleId Snapshot) : Ordered CycleId Snapshot :=
  eraseAll t (r.expired (Ordered.keys t).reverse keep now)

/-- What a call makes of the table. -/
def Call.table : Call → Ordered CycleId Snapshot → Ordered CycleId Snapshot
  | .take cycle captures retention now, t => expire retention cycle now (put t (capture cycle captures now))
  | .save s, t => put t s
  | .remove id, t => Ordered.erase t id
  | _, t => t

/-- What calls make of the table. -/
def tableAll (calls : List Call) (t : Ordered CycleId Snapshot) : Ordered CycleId Snapshot :=
  calls.foldl (fun t c => c.table t) t

section

variable {t : Ordered CycleId Snapshot} {id : CycleId} {s : Snapshot} {c : Call} {calls : List Call}

theorem ascending_put (h : t.Ascending) (s : Snapshot) : (put t s).Ascending := by
  rw [put]
  split
  · exact h
  · exact h.insert s.cycle s

theorem ascending_eraseAll (h : t.Ascending) (ids : List CycleId) : (eraseAll t ids).Ascending := by
  induction ids generalizing t with
  | nil => exact h
  | cons k ids ih => exact ih (h.erase k)

theorem ascending_table (h : t.Ascending) (c : Call) : (c.table t).Ascending := by
  cases c with
  | take cycle captures retention now => exact ascending_eraseAll (ascending_put h _) _
  | save s => exact ascending_put h s
  | remove id => exact h.erase id
  | _ => exact h

theorem get?_put (t : Ordered CycleId Snapshot) (s : Snapshot) (id : CycleId) :
    Ordered.get? (put t s) id =
      if id = s.cycle ∧ Ordered.contains t s.cycle = false then some s else Ordered.get? t id := by
  rw [put]
  cases hcontains : Ordered.contains t s.cycle with
  | true => simp
  | false =>
    rw [if_neg (by simp), Ordered.get?_insert]
    by_cases hid : id = s.cycle
    · rw [if_pos (hid ▸ Std.ReflCmp.compare_self), if_pos ⟨hid, rfl⟩]
    · rw [if_neg fun e => hid (Std.LawfulEqCmp.eq_of_compare e), if_neg fun e => hid e.1]

theorem get?_erase_of (h : t.Ascending) (k id : CycleId) :
    Ordered.get? (Ordered.erase t k) id = if id = k then none else Ordered.get? t id := by
  rw [Ordered.get?_erase h]
  by_cases hid : id = k
  · rw [if_pos hid, if_pos (hid ▸ Std.ReflCmp.compare_self)]
  · rw [if_neg hid, if_neg fun e => hid (Std.LawfulEqCmp.eq_of_compare e)]

theorem get?_eraseAll (h : t.Ascending) (ids : List CycleId) (id : CycleId) :
    Ordered.get? (eraseAll t ids) id = if id ∈ ids then none else Ordered.get? t id := by
  induction ids generalizing t with
  | nil => rfl
  | cons k ids ih =>
    show Ordered.get? (eraseAll (Ordered.erase t k) ids) id = _
    rw [ih (h.erase k), get?_erase_of h]
    by_cases hk : id = k
    · simp [hk]
    · simp [hk]

/-- A snapshot in the table was there before, or the call gave it. -/
theorem get?_table (h : t.Ascending) (hget : Ordered.get? (c.table t) id = some s) :
    Ordered.get? t id = some s ∨ c.stored = some s ∧ s.cycle = id := by
  have hput {s' : Snapshot} (hs : Ordered.get? (put t s') id = some s) :
      Ordered.get? t id = some s ∨ some s' = some s ∧ s.cycle = id := by
    rw [get?_put] at hs
    split at hs
    · next hid =>
      obtain rfl := Option.some.inj hs
      exact .inr ⟨rfl, hid.1.symm⟩
    · exact .inl hs
  cases c with
  | take cycle captures retention now =>
    rw [Call.table, expire, get?_eraseAll (ascending_put h _)] at hget
    split at hget
    · cases hget
    · exact hput hget
  | save s' => exact hput hget
  | remove k =>
    rw [Call.table, get?_erase_of h] at hget
    split at hget
    · cases hget
    · exact .inl hget
  | _ => exact .inl hget

/-- A snapshot stays in the table unless it is taken away. -/
theorem get?_table_of_spares (h : t.Ascending) (hget : Ordered.get? t id = some s) (hc : c.Spares id) :
    Ordered.get? (c.table t) id = some s := by
  have hput (s' : Snapshot) : Ordered.get? (put t s') id = some s := by
    rw [get?_put, if_neg, hget]
    rintro ⟨rfl, hcontains⟩
    simp [Ordered.contains, hget] at hcontains
  cases c with
  | take cycle captures retention now =>
    obtain rfl : cycle = id := hc
    rw [Call.table, expire, get?_eraseAll (ascending_put h _), if_neg (not_mem_expired _ _ _ _), hput]
  | save s' => exact hput s'
  | remove k => rw [Call.table, get?_erase_of h, if_neg (Ne.symm hc), hget]
  | _ => exact hget

/-- A snapshot that the call gives is in the table if there was none of its cycle. -/
theorem get?_table_stored (h : t.Ascending) (hstored : c.stored = some s) (hnone : Ordered.get? t s.cycle = none) :
    Ordered.get? (c.table t) s.cycle = some s := by
  have hput : Ordered.get? (put t s) s.cycle = some s := by
    rw [get?_put, if_pos ⟨rfl, by simp [Ordered.contains, hnone]⟩]
  cases c with
  | take cycle captures retention now =>
    obtain rfl := Option.some.inj hstored
    rw [Call.table, expire, get?_eraseAll (ascending_put h _), hput]
    exact if_neg (not_mem_expired _ _ cycle _)
  | save s' =>
    obtain rfl := Option.some.inj hstored
    exact hput
  | _ => cases hstored

theorem get?_tableAll (h : t.Ascending) (hget : Ordered.get? (tableAll calls t) id = some s) :
    Ordered.get? t id = some s ∨ s.cycle = id ∧ ∃ c ∈ calls, c.stored = some s := by
  induction calls generalizing t with
  | nil => exact .inl hget
  | cons c calls ih =>
    rcases ih (ascending_table h c) hget with hearlier | ⟨hcycle, c', hc', hstored⟩
    · rcases get?_table h hearlier with hbefore | ⟨hstored, hcycle⟩
      · exact .inl hbefore
      · exact .inr ⟨hcycle, c, by simp, hstored⟩
    · exact .inr ⟨hcycle, c', by simp [hc'], hstored⟩

theorem get?_tableAll_of_spares (h : t.Ascending) (hget : Ordered.get? t id = some s)
    (hcalls : ∀ c ∈ calls, c.Spares id) : Ordered.get? (tableAll calls t) id = some s := by
  induction calls generalizing t with
  | nil => exact hget
  | cons c calls ih =>
    exact ih (ascending_table h c) (get?_table_of_spares h hget (hcalls c (by simp))) fun c hc => hcalls c (by simp [hc])

end

/-! ## Snapshots that are kept here -/

/-- Deletes a snapshot, or leaves it if it cannot be deleted. -/
def discard (id : CycleId) : Action Session Ledger.Error Unit := do
  let _ ← (remove id).outcome (δ := Ledger.Error)
  pure ()

section

variable (d : Disk) (t : Ordered CycleId Snapshot) (lost : Bool)

theorem exec_save_memory (s : Snapshot) :
    (save s).exec ⟨d, .memory t lost⟩ = (.ok (), ⟨d, .memory (put t s) lost⟩) := by
  rw [save, Action.exec_bind_ok (Action.exec_get _), put]
  dsimp only
  split
  · rfl
  · rfl

theorem exec_remove_memory (id : CycleId) :
    (remove id).exec ⟨d, .memory t lost⟩ = (.ok (), ⟨d, .memory (Ordered.erase t id) lost⟩) := rfl

theorem load_memory (id : CycleId) : (Session.mk d (.memory t false)).load id =
    match Ordered.get? t id with
    | some s => .ok s
    | none => .error (.snapshotNotFound id) := rfl

end

/-! ## The simulation -/

/-- The directory holds what is kept here, and the disks differ in it only. -/
structure Matched (dir root : Place) (d₀ : Disk) (t : Ordered CycleId Snapshot) (d e : Disk) : Prop where
  beside : Beside dir.location d e
  kept : Kept dir.location d₀ d
  ascending : t.Ascending
  admissible : ∀ id s, Ordered.get? t id = some s → Admissible dir root d₀ s
  /-- The directory is made with the first snapshot. -/
  shelved : t = [] ∧ e = d ∧ Vacant dir d ∨ Shelf dir t e

namespace Matched

variable {dir root : Place} {d₀ d e : Disk} {t : Ordered CycleId Snapshot} {c : Call}

theorem initial (h : Vacant dir d₀) : Matched dir root d₀ [] d₀ d₀ where
  beside := ⟨h.absent, fun _ _ => .inl rfl⟩
  kept := .refl dir.location d₀
  ascending := List.Pairwise.nil
  admissible _ _ hget := by cases hget
  shelved := .inl ⟨rfl, rfl, h⟩

theorem load (h : Matched dir root d₀ t d e) (id : CycleId) :
    (Session.mk e (.directory dir)).load id = (Session.mk d (.memory t false)).load id := by
  rcases h.shelved with ⟨rfl, rfl, hvacant⟩ | hshelf
  · exact hvacant.load e
  · exact hshelf.load (fun s hs => ⟨(h.admissible id s hs).entries, (h.admissible id s hs).time⟩) d

theorem list (h : Matched dir root d₀ t d e) :
    (Session.mk e (.directory dir)).list = (Session.mk d (.memory t false)).list := by
  rcases h.shelved with ⟨rfl, rfl, hvacant⟩ | hshelf
  · exact hvacant.list e
  · exact hshelf.list h.ascending d

theorem exec_save (h : Matched dir root d₀ t d e) {s : Snapshot} (hs : Admissible dir root d₀ s) :
    ∃ e', (save s).exec ⟨e, .directory dir⟩ = (.ok (), ⟨e', .directory dir⟩) ∧ Matched dir root d₀ (put t s) d e' := by
  have hadmissible : ∀ id s', Ordered.get? (put t s) id = some s' → Admissible dir root d₀ s' := by
    intro id s' hget
    rcases get?_table (c := .save s) h.ascending hget with hold | ⟨hstored, -⟩
    · exact h.admissible id s' hold
    · obtain rfl := Option.some.inj hstored
      exact hs
  have hascending := ascending_put h.ascending s
  rcases h.shelved with ⟨rfl, rfl, hvacant⟩ | hshelf
  · obtain ⟨e', hsave, hshelf, hbeside⟩ := hvacant.exec_save s
    exact ⟨e', hsave, hbeside, h.kept, hascending, hadmissible, .inr hshelf⟩
  · obtain ⟨e', hsave, hshelf', hsame⟩ := hshelf.exec_save s
    exact ⟨e', hsave, h.beside.change_inside hsame, h.kept, hascending, hadmissible, .inr hshelf'⟩

theorem exec_remove (h : Matched dir root d₀ t d e) (id : CycleId) :
    ∃ e', (remove id).exec ⟨e, .directory dir⟩ = (.ok (), ⟨e', .directory dir⟩) ∧
      Matched dir root d₀ (Ordered.erase t id) d e' := by
  have hadmissible : ∀ k s, Ordered.get? (Ordered.erase t id) k = some s → Admissible dir root d₀ s := by
    intro k s hget
    rcases get?_table (c := .remove id) h.ascending hget with hold | ⟨hstored, -⟩
    · exact h.admissible k s hold
    · cases hstored
  have hascending := h.ascending.erase id
  rcases h.shelved with ⟨rfl, rfl, hvacant⟩ | hshelf
  · exact ⟨e, hvacant.exec_remove id, h.beside, h.kept, hascending, hadmissible, .inl ⟨rfl, rfl, hvacant⟩⟩
  · obtain ⟨e', hremove, hshelf', hsame⟩ := hshelf.exec_remove h.ascending id
    exact ⟨e', hremove, h.beside.change_inside hsame, h.kept, hascending, hadmissible, .inr hshelf'⟩

end Matched

/-- An action gives a result on both stores, and leaves them matched. -/
def Mirrors (dir root : Place) (d₀ : Disk) {α : Type} (act : Action Session Ledger.Error α) (r : Except Ledger.Error α)
    (t t' : Ordered CycleId Snapshot) (d e : Disk) : Prop :=
  ∃ d' e', act.exec ⟨d, .memory t false⟩ = (r, ⟨d', .memory t' false⟩) ∧
    act.exec ⟨e, .directory dir⟩ = (r, ⟨e', .directory dir⟩) ∧ Matched dir root d₀ t' d' e'

section

variable {dir root : Place} {d₀ d e : Disk} {t t' : Ordered CycleId Snapshot} {α β : Type}

theorem Mirrors.map {act : Action Session Ledger.Error α} {r : Except Ledger.Error α}
    (h : Mirrors dir root d₀ act r t t' d e) (f : α → β) :
    Mirrors dir root d₀ (act >>= fun a => pure (f a)) (r.map f) t t' d e := by
  obtain ⟨d', e', hd, he, h'⟩ := h
  cases r with
  | error err => exact ⟨d', e', Action.exec_bind_error hd _, Action.exec_bind_error he _, h'⟩
  | ok a => exact ⟨d', e', Action.exec_bind_ok hd _, Action.exec_bind_ok he _, h'⟩

namespace Matched

theorem query (h : Matched dir root d₀ t d e) {f : Session → Except Ledger.Error α}
    (hf : f ⟨e, .directory dir⟩ = f ⟨d, .memory t false⟩) :
    Mirrors dir root d₀ (Action.query f) (f ⟨d, .memory t false⟩) t t d e :=
  ⟨d, e, rfl, Prod.ext hf rfl, h⟩

theorem save (h : Matched dir root d₀ t d e) {s : Snapshot} (hs : Admissible dir root d₀ s) :
    Mirrors dir root d₀ (save s) (.ok ()) t (put t s) d e := by
  obtain ⟨e', hsave, h'⟩ := h.exec_save hs
  exact ⟨d, e', exec_save_memory d t false s, hsave, h'⟩

theorem remove (h : Matched dir root d₀ t d e) (id : CycleId) :
    Mirrors dir root d₀ (remove id) (.ok ()) t (Ordered.erase t id) d e := by
  obtain ⟨e', hremove, h'⟩ := h.exec_remove id
  exact ⟨d, e', exec_remove_memory d t false id, hremove, h'⟩

/-- Both stores remove the same snapshots. -/
theorem exec_discardAll (h : Matched dir root d₀ t d e) (ids : List CycleId) :
    (ids.forM discard).exec ⟨d, .memory t false⟩ = (.ok (), ⟨d, .memory (eraseAll t ids) false⟩) ∧
      ∃ e', (ids.forM discard).exec ⟨e, .directory dir⟩ = (.ok (), ⟨e', .directory dir⟩) ∧
        Matched dir root d₀ (eraseAll t ids) d e' := by
  induction ids generalizing t e with
  | nil => exact ⟨rfl, e, rfl, h⟩
  | cons id ids ih =>
    obtain ⟨e₁, hremove, h₁⟩ := h.exec_remove id
    obtain ⟨hrest, e', hrest', h'⟩ := ih h₁
    have hdiscard : (discard id).exec ⟨e, .directory dir⟩ = (.ok (), ⟨e₁, .directory dir⟩) := by
      rw [discard, Action.exec_bind_ok (Action.exec_outcome _ _), hremove]
      rfl
    exact ⟨hrest, e', (Action.exec_bind_ok hdiscard _).trans hrest', h'⟩

/-- Both stores prune the same snapshots. -/
theorem prune (h : Matched dir root d₀ t d e) (r : Retention) (keep : CycleId) (now : Time) :
    Mirrors dir root d₀ (prune r keep now) (.ok ()) t (expire r keep now t) d e := by
  have hkeys : (Session.mk d (.memory t false)).list = .ok (Ordered.keys t).reverse := rfl
  obtain ⟨hkept, e', hfiled, h'⟩ := h.exec_discardAll (r.expired (Ordered.keys t).reverse keep now)
  refine ⟨d, e', ?_, ?_, h'⟩
  · rw [Snapshot.prune, Action.exec_bind_ok (Action.exec_get _), hkeys]
    exact hkept
  · rw [Snapshot.prune, Action.exec_bind_ok (Action.exec_get _), h.list, hkeys]
    exact hfiled

theorem take (h : Matched dir root d₀ t d e) {cycle : CycleId} {captures : List Capture} {r : Retention} {now : Time}
    (hs : Admissible dir root d₀ (capture cycle captures now)) :
    Mirrors dir root d₀ (take cycle captures r now) (.ok ()) t
      (expire r cycle now (put t (capture cycle captures now))) d e := by
  obtain ⟨e₁, hsave, h₁⟩ := h.exec_save hs
  obtain ⟨d', e', hd, he, h'⟩ := h₁.prune r cycle now
  refine ⟨d', e', ?_, ?_, h'⟩
  · rw [Snapshot.take, Action.exec_bind_ok (exec_save_memory d t false _), hd]
  · rw [Snapshot.take, Action.exec_bind_ok hsave, he]

/-- Restoring does the same on both disks. -/
theorem restoreId (h : Matched dir root d₀ t d e) (hroot : d₀.isDir root.location = true) (id : CycleId) :
    ∃ r, Mirrors dir root d₀ (restoreId id root) r t t d e := by
  have hkept (x : Session) (r : Except Ledger.Error Snapshot) (hr : x.load id = r) :
      (Action.query fun x : Session => x.load id : Action Session Ledger.Error Snapshot).exec x = (r, x) :=
    Prod.ext hr rfl
  have hload := h.load id
  rw [load_memory] at hload
  cases hget : Ordered.get? t id with
  | none =>
    rw [hget] at hload
    refine ⟨.error (.snapshotNotFound id), d, e, ?_, ?_, h⟩
    · exact Action.exec_bind_error (hkept _ _ (by rw [load_memory, hget])) _
    · exact Action.exec_bind_error (hkept _ _ hload) _
  | some s =>
    rw [hget] at hload
    have hs := h.admissible id s hget
    have hclear : ∀ x ∈ s.files, Clear dir root d x.path := by
      intro x hx
      exact ⟨(hs.clear x hx).proper, h.kept.aside (hs.clear x hx).aside, (hs.clear x hx).sibling⟩
    obtain ⟨r, d', e', hd, he, hbeside, hd', he'⟩ := agrees_restore h.beside (h.kept.isDir hroot) hclear
    refine ⟨r, d', e', ?_, ?_, hbeside, h.kept.trans hd', h.ascending, h.admissible, ?_⟩
    · rw [Snapshot.restoreId, Action.exec_bind_ok (hkept _ _ (by rw [load_memory, hget])), Action.exec_zoom, hd]
    · rw [Snapshot.restoreId, Action.exec_bind_ok (hkept _ _ hload), Action.exec_zoom, he]
    · rcases h.shelved with ⟨rfl, -, -⟩ | hshelf
      · cases hget
      · have hlocate := locate_mono (fun m => (he'.dirs m).mpr) hshelf.locate
        exact .inr (hshelf.congr hlocate (he'.distinct hshelf.distinct) he'.inside)

theorem restoreLatest (h : Matched dir root d₀ t d e) (hroot : d₀.isDir root.location = true) :
    ∃ r, Mirrors dir root d₀ (restoreLatest root) r t t d e := by
  have hlisted (x : Session) (r : Except Ledger.Error (List CycleId)) (hr : x.list = r) :
      (Action.query Session.list : Action Session Ledger.Error (List CycleId)).exec x = (r, x) := Prod.ext hr rfl
  have hlist : (Session.mk d (.memory t false)).list = .ok (Ordered.keys t).reverse := rfl
  have hlist' := h.list.trans hlist
  cases hids : (Ordered.keys t).reverse with
  | nil =>
    rw [hids] at hlist hlist'
    exact ⟨.error .noSnapshots, d, e, Action.exec_bind_ok (hlisted _ _ hlist) _,
      Action.exec_bind_ok (hlisted _ _ hlist') _, h⟩
  | cons id ids =>
    rw [hids] at hlist hlist'
    obtain ⟨r, d', e', hd, he, h'⟩ := h.restoreId hroot id
    exact ⟨r, d', e', (Action.exec_bind_ok (hlisted _ _ hlist) _).trans hd,
      (Action.exec_bind_ok (hlisted _ _ hlist') _).trans he, h'⟩

/-- A call that gives a snapshot to the store succeeds on both. -/
theorem run_stored (h : Matched dir root d₀ t d e) {c : Call} {s : Snapshot} (hstored : c.stored = some s)
    (hs : Admissible dir root d₀ s) : Mirrors dir root d₀ (c.run root) (.ok .done) t (c.table t) d e := by
  cases c with
  | take cycle captures retention now =>
    obtain rfl := Option.some.inj hstored
    exact (h.take hs).map fun _ => Answer.done
  | save s' =>
    obtain rfl := Option.some.inj hstored
    exact (h.save hs).map fun _ => Answer.done
  | _ => cases hstored

/-- A call gives the same answer on both stores, and they still have the same snapshots. -/
theorem run (h : Matched dir root d₀ t d e) (hroot : d₀.isDir root.location = true) {c : Call}
    (hc : c.Fits dir root d₀) :
    ∃ r, Mirrors dir root d₀ (c.run root) r t (c.table t) d e := by
  cases c with
  | take cycle captures retention now => exact ⟨_, h.run_stored rfl (hc _ rfl)⟩
  | save s => exact ⟨_, h.run_stored rfl (hc s rfl)⟩
  | load id => exact ⟨_, (h.query (h.load id)).map Answer.snapshot⟩
  | list => exact ⟨_, (h.query h.list).map Answer.ids⟩
  | remove id => exact ⟨_, (h.remove id).map fun _ => Answer.done⟩
  | restore id =>
    obtain ⟨r, hr⟩ := h.restoreId hroot id
    exact ⟨_, hr.map Answer.report⟩
  | restoreLatest =>
    obtain ⟨r, hr⟩ := h.restoreLatest hroot
    exact ⟨_, hr.map Answer.report⟩

/-- Calls give the same answers on both stores. -/
theorem runAll (h : Matched dir root d₀ t d e) (hroot : d₀.isDir root.location = true) {calls : List Call}
    (hcalls : ∀ c ∈ calls, c.Fits dir root d₀) :
    ∃ answers d' e', runAll root calls ⟨d, .memory t false⟩ = (answers, ⟨d', .memory (tableAll calls t) false⟩) ∧
      runAll root calls ⟨e, .directory dir⟩ = (answers, ⟨e', .directory dir⟩) ∧
        Matched dir root d₀ (tableAll calls t) d' e' := by
  induction calls generalizing t d e with
  | nil => exact ⟨[], d, e, rfl, rfl, h⟩
  | cons c calls ih =>
    obtain ⟨r, d₁, e₁, hd₁, he₁, h₁⟩ := h.run hroot (hcalls c (by simp))
    obtain ⟨answers, d', e', hd, he, h'⟩ := ih h₁ fun c hc => hcalls c (by simp [hc])
    refine ⟨r :: answers, d', e', ?_, ?_, h'⟩
    · rw [Snapshot.runAll, hd₁]
      simp only [hd]
      rfl
    · rw [Snapshot.runAll, he₁]
      simp only [he]

end Matched

end

/-! ## The result -/

/-- A captured snapshot passes the check of its entries. -/
theorem verifyIntegrity_capture (cycle : CycleId) (captures : List Capture) (now : Time) :
    (capture cycle captures now).verifyIntegrity = .ok () := by
  rw [verifyIntegrity]
  exact if_pos rfl

theorem admissible_capture {dir root : Place} {d : Disk} {captures : List Capture} {now : Time}
    (hentries : ∀ c ∈ captures, (Entry.ofCapture c).Storable) (hnow : now.Storable)
    (hclear : ∀ c ∈ captures, Clear dir root d c.path) (cycle : CycleId) :
    Admissible dir root d (capture cycle captures now) :=
  ⟨forall_mem_files hentries, hnow, @forall_mem_files _ _ _ (fun x => Clear dir root d x.path) hclear⟩

theorem load_eq_ok_iff {dir root : Place} {d₀ d e : Disk} {t : Ordered CycleId Snapshot} {id : CycleId} {s : Snapshot}
    (h : Matched dir root d₀ t d e) :
    (Session.mk e (.directory dir)).load id = .ok s ↔ Ordered.get? t id = some s := by
  rw [h.load, load_memory]
  cases Ordered.get? t id with
  | none => simp
  | some s' => simp

/-- **Both stores are the same store.** Calls of a store in a directory that is not there yet, made as long as nobody
else writes the disk, give the answers that the same calls give on a store that is kept here, and leave the same
workspace. A snapshot that is loaded is one that was given to the store, and it stays as it is until it is taken away,
whatever else is saved. A snapshot of a cycle that has none yet is loaded as it was saved. -/
theorem stores_alike {dir root : Place} {d : Disk} (hdir : Vacant dir d) (hroot : d.isDir root.location = true)
    {calls : List Call} (hcalls : ∀ c ∈ calls, c.Fits dir root d) :
    let kept := runAll root calls ⟨d, .memory [] false⟩
    let filed := runAll root calls ⟨d, .directory dir⟩
    filed.1 = kept.1 ∧ Beside dir.location kept.2.disk filed.2.disk ∧
      (∀ id s, filed.2.load id = .ok s →
        s.cycle = id ∧ (∃ c ∈ calls, c.stored = some s) ∧
        ((∀ s', Call.save s' ∈ calls → s'.verifyIntegrity = .ok ()) → s.verifyIntegrity = .ok ()) ∧
        ∀ later : List Call, (∀ c ∈ later, c.Fits dir root d ∧ c.Spares id) →
          (runAll root later filed.2).2.load id = .ok s) ∧
      ∀ (c : Call) (s : Snapshot), c.stored = some s → Admissible dir root d s →
        filed.2.load s.cycle = .error (.snapshotNotFound s.cycle) →
        ((c.run root).exec filed.2).1 = .ok .done ∧ ((c.run root).exec filed.2).2.load s.cycle = .ok s := by
  intro kept filed
  obtain ⟨answers, d', e', hkept, hfiled, h⟩ := (Matched.initial hdir).runAll hroot hcalls
  have hkept' : kept = (answers, ⟨d', .memory (tableAll calls []) false⟩) := hkept
  have hfiled' : filed = (answers, ⟨e', .directory dir⟩) := hfiled
  rw [hkept', hfiled']
  refine ⟨rfl, h.beside, fun id s hload => ?_, fun c s hstored hs hload => ?_⟩
  · have hget := (load_eq_ok_iff h).mp hload
    obtain ⟨hcycle, hgiven⟩ : s.cycle = id ∧ ∃ c ∈ calls, c.stored = some s := by
      rcases get?_tableAll (t := []) List.Pairwise.nil hget with hbefore | hgiven
      · cases hbefore
      · exact hgiven
    refine ⟨hcycle, hgiven, fun hsaved => ?_, fun later hlater => ?_⟩
    · obtain ⟨c, hc, hstored⟩ := hgiven
      cases c with
      | take cycle captures retention now =>
        obtain rfl := Option.some.inj hstored
        exact verifyIntegrity_capture cycle captures now
      | save s' =>
        obtain rfl := Option.some.inj hstored
        exact hsaved s' hc
      | _ => cases hstored
    · obtain ⟨_, d'', e'', -, hrun, h''⟩ := h.runAll hroot fun c hc => (hlater c hc).1
      rw [hrun]
      exact (load_eq_ok_iff h'').mpr (get?_tableAll_of_spares h.ascending hget fun c hc => (hlater c hc).2)
  · have hnone : Ordered.get? (tableAll calls []) s.cycle = none := by
      cases hget : Ordered.get? (tableAll calls []) s.cycle with
      | none => rfl
      | some s' =>
        rw [(load_eq_ok_iff h).mpr hget] at hload
        cases hload
    obtain ⟨d'', e'', -, hrun, h''⟩ := h.run_stored hstored hs
    rw [hrun]
    exact ⟨rfl, (load_eq_ok_iff h'').mpr (get?_table_stored h.ascending hstored hnone)⟩

/-! ### A directory in a folder -/

/-- A directory in the folder, in one that has to be made for it. -/
def nook : Place := ⟨["w", ".remedy", "snapshots"], "/w/.remedy/snapshots"⟩

theorem vacant_nook {files : List (String × String)} (h : files.lookup ".remedy" = none)
    (hmade : ((folder files).mkdirs (Place.settled nook.location)).1 = .ok ()) : Vacant nook (folder files) where
  absent := by
    have hnone : (folder files).node? ["w", ".remedy"] = none := by rw [node?_folder, h, Option.map_none]
    exact @node?_append_of_not_dir _ ["w", ".remedy"] ["snapshots"] (by simp [hnone]) (by simp)
  made := hmade
  room := show pathLength nook.location + 43 < maxPath by decide
  straight m hm := by
    have hway : ∀ m ∈ nook.location.inits.map (resolve []),
        resolve [] nook.location <+: m → m = resolve [] nook.location := by decide
    exact hway m (way_iff.mp hm)

theorem isDir_folder (files : List (String × String)) : (folder files).isDir folderRoot.location = true := rfl

/-- The change of a line in a file, taken and restored. -/
theorem stores_alike_edit :
    let d := folder [("a", "y\n")]
    let calls := [Call.take default [edit "a"] {} default, .restore default, .load default, .list]
    (runAll folderRoot calls ⟨d, .directory nook⟩).1 = (runAll folderRoot calls ⟨d, .memory [] false⟩).1 := by
  intro d calls
  have hvacant : Vacant nook d := vacant_nook rfl rfl
  have hproper : RelPath.Proper ⟨["a"]⟩ := RelPath.proper_name (by decide) (by decide)
  have hclear : Clear nook folderRoot d ⟨["a"]⟩ :=
    ⟨hproper, .of_short (by decide) (by decide) (by decide), by decide⟩
  have hentry : (Entry.ofCapture (edit "a")).Storable := storable_ofCapture rfl (by decide)
  have hcalls : ∀ c ∈ calls, c.Fits nook folderRoot d := by
    intro c hc s hs
    simp only [calls, List.mem_cons, List.not_mem_nil, or_false] at hc
    rcases hc with rfl | rfl | rfl | rfl
    · obtain rfl := Option.some.inj hs
      exact admissible_capture (by simpa using hentry) ⟨by decide, by decide⟩ (by simpa [edit] using hclear) default
    · cases hs
    · cases hs
    · cases hs
  exact (stores_alike hvacant (isDir_folder _) hcalls).1

/-- The directory that has to be made for the one of the store, as a file. -/
def remedyFile : Capture := ⟨⟨[".remedy"]⟩, none, "x"⟩

/-- Restoring a snapshot of that file goes by what stands at its path. -/
theorem exec_restore_remedyFile {s : Snapshot} (hs : s = capture default [remedyFile] default) (d : Disk) :
    (current folderRoot remedyFile.path d = .ok none →
      (s.restore folderRoot).exec d = (.ok ⟨default, [(remedyFile.path, .alreadyRestored)]⟩, d)) ∧
    ∀ e, current folderRoot remedyFile.path d = .error e → (s.restore folderRoot).exec d = (.error e, d) := by
  have hfiles : s.files = [Entry.ofCapture remedyFile] := by
    rw [hs, files_capture, show sorted [remedyFile] = [remedyFile] from List.mergeSort_singleton _]
    rfl
  have hpath : (Entry.ofCapture remedyFile).path = remedyFile.path := rfl
  have hcycle : s.cycle = default := by rw [hs]; rfl
  have hverify : (Action.query fun _ : Disk => s.verifyIntegrity : DiskAction Ledger.Error Unit).exec d = (.ok (), d) := by
    rw [Action.exec_query, hs, verifyIntegrity_capture]
  refine ⟨fun hnone => ?_, fun e herror => ?_⟩
  · have hplans : planAll folderRoot s.cycle d s.files = .ok [(Entry.ofCapture remedyFile, .skip)] := by
      rw [hfiles, planAll, hpath, hnone]
      rfl
    rw [restore, Action.exec_bind_ok hverify, Action.exec_bind_ok (a := [(Entry.ofCapture remedyFile, .skip)]) (t := d)]
    · rw [hcycle]
      rfl
    · rw [Action.exec_query, hplans]
  · have hplans : planAll folderRoot s.cycle d s.files = .error e := by
      rw [hfiles, planAll, hpath, herror]
      rfl
    rw [restore, Action.exec_bind_ok hverify, Action.exec_bind_error (e := e) (t := d)]
    rw [Action.exec_query, hplans]

/-- A file that has the name of a directory on the way to that of the store: nothing is there until the first snapshot
is saved, and then the directory is. -/
theorem stores_differ_on_the_way :
    let d := folder []
    let calls := [Call.save (capture default [remedyFile] default), .restore default]
    Vacant nook d ∧ d.isDir folderRoot.location = true ∧ (Entry.ofCapture remedyFile).Storable ∧
      (default : Time).Storable ∧ ¬ resolve [] nook.location <+: remedyFile.path.below folderRoot ∧
      (runAll folderRoot calls ⟨d, .directory nook⟩).1 ≠ (runAll folderRoot calls ⟨d, .memory [] false⟩).1 := by
  intro d calls
  have hvacant : Vacant nook d := vacant_nook rfl rfl
  have hentry : (Entry.ofCapture remedyFile).Storable := storable_ofCapture rfl (by decide)
  have htime : (default : Time).Storable := ⟨by decide, by decide⟩
  refine ⟨hvacant, isDir_folder _, hentry, htime, by decide, ?_⟩
  obtain ⟨s, hs⟩ : ∃ s, s = capture default [remedyFile] default := ⟨_, rfl⟩
  have hcycle : s.cycle = default := by rw [hs]; rfl
  obtain ⟨e, hsave, hshelf, -⟩ := hvacant.exec_save s
  -- the directory was made for that of the store
  have hlocate : e.locate ["w", ".remedy"] = .ok ["w", ".remedy"] ∧ e.node? ["w", ".remedy"] = some .dir := by
    obtain ⟨hpath, hfollow⟩ := locate_eq_ok_iff.mp hshelf.locate
    obtain ⟨m, hm, hdir, -⟩ := @follow_append _ [] ["w", ".remedy"] ["snapshots"] _ (by simp) hfollow
    obtain rfl : m = ["w", ".remedy"] := eq_resolve_of_follow hm
    exact ⟨locate_eq_ok_iff.mpr ⟨by decide, hm⟩, hdir⟩
  have hfiled : current folderRoot remedyFile.path e = .error (.io (folderRoot.file remedyFile.path) .isDirectory) := by
    have hread : e.read (folderRoot.file remedyFile.path).location = .error .isDirectory := by
      show e.read ["w", ".remedy"] = _
      rw [read_of_locate hlocate.1, hlocate.2]
    rw [current, hread]
  have hkept : current folderRoot remedyFile.path d = .ok none := by
    have hread : d.read (folderRoot.file remedyFile.path).location = .error .notFound := rfl
    rw [current, hread]
  have hfailed := (exec_restore_remedyFile hs e).2 _ hfiled
  have hdone := (exec_restore_remedyFile hs d).1 hkept
  have hget : Ordered.get? (Ordered.insert [] s.cycle s) default = some s := by rw [hcycle]; rfl
  have hload : (Session.mk e (.directory nook)).load default = .ok s := by
    rw [hshelf.load (fun s' hs' => ?_) d, load_memory, hget]
    obtain rfl := Option.some.inj (hget.symm.trans hs')
    rw [hs]
    exact ⟨forall_mem_files (by simpa using hentry), htime⟩
  have hcalls : calls = [.save s, .restore default] := by rw [hs]
  have hsaved : ((Call.save s).run folderRoot).exec ⟨d, .directory nook⟩ = (.ok .done, ⟨e, .directory nook⟩) :=
    Action.exec_bind_ok hsave _
  have hrestored (x : Session) (y : Disk) (hx : x.load default = .ok s) {r : Except Ledger.Error Report}
      (hr : (s.restore folderRoot).exec x.disk = (r, y)) :
      (((Call.restore default).run folderRoot).exec x).1 = r.map Answer.report := by
    have hquery : (Action.query fun x : Session => x.load default : Action Session Ledger.Error Snapshot).exec x =
        (.ok s, x) := by rw [Action.exec_query, hx]
    rw [Call.run, restoreId, Action.exec_bind, Action.exec_bind_ok hquery, Action.exec_zoom, hr]
    cases r <;> rfl
  have hfiled' : (runAll folderRoot calls ⟨d, .directory nook⟩).1 =
      [.ok .done, .error (.io (folderRoot.file remedyFile.path) .isDirectory)] := by
    rw [hcalls]
    simp only [runAll, hsaved, hrestored ⟨e, .directory nook⟩ e hload hfailed]
    rfl
  have hkept' : (runAll folderRoot calls ⟨d, .memory [] false⟩).1 =
      [.ok .done, .ok (.report ⟨default, [(remedyFile.path, .alreadyRestored)]⟩)] := by
    have hload' : (Session.mk d (.memory (Ordered.insert [] s.cycle s) false)).load default = .ok s := by
      rw [load_memory, hget]
    have hsaved' : ((Call.save s).run folderRoot).exec ⟨d, .memory [] false⟩ =
        (.ok .done, ⟨d, .memory (Ordered.insert [] s.cycle s) false⟩) := rfl
    rw [hcalls]
    simp only [runAll, hsaved', hrestored ⟨d, .memory (Ordered.insert [] s.cycle s) false⟩ d hload' hdone]
    rfl
  rw [hfiled', hkept']
  simp

end Mend.Snapshot
