import Mend.Proofs.Engine.Batch

/-!
# Writing a batch

Whether a file of a batch can be written does not depend on the other files of it (`Rewrote.failure?`). One file after
the other, the files before the first one that cannot be written are written. Files that are worked on at the same time
are all tried, and those that can be written are, in whatever order they get their turn. Both ways tell which files were
written and the same failure, and they leave the same disk if there is none (**`write_exact`**).
-/

namespace Mend

open Fs Fs.Disk Ledger
open Action
open Function (update)

namespace Batch

variable {root : Place} {p q : Prepared} {b ps qs done rest order : Batch} {d d₀ d₁ d₂ d' : Disk} {w : Workspace}

/-! ## One file -/

/-- What hinders the writing of a file on a disk, if anything does. -/
def failure? (root : Place) (d : Disk) (p : Prepared) : Option Engine.Error :=
  match ((writeFile root p).exec d).1 with
  | .ok _ => none
  | .error e => some e

/-- Nothing hinders the writing of a file on a disk. -/
def writable (root : Place) (d : Disk) (p : Prepared) : Bool := (failure? root d p).isNone

/-- What hinders the writing of a file, by what is read of it, where no name belongs to a temporary file. -/
def hindrance? (root : Place) (p : Prepared) : Except Fs.Error ByteArray → Option Engine.Error
  | .error e => some (.io (root.file p.file) e)
  | .ok content =>
    if Digest.content content ≠ p.beforeDigest then some (.fileChanged p.file)
    else (obstacle (root.file p.file) none).map fun e => .ledger (.io (temporary (root.file p.file)) e)

/-- The files of a batch have their new contents, with the permissions that they had, and nothing else has changed. -/
structure Rewrote (root : Place) (ps : Batch) (d d' : Disk) : Prop where
  written : ∀ p ∈ ps, ∃ content mode, d.node? (p.file.below root) = some (.file content mode) ∧
    d'.node? (p.file.below root) = some (.file p.after.toUTF8 mode)
  other : ∀ m, (∀ p ∈ ps, m ≠ p.file.below root) → d'.node? m = d.node? m

theorem exec_writeFile_of_hindrance {e : Engine.Error} (hp : p.file.Proper) (hclean : NoTemporary d)
    (h : hindrance? root p (d.read (root.file p.file).location) = some e) :
    (writeFile root p).exec d = (.error e, d) := by
  cases hread : d.read (root.file p.file).location with
  | error err =>
    rw [hread] at h
    obtain rfl := Option.some.inj h
    rw [writeFile, exec_bind, exec_query, hread]
  | ok content =>
    obtain ⟨hslot, -⟩ := RelPath.slot_of_read hp hread
    rw [hread, hindrance?] at h
    rw [writeFile, exec_bind, exec_query, hread]
    dsimp only
    split at h
    · next hchanged =>
      obtain rfl := Option.some.inj h
      rw [if_pos hchanged]
      rfl
    · next hsame =>
      obtain ⟨err, hobstacle, rfl⟩ := Option.map_eq_some_iff.mp h
      have hwrite := exec_atomicWrite_hindered hslot (by rwa [temporaryAt, hclean]) p.after.toUTF8
      rw [if_neg hsame, exec_bind_error (e := .ledger (.io (temporary (root.file p.file)) err)) (t := d)]
      rw [exec_mapError, hwrite]
      rfl

theorem exec_writeFile_of_free (hp : p.file.Proper) (hclean : NoTemporary d)
    (h : hindrance? root p (d.read (root.file p.file).location) = none) :
    ∃ d', (writeFile root p).exec d = (.ok p.applied, d') ∧ Rewrote root [p] d d' := by
  cases hread : d.read (root.file p.file).location with
  | error err =>
    rw [hread] at h
    cases h
  | ok content =>
    obtain ⟨hslot, mode, hnode⟩ := RelPath.slot_of_read hp hread
    rw [hread, hindrance?] at h
    split at h
    · cases h
    next hsame =>
    have hfits := (obstacle_eq_none_iff.mp (Option.map_eq_none_iff.mp h)).1
    obtain ⟨d', hwrite, hview⟩ := exec_atomicWrite_clean hslot hfits hclean p.after.toUTF8
    rw [hnode, modeOr] at hview
    refine ⟨d', ?_, ?_, ?_⟩
    · rw [writeFile, exec_bind, exec_query, hread]
      dsimp only
      rw [if_neg hsame, exec_bind_ok (a := ()) (t := d')]
      · rfl
      · rw [exec_mapError, hwrite]
        rfl
    · intro q hq
      obtain rfl := List.mem_singleton.mp hq
      exact ⟨content, mode, hnode, by rw [hview, Function.update_self]⟩
    · intro m hm
      rw [hview, Function.update_of_ne (hm p (by simp))]

/-- A failure goes by what is read of the file. -/
theorem failure?_eq (hp : p.file.Proper) (hclean : NoTemporary d) :
    failure? root d p = hindrance? root p (d.read (root.file p.file).location) := by
  rw [failure?]
  cases h : hindrance? root p (d.read (root.file p.file).location) with
  | some e => rw [exec_writeFile_of_hindrance hp hclean h]
  | none =>
    obtain ⟨d', hwrite, -⟩ := exec_writeFile_of_free hp hclean h
    rw [hwrite]

/-- Writing a file fails and changes nothing, or rewrites it. -/
theorem exec_writeFile_cases (root : Place) (hp : p.file.Proper) (hclean : NoTemporary d) :
    (∃ e, failure? root d p = some e ∧ (writeFile root p).exec d = (.error e, d)) ∨
      failure? root d p = none ∧ ∃ d', (writeFile root p).exec d = (.ok p.applied, d') ∧ Rewrote root [p] d d' := by
  rw [failure?_eq hp hclean]
  cases h : hindrance? root p (d.read (root.file p.file).location) with
  | some e => exact .inl ⟨e, rfl, exec_writeFile_of_hindrance hp hclean h⟩
  | none => exact .inr ⟨rfl, exec_writeFile_of_free hp hclean h⟩

/-! ## Files that are rewritten -/

namespace Rewrote

theorem refl (root : Place) (d : Disk) : Rewrote root [] d d := ⟨by simp, fun _ _ => rfl⟩

/-- What is at a location is a file of the batch, there before and after, or it is as it was. -/
theorem cases (h : Rewrote root ps d d') (m : Location) :
    (∃ p ∈ ps, m = p.file.below root ∧ ∃ content mode, d.node? m = some (.file content mode) ∧
      d'.node? m = some (.file p.after.toUTF8 mode)) ∨ d'.node? m = d.node? m := by
  by_cases hm : ∃ p ∈ ps, m = p.file.below root
  · obtain ⟨p, hp, rfl⟩ := hm
    exact .inl ⟨p, hp, rfl, h.written p hp⟩
  · exact .inr (h.other m fun p hp e => hm ⟨p, hp, e⟩)

theorem dir_iff (h : Rewrote root ps d d') (m : Location) : d'.node? m = some .dir ↔ d.node? m = some .dir := by
  rcases h.cases m with ⟨p, -, -, content, mode, hbefore, hafter⟩ | hsame
  · simp [hbefore, hafter]
  · rw [hsame]

theorem none_iff (h : Rewrote root ps d d') (m : Location) : d'.node? m = none ↔ d.node? m = none := by
  rcases h.cases m with ⟨p, -, -, content, mode, hbefore, hafter⟩ | hsame
  · simp [hbefore, hafter]
  · rw [hsame]

theorem noTemporary (h : Rewrote root ps d d') (hclean : NoTemporary d) : NoTemporary d' :=
  fun m name => (h.none_iff _).mpr (hclean m name)

/-- Whether a file can be written does not depend on other files that were rewritten. -/
theorem failure? (h : Rewrote root ps d d') (hclean : NoTemporary d) (hp : p.file.Proper)
    (hfresh : p.file ∉ ps.map Prepared.file) : failure? root d' p = Batch.failure? root d p := by
  rw [failure?_eq hp hclean, failure?_eq hp (h.noTemporary hclean)]
  congr 1
  -- the directories are the same, so that the path leads to the same file
  refine read_congr h.dir_iff h.none_iff fun l hl => ?_
  obtain rfl := RelPath.locate_file hp hl
  refine h.other _ fun q hq e => hfresh ?_
  rw [RelPath.below_inj e]
  exact List.mem_map_of_mem hq

theorem snoc (h : Rewrote root ps d₀ d) (hp : Rewrote root [p] d d') (hfresh : p.file ∉ ps.map Prepared.file) :
    Rewrote root (ps ++ [p]) d₀ d' := by
  have hapart : ∀ q ∈ ps, q.file.below root ≠ p.file.below root := by
    intro q hq e
    exact hfresh (RelPath.below_inj e ▸ List.mem_map_of_mem hq)
  refine ⟨fun q hq => ?_, fun m hm => ?_⟩
  · rcases List.mem_append.mp hq with hq | hq
    · obtain ⟨content, mode, hbefore, hafter⟩ := h.written q hq
      refine ⟨content, mode, hbefore, ?_⟩
      rw [hp.other _ fun k hk => List.mem_singleton.mp hk ▸ hapart q hq, hafter]
    · obtain rfl := List.mem_singleton.mp hq
      obtain ⟨content, mode, hbefore, hafter⟩ := hp.written q (by simp)
      rw [h.other _ fun k hk e => hapart k hk e.symm] at hbefore
      exact ⟨content, mode, hbefore, hafter⟩
  · rw [hp.other m fun k hk => hm k (by simp [List.mem_singleton.mp hk]), h.other m fun k hk => hm k (by simp [hk])]

/-- The files tell what has become of the disk. -/
theorem unique (h₁ : Rewrote root ps d d₁) (h₂ : Rewrote root ps d d₂) : d₁.node? = d₂.node? := by
  funext m
  by_cases hm : ∃ p ∈ ps, m = p.file.below root
  · obtain ⟨p, hp, rfl⟩ := hm
    obtain ⟨content, mode, hbefore, hafter₁⟩ := h₁.written p hp
    obtain ⟨content', mode', hbefore', hafter₂⟩ := h₂.written p hp
    obtain ⟨-, rfl⟩ := Node.file.inj (Option.some.inj (hbefore.symm.trans hbefore'))
    rw [hafter₁, hafter₂]
  · rw [h₁.other m fun p hp e => hm ⟨p, hp, e⟩, h₂.other m fun p hp e => hm ⟨p, hp, e⟩]

theorem perm (h : Rewrote root ps d d') (hperm : ps.Perm qs) : Rewrote root qs d d' :=
  ⟨fun p hp => h.written p (hperm.mem_iff.mpr hp), fun m hm => h.other m fun p hp => hm p (hperm.mem_iff.mp hp)⟩

end Rewrote

/-! ## One file more -/

/-- If nobody else is there, writing without a deadline changes the disk as writing the file does. -/
theorem exec_writeInTime_quiet (root : Place) (p : Prepared) (hquiet : ∀ n p d, w.around.edit n p d = d) :
    ∃ v, (writeInTime root none p).exec w = (.ok ((writeFile root p).exec w.disk).1, v) ∧
      v.disk = ((writeFile root p).exec w.disk).2 ∧ v.around = w.around := by
  refine ⟨((Workspace.pause .written).exec { w with disk := ((writeFile root p).exec w.disk).2 }).2, rfl, ?_, rfl⟩
  rw [Workspace.exec_pause]
  exact hquiet _ _ _

/-- After some files of a batch were rewritten, one more is tried, with the result that it would have had before. -/
theorem exec_writeInTime_next (hquiet : ∀ n p d, w.around.edit n p d = d) (hclean : NoTemporary d)
    (hp : p.file.Proper) (hfresh : p.file ∉ done.map Prepared.file) (hdone : Rewrote root done d w.disk) :
    ∃ r v, (writeInTime root none p).exec w = (.ok r, v) ∧ v.around = w.around ∧
      ((∃ e, failure? root d p = some e ∧ r = .error e ∧ Rewrote root done d v.disk) ∨
        failure? root d p = none ∧ r = .ok p.applied ∧ Rewrote root (done ++ [p]) d v.disk) := by
  obtain ⟨v, hrun, hdisk, haround⟩ := exec_writeInTime_quiet root p hquiet
  refine ⟨_, v, hrun, haround, ?_⟩
  rw [hdisk, ← hdone.failure? hclean hp hfresh]
  rcases exec_writeFile_cases root hp (hdone.noTemporary hclean) with
    ⟨e, hfails, hwrite⟩ | ⟨hfree, d', hwrite, hrewrote⟩
  · exact .inl ⟨e, hfails, by rw [hwrite], by rwa [hwrite]⟩
  · exact .inr ⟨hfree, by rw [hwrite], by rw [hwrite]; exact hdone.snoc hrewrote hfresh⟩

theorem fresh_of_nodup (h : ((done ++ p :: rest).map Prepared.file).Nodup) : p.file ∉ done.map Prepared.file := by
  rw [List.map_append, List.map_cons, List.nodup_append] at h
  exact fun hp => h.2.2 _ hp _ List.mem_cons_self rfl

/-! ## One after the other -/

/-- Writing stops at the first file that cannot be written. -/
theorem exec_writeEach_stopping (hquiet : ∀ n p d, w.around.edit n p d = d) (hclean : NoTemporary d)
    (hproper : ∀ p ∈ rest, p.file.Proper) (hnodup : ((done ++ rest).map Prepared.file).Nodup)
    (hdone : Rewrote root done d w.disk) :
    ∃ w', (writeEach root none false rest).exec w = (.ok ((rest.takeWhile (writable root d)).map Prepared.applied,
        rest.findSome? (failure? root d)), w') ∧
      Rewrote root (done ++ rest.takeWhile (writable root d)) d w'.disk := by
  -- over the files that are left; those that are done are rewritten on the disk that they leave
  induction rest generalizing done w with
  | nil => exact ⟨w, rfl, by simpa using hdone⟩
  | cons p rest ih =>
    obtain ⟨r, v, hrun, haround, hcase⟩ :=
      exec_writeInTime_next hquiet hclean (hproper p (by simp)) (fresh_of_nodup hnodup) hdone
    rw [exec_writeEach_cons hrun]
    rcases hcase with ⟨e, hfails, rfl, hdone'⟩ | ⟨hfree, rfl, hdone'⟩
    · refine ⟨v, ?_, ?_⟩
      · simp [writable, hfails]
      · simpa [writable, hfails] using hdone'
    · obtain ⟨w', hwrite, hrewrote⟩ := ih (by rwa [haround]) (fun q hq => hproper q (by simp [hq]))
        (by simpa using hnodup) hdone'
      refine ⟨w', ?_, ?_⟩
      · simp [hwrite, writable, hfree]
      · simpa [writable, hfree] using hrewrote

/-! ## At the same time -/

/-- Writes files in some order, each of them whatever becomes of the others. -/
def writeAll (root : Place) (deadline : Option Deadline) :
    Batch → Workspace.Step (List (RelPath × Except Engine.Error Applied))
  | [] => return []
  | p :: rest => do
    let r ← writeInTime root deadline p
    let rs ← writeAll root deadline rest
    return (p.file, r) :: rs

/-- The files of a batch that were written, and the first failure, in the order of the batch. -/
def summary (b : Batch) (results : List (RelPath × Except Engine.Error Applied)) :
    List Applied × Option Engine.Error :=
  let rs := b.filterMap fun p => results.lookup p.file
  (rs.filterMap fun r => r.toOption, rs.findSome? fun r => match r with
    | .ok _ => none
    | .error e => some e)

/-- Writes a batch whose files get their turn in some order. -/
def writeInOrder (root : Place) (deadline : Option Deadline) (order b : Batch) :
    Workspace.Step (List Applied × Option Engine.Error) := do
  let results ← writeAll root deadline order
  return summary b results

/-- What comes of a file on a disk. -/
def result (root : Place) (d : Disk) (p : Prepared) : Except Engine.Error Applied :=
  match failure? root d p with
  | some e => .error e
  | none => .ok p.applied

theorem exec_writeAll_cons {deadline : Option Deadline} {r : Except Engine.Error Applied} {v : Workspace}
    (h : (writeInTime root deadline p).exec w = (.ok r, v)) :
    (writeAll root deadline (p :: rest)).exec w =
      match (writeAll root deadline rest).exec v with
      | (.ok rs, w') => (.ok ((p.file, r) :: rs), w')
      | (.error e, w') => (.error e, w') := by
  rw [writeAll, exec_bind_ok h, exec_bind]
  rcases (writeAll root deadline rest).exec v with ⟨_ | _, _⟩ <;> rfl

/-- Every file that can be written is written. -/
theorem exec_writeAll (hquiet : ∀ n p d, w.around.edit n p d = d) (hclean : NoTemporary d)
    (hproper : ∀ p ∈ rest, p.file.Proper) (hnodup : ((done ++ rest).map Prepared.file).Nodup)
    (hdone : Rewrote root done d w.disk) :
    ∃ w', (writeAll root none rest).exec w = (.ok (rest.map fun p => (p.file, result root d p)), w') ∧
      Rewrote root (done ++ rest.filter (writable root d)) d w'.disk := by
  induction rest generalizing done w with
  | nil => exact ⟨w, rfl, by simpa using hdone⟩
  | cons p rest ih =>
    obtain ⟨r, v, hrun, haround, hcase⟩ :=
      exec_writeInTime_next hquiet hclean (hproper p (by simp)) (fresh_of_nodup hnodup) hdone
    rw [exec_writeAll_cons hrun]
    rcases hcase with ⟨e, hfails, rfl, hdone'⟩ | ⟨hfree, rfl, hdone'⟩
    · obtain ⟨w', hwrite, hrewrote⟩ := ih (by rwa [haround]) (fun q hq => hproper q (by simp [hq]))
        (hnodup.sublist ((List.sublist_cons_self p rest).append_left done |>.map _)) hdone'
      refine ⟨w', ?_, ?_⟩
      · simp [hwrite, result, hfails]
      · simpa [writable, hfails] using hrewrote
    · obtain ⟨w', hwrite, hrewrote⟩ := ih (by rwa [haround]) (fun q hq => hproper q (by simp [hq]))
        (by simpa using hnodup) hdone'
      refine ⟨w', ?_, ?_⟩
      · simp [hwrite, result, hfree]
      · simpa [writable, hfree] using hrewrote

/-- The result of each file is found under its path. -/
theorem lookup_results {α : Type} (f : Prepared → α) (hnodup : (order.map Prepared.file).Nodup) (hp : p ∈ order) :
    (order.map fun q => (q.file, f q)).lookup p.file = some (f p) := by
  induction order with
  | nil => cases hp
  | cons q order ih =>
    obtain ⟨hfresh, hnodup⟩ := List.nodup_cons.mp hnodup
    rw [List.map_cons]
    rcases List.mem_cons.mp hp with rfl | hp
    · exact List.lookup_cons_self
    · have hne : (p.file == q.file) = false := by
        rw [beq_eq_false_iff_ne]
        rintro e
        exact hfresh (e ▸ List.mem_map_of_mem hp)
      rw [List.lookup_cons, hne]
      exact ih hnodup hp

theorem filterMap_results (root : Place) (d : Disk) (b : Batch) :
    (b.map (result root d)).filterMap (fun r => r.toOption) = (b.filter (writable root d)).map Prepared.applied := by
  induction b with
  | nil => rfl
  | cons p b ih =>
    cases h : failure? root d p with
    | none => simpa [result, writable, h, Except.toOption] using ih
    | some e => simpa [result, writable, h, Except.toOption] using ih

/-- The order in which files get their turn is not seen in the summary. -/
theorem summary_results (root : Place) (d : Disk) (hperm : order.Perm b) (hnodup : (b.map Prepared.file).Nodup) :
    summary b (order.map fun p => (p.file, result root d p)) =
      ((b.filter (writable root d)).map Prepared.applied, b.findSome? (failure? root d)) := by
  have hnodup' := (hperm.map Prepared.file).nodup_iff.mpr hnodup
  have hresults : (b.filterMap fun p => (order.map fun p => (p.file, result root d p)).lookup p.file) =
      b.map (result root d) := by
    calc (b.filterMap fun p => (order.map fun p => (p.file, result root d p)).lookup p.file)
      _ = b.filterMap (some ∘ result root d) :=
        List.filterMap_congr fun p hp => lookup_results _ hnodup' (hperm.mem_iff.mpr hp)
      _ = b.map (result root d) := congrFun List.filterMap_eq_map b
  rw [summary, hresults, filterMap_results, List.findSome?_map]
  congr 2
  funext p
  cases h : failure? root d p <;> simp [result, h]

theorem summary_cons {r : Except Engine.Error Applied} {rs : List (RelPath × Except Engine.Error Applied)}
    (hfresh : p.file ∉ rest.map Prepared.file) :
    summary (p :: rest) ((p.file, r) :: rs) =
      match r with
      | .ok a => (a :: (summary rest rs).1, (summary rest rs).2)
      | .error e => ((summary rest rs).1, some e) := by
  have hrest : (rest.filterMap fun q => ((p.file, r) :: rs).lookup q.file) =
      rest.filterMap fun q => rs.lookup q.file := by
    refine List.filterMap_congr fun q hq => ?_
    have hne : (q.file == p.file) = false := by
      rw [beq_eq_false_iff_ne]
      exact fun e => hfresh (e ▸ List.mem_map_of_mem hq)
    rw [List.lookup_cons, hne]
  rw [summary, List.filterMap_cons, List.lookup_cons_self, hrest]
  cases r <;> rfl

/-- Going on after a failure is letting the files have their turn in the order of the batch. -/
theorem exec_writeEach_onward (root : Place) (deadline : Option Deadline) (hnodup : (b.map Prepared.file).Nodup)
    (w : Workspace) :
    (writeEach root deadline true b).exec w = (writeInOrder root deadline b b).exec w := by
  induction b generalizing w with
  | nil => rfl
  | cons p rest ih =>
    obtain ⟨hfresh, hnodup⟩ := List.nodup_cons.mp hnodup
    obtain ⟨r, v, hrun⟩ : ∃ r v, (writeInTime root deadline p).exec w = (.ok r, v) := ⟨_, _, rfl⟩
    have hrest := ih hnodup v
    rw [writeInOrder, exec_bind] at hrest
    rw [exec_writeEach_cons hrun, hrest, writeInOrder, exec_bind, exec_writeAll_cons hrun]
    rcases (writeAll root deadline rest).exec v with ⟨e | rs, w'⟩
    · cases r <;> rfl
    · dsimp only
      rw [exec_pure, exec_pure, summary_cons hfresh]
      cases r <;> rfl

/-! ## Both ways -/

/-- **Writing is accounted for.** If nobody else is there and no name belongs to a temporary file, files that are written
one after the other are written up to the first that cannot be, whose failure is told. Files that are worked on at the
same time are written if they can be, and the same failure is told, in whatever order they get their turn. The files that
are told of are those that were written, and nothing else changes. Without a failure both ways tell the same and leave
the same disk. -/
theorem write_exact (root : Place) (hproper : ∀ p ∈ b, p.file.Proper) (hnodup : (b.map Prepared.file).Nodup)
    (hclean : NoTemporary w.disk) (hquiet : ∀ n p d, w.around.edit n p d = d) :
    (∀ parallel : Config.Parallel, parallel.workersFor? b.length = none →
      ∃ w', (write root parallel none b).exec w =
          (.ok ((b.takeWhile (writable root w.disk)).map Prepared.applied, b.findSome? (failure? root w.disk)), w') ∧
        Rewrote root (b.takeWhile (writable root w.disk)) w.disk w'.disk) ∧
    (∀ parallel : Config.Parallel, parallel.workersFor? b.length ≠ none →
      (write root parallel none b).exec w = (writeInOrder root none b b).exec w) ∧
    (∀ order : Batch, order.Perm b →
      ∃ w', (writeInOrder root none order b).exec w =
          (.ok ((b.filter (writable root w.disk)).map Prepared.applied, b.findSome? (failure? root w.disk)), w') ∧
        Rewrote root (b.filter (writable root w.disk)) w.disk w'.disk) ∧
    ∀ (order : Batch) (as : List Applied) (u : Workspace), order.Perm b →
      (writeInOrder root none order b).exec w = (.ok (as, none), u) →
      ∀ parallel : Config.Parallel, parallel.workersFor? b.length = none →
        ∃ v, (write root parallel none b).exec w = (.ok (as, none), v) ∧ v.disk.node? = u.disk.node? := by
  have hstopping (parallel : Config.Parallel) (hworkers : parallel.workersFor? b.length = none) :
      ∃ w', (write root parallel none b).exec w =
          (.ok ((b.takeWhile (writable root w.disk)).map Prepared.applied, b.findSome? (failure? root w.disk)), w') ∧
        Rewrote root (b.takeWhile (writable root w.disk)) w.disk w'.disk := by
    rw [write, hworkers]
    exact exec_writeEach_stopping hquiet hclean hproper (by simpa using hnodup) (Rewrote.refl root w.disk)
  have hordered (order : Batch) (hperm : order.Perm b) :
      ∃ w', (writeInOrder root none order b).exec w =
          (.ok ((b.filter (writable root w.disk)).map Prepared.applied, b.findSome? (failure? root w.disk)), w') ∧
        Rewrote root (b.filter (writable root w.disk)) w.disk w'.disk := by
    obtain ⟨w', hwrite, hrewrote⟩ := exec_writeAll hquiet hclean (fun p hp => hproper p (hperm.mem_iff.mp hp))
      (by simpa using (hperm.map Prepared.file).nodup_iff.mpr hnodup) (Rewrote.refl root w.disk)
    refine ⟨w', ?_, hrewrote.perm (hperm.filter _)⟩
    rw [writeInOrder, exec_bind_ok hwrite, exec_pure, summary_results root w.disk hperm hnodup]
  refine ⟨hstopping, fun parallel hworkers => ?_, hordered, fun order as u hperm hrun parallel hworkers => ?_⟩
  · obtain ⟨n, hn⟩ := Option.ne_none_iff_exists'.mp hworkers
    rw [write, hn]
    exact exec_writeEach_onward root none hnodup w
  · obtain ⟨w', hordered, hrewrote⟩ := hordered order hperm
    obtain ⟨v, hwrite, hrewrote'⟩ := hstopping parallel hworkers
    rw [hordered] at hrun
    obtain ⟨hresult, rfl⟩ := Prod.mk.inj hrun
    obtain ⟨rfl, hnone⟩ := Prod.mk.inj (Except.ok.inj hresult)
    -- without a failure every file can be written
    have hall : ∀ p ∈ b, writable root w.disk p = true := by
      intro p hp
      rw [writable, List.findSome?_eq_none_iff.mp hnone p hp]
      rfl
    rw [List.takeWhile_eq_self_iff.mpr hall, hnone] at hwrite
    rw [List.takeWhile_eq_self_iff.mpr hall] at hrewrote'
    rw [List.filter_eq_self.mpr hall] at hrewrote ⊢
    exact ⟨v, hwrite, hrewrote'.unique hrewrote⟩

/-! ### A file that is missing -/

/-- The change of one line in a file. -/
def change (name : String) : Prepared := ⟨⟨[name]⟩, "x\n", "y\n", [], [], 2⟩

/-- A folder with two of three files. -/
def gap : Workspace := .inMemory [] (Snapshot.folder [("a", "x\n"), ("c", "x\n")])

/-- The second file cannot be read. -/
def missing : Engine.Error := .io (Snapshot.folderRoot.file ⟨["b"]⟩) .notFound

theorem noTemporary_gap : NoTemporary gap.disk := noTemporary_of_entries (by decide)

theorem failure?_gap :
    failure? Snapshot.folderRoot gap.disk (change "a") = none ∧
      failure? Snapshot.folderRoot gap.disk (change "b") = some missing ∧
      failure? Snapshot.folderRoot gap.disk (change "c") = none := by
  have hproper (name : String) (hname : RelPath.Name name) (hplain : RelPath.Plain name) : (change name).file.Proper :=
    RelPath.proper_name hname hplain
  rw [failure?_eq (hproper "a" (by decide) (by decide)) noTemporary_gap,
    failure?_eq (hproper "b" (by decide) (by decide)) noTemporary_gap,
    failure?_eq (hproper "c" (by decide) (by decide)) noTemporary_gap]
  have hheld (name : String) : hindrance? Snapshot.folderRoot (change name) (.ok "x\n".toUTF8) =
      (obstacle (Snapshot.folderRoot.file ⟨[name]⟩) none).map fun e =>
        .ledger (.io (temporary (Snapshot.folderRoot.file ⟨[name]⟩)) e) := by
    have hsame : ¬ Digest.content "x\n".toUTF8 ≠ (change name).beforeDigest := by
      rw [Prepared.beforeDigest, change, not_not]
    rw [hindrance?, if_neg hsame, change]
  have ha : gap.disk.read (Snapshot.folderRoot.file (change "a").file).location = .ok "x\n".toUTF8 := rfl
  have hb : gap.disk.read (Snapshot.folderRoot.file (change "b").file).location = .error .notFound := rfl
  have hc : gap.disk.read (Snapshot.folderRoot.file (change "c").file).location = .ok "x\n".toUTF8 := rfl
  have hfits (name : String) (h : name = "a" ∨ name = "c") :
      obstacle (Snapshot.folderRoot.file ⟨[name]⟩) none = none := by
    rcases h with rfl | rfl <;> decide +kernel
  rw [ha, hb, hc, hheld, hheld, hfits "a" (.inl rfl), hfits "c" (.inr rfl)]
  exact ⟨rfl, rfl, rfl⟩

/-- One after the other, the first of three files is written; at the same time, the last one is too. -/
theorem write_exact_gap :
    let b := [change "a", change "b", change "c"]
    (∀ p ∈ b, p.file.Proper) ∧ (b.map Prepared.file).Nodup ∧ NoTemporary gap.disk ∧
      (∀ n p d, gap.around.edit n p d = d) ∧
      (∃ w', (write Snapshot.folderRoot {} none b).exec gap = (.ok ([(change "a").applied], some missing), w') ∧
        Rewrote Snapshot.folderRoot [change "a"] gap.disk w'.disk) ∧
      ∃ w', (writeInOrder Snapshot.folderRoot none b.reverse b).exec gap =
          (.ok ([(change "a").applied, (change "c").applied], some missing), w') ∧
        Rewrote Snapshot.folderRoot [change "a", change "c"] gap.disk w'.disk := by
  intro b
  have hproper : ∀ p ∈ b, p.file.Proper := by
    intro p hp
    simp only [b, List.mem_cons, List.not_mem_nil, or_false] at hp
    rcases hp with rfl | rfl | rfl
    all_goals exact RelPath.proper_name (by decide) (by decide)
  have hnodup : (b.map Prepared.file).Nodup := by decide
  obtain ⟨hsequential, -, hparallel, -⟩ :=
    write_exact Snapshot.folderRoot hproper hnodup noTemporary_gap fun _ _ _ => rfl
  obtain ⟨ha, hb, hc⟩ := failure?_gap
  have hstopping := hsequential {} rfl
  have hreverse := hparallel b.reverse b.reverse_perm
  simp only [b, List.takeWhile_cons, List.filter_cons, List.filter_nil, List.findSome?_cons, writable, ha, hb, hc]
    at hstopping hreverse
  exact ⟨hproper, hnodup, noTemporary_gap, fun _ _ _ => rfl, hstopping, hreverse⟩

end Batch
end Mend
