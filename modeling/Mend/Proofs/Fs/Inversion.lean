import Mend.Proofs.Fs.Change

/-!
# What a change that succeeded did

A change of a disk that does not fail was made in a slot, and its effect is an update there. Directories are
never lost by a change of files (`dirs_of_update`).
-/

namespace Mend.Fs.Disk

open Function (update)

/-- A location where no directory stands is changed to something else than a directory. -/
theorem dirs_of_update {d d' : Disk} {l : Location} {n : Option Node} (hl : d.node? l ≠ some .dir)
    (h : d'.node? = update d.node? l n) {m : Location} (hm : d.node? m = some .dir) : d'.node? m = some .dir := by
  have hne : m ≠ l := fun e => hl (e ▸ hm)
  rw [h, Function.update_of_ne hne, hm]

/-- What is moved is no directory, and it is not moved to one. -/
theorem dirs_of_move {d d' : Disk} {l k : Location} {n : Option Node} (hl : d.node? l ≠ some .dir)
    (hk : d.node? k ≠ some .dir) (h : d'.node? = update (update d.node? l none) k n) {m : Location}
    (hm : d.node? m = some .dir) : d'.node? m = some .dir := by
  have hml : m ≠ l := fun e => hl (e ▸ hm)
  have hmk : m ≠ k := fun e => hk (e ▸ hm)
  rw [h, Function.update_of_ne hmk, Function.update_of_ne hml, hm]

theorem fileAt_of_update {d d' : Disk} {l : Location} {n : Option Node} (h : d'.node? = update d.node? l n)
    {m : Location} (hm : m ≠ l) : d'.fileAt m = d.fileAt m :=
  fileAt_congr (by rw [h, Function.update_of_ne hm])

/-- What stands where steps lead, and where that is. -/
theorem spot_of_reach {d : Disk} {steps : Location} {spot : Spot} (h : d.reach steps = .ok spot) :
    d.locate steps = .ok spot.location ∧ spot.tree.map Tree.node = d.node? spot.location := by
  have hlocate := locate_of_reach h
  have hspot := h.symm.trans (reach_of_locate hlocate)
  refine ⟨hlocate, ?_⟩
  rw [node?]
  exact congrArg (fun s : Spot => s.tree.map Tree.node) (Except.ok.inj hspot)

theorem slot_of_reachFile {d : Disk} {steps : Location} {spot : Spot} (h : d.reachFile steps = .ok spot) :
    Slot d steps spot.location := by
  rw [reachFile] at h
  split at h
  · cases h
  next s hreach =>
  split at h
  · cases h
  next hfile =>
  obtain rfl := Except.ok.inj h
  obtain ⟨hlocate, hnode⟩ := spot_of_reach hreach
  simp only [Bool.or_eq_true, decide_eq_true_eq, not_or] at hfile
  rw [unslashed, if_neg hfile.1] at hlocate
  exact ⟨hlocate, hnode ▸ hfile.2⟩

theorem write_ok {d d' : Disk} {steps : Location} {content : ByteArray} (h : d.write steps content = .ok d') :
    ∃ l mode, Slot d steps l ∧ d'.node? = update d.node? l (some (.file content mode)) := by
  have hslot : ∃ l, Slot d steps l := by
    cases hreach : d.reachFile steps with
    | error e => simp [write, hreach] at h
    | ok spot => exact ⟨_, slot_of_reachFile hreach⟩
  obtain ⟨l, hslot⟩ := hslot
  obtain ⟨d'', mode, hwrite, hview⟩ := hslot.write content
  rw [h] at hwrite
  exact ⟨l, mode, hslot, Except.ok.inj hwrite ▸ hview⟩

theorem touch_ok {d d' : Disk} {steps : Location} (h : d.touch steps = .ok d') :
    ∃ l mode, Slot d steps l ∧
      d'.node? = update d.node? l (some (.file ((d.fileAt l).getD ByteArray.empty) mode)) := by
  have hslot : ∃ l, Slot d steps l := by
    cases hreach : d.reachFile steps with
    | error e => simp [touch, hreach] at h
    | ok spot => exact ⟨_, slot_of_reachFile hreach⟩
  obtain ⟨l, hslot⟩ := hslot
  obtain ⟨d'', mode, htouch, hview⟩ := hslot.touch
  rw [h] at htouch
  exact ⟨l, mode, hslot, Except.ok.inj htouch ▸ hview⟩

theorem unlink_ok {d d' : Disk} {steps : Location} (h : d.unlink steps = .ok d') :
    ∃ l, Slot d steps l ∧ d'.node? = update d.node? l none := by
  have hspot : ∃ l content mode, d.locate steps = .ok l ∧ d.node? l = some (.file content mode) := by
    rw [unlink] at h
    split at h
    · cases h
    · cases h
    · cases h
    next l content mode hreach =>
      obtain ⟨hlocate, hnode⟩ := spot_of_reach hreach
      exact ⟨l, content, mode, hlocate, hnode.symm⟩
  obtain ⟨l, content, mode, hlocate, hnode⟩ := hspot
  have hslot : Slot d steps l := ⟨hlocate, by simp [hnode]⟩
  obtain ⟨d'', hunlink, hview⟩ := hslot.unlink hnode
  rw [h] at hunlink
  exact ⟨l, hslot, Except.ok.inj hunlink ▸ hview⟩

/-- If no file to delete is found, nothing is there. -/
theorem node?_of_unlink_notFound {d : Disk} {steps l : Location} (hlocate : d.locate steps = .ok l)
    (h : d.unlink steps = .error .notFound) : d.node? l = none := by
  unfold unlink at h
  rw [reach_of_locate hlocate] at h
  unfold node?
  cases htree : d.tree.at? l with
  | none => rfl
  | some t =>
    rw [htree] at h
    cases t with
    | file content mode => cases h
    | dir cs => cases h

theorem chmod_ok {d d' : Disk} {steps l : Location} {mode : Nat} (hslot : Slot d steps l)
    {content : ByteArray} {old : Nat} (hfile : d.node? l = some (.file content old))
    (h : d.chmod steps mode = .ok d') : d'.node? = update d.node? l (some (.file content mode)) := by
  rw [chmod, reach_of_locate hslot.locate, at?_of_file hfile] at h
  rw [← Except.ok.inj h]
  exact node?_put_file hslot.ne_nil hslot.parent hslot.not_dir content mode

/-- A file can only be moved to a slot. -/
theorem slot_of_rename {d d' : Disk} {source target s : Location} (hs : Slot d source s) {content : ByteArray}
    {mode : Nat} (hfile : d.node? s = some (.file content mode)) (h : d.rename source target = .ok d') :
    ∃ l, Slot d target l := by
  rw [rename, reach_of_locate hs.locate, at?_of_file hfile] at h
  cases hreach : d.reach (unslashed target) with
  | error e => simp [hreach] at h
  | ok spot =>
    simp only [hreach] at h
    split at h
    · cases h
    split at h
    · cases h
    next hslash =>
    have hun : unslashed target = target := by
      rw [unslashed, if_neg fun e => hslash (by simp [e, Tree.node])]
    rw [hun] at hreach
    obtain ⟨hlocate, hnode⟩ := spot_of_reach hreach
    refine ⟨spot.location, hlocate, ?_⟩
    rw [← hnode]
    split at h
    · next hsame =>
      have hleaf := hs.not_dir
      rwa [hsame, ← hnode] at hleaf
    · cases htree : spot.tree with
      | none => simp
      | some t =>
        cases t with
        | file c m => simp [Tree.node]
        | dir cs => simp [htree, mayReplace] at h

end Mend.Fs.Disk
