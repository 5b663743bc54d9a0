import Mathlib.Data.List.Induction
import Mend.Proofs.Fs.View

/-!
# How a disk changes

Every change of a disk is an update of what it shows at one location. `node?_alter` says so of the change
that all others are made of, and the sections after it of putting, dropping and moving files.

A slot (`Slot`) is a path that leads to a file or to nothing in a directory that is there. It stays one
while files come and go. Its last step is a name, and what comes before it leads to the directory around it
(`Slot.cut`).

Making directories puts some where nothing stood, and changes nothing else (`grown_mkdirs`).
-/

namespace Mend.Fs.Disk

open Function (update)

theorem tree_alter (d : Disk) (l : Location) (f : Option Tree → Option Tree) :
    (d.alter l f).tree = d.tree.alter f l := by
  obtain ⟨root⟩ := d
  cases l with
  | nil => rfl
  | cons s l =>
    cases l with
    | nil => rfl
    | cons a l =>
      simp only [alter, tree]
      rw [Tree.alter]
      · cases root.lookup s <;> rfl
      · simp

/-- A change at a location in a directory, where nothing stood below and nothing will. -/
theorem node?_alter {d : Disk} {l : Location} (hl : l ≠ []) (hparent : d.node? l.dropLast = some .dir)
    (f : Option Tree → Option Tree) (hbelow : ∀ m, m ≠ [] → d.node? (l ++ m) = none)
    (hnew : ∀ t, f (d.tree.at? l) = some t → ∀ s, t.children.lookup s = none) :
    (d.alter l f).node? = update d.node? l ((f (d.tree.at? l)).map Tree.node) := by
  have hat : (d.alter l f).tree.at? l = f (d.tree.at? l) := by
    cases ht : d.tree.at? l.dropLast with
    | none => simp [node?, ht] at hparent
    | some t =>
      cases t with
      | file content mode => simp [node?, ht, Tree.node] at hparent
      | dir cs =>
        rw [tree_alter]
        have := Tree.at?_alter_self f d.tree l.dropLast (l.getLast hl) ht
        rwa [List.dropLast_concat_getLast hl] at this
  funext m
  by_cases hm : l <+: m
  · obtain ⟨k, rfl⟩ := hm
    by_cases hk : k = []
    · subst hk
      rw [List.append_nil, Function.update_self, node?, hat]
    · have hne : l ++ k ≠ l := by simpa using hk
      rw [Function.update_of_ne hne, hbelow k hk, node?_append, hat]
      cases hf : f (d.tree.at? l) with
      | none => rfl
      | some t => simp [Tree.at?_eq_none_of_lookup (hnew t hf) hk]
  · have hne : m ≠ l := fun e => hm (e ▸ List.prefix_rfl)
    rw [Function.update_of_ne hne, node?, tree_alter, Tree.node_at?_alter_of_not_prefix f _ _ _ hm, node?]

theorem node?_put_file {d : Disk} {l : Location} (hl : l ≠ []) (hparent : d.node? l.dropLast = some .dir)
    (hleaf : d.node? l ≠ some .dir) (content : ByteArray) (mode : Nat) :
    (d.put l (.file content mode)).node? = update d.node? l (some (.file content mode)) := by
  rw [put, node?_alter hl hparent _ (fun m => node?_append_of_not_dir hleaf)]
  · rfl
  · rintro t ht s
    obtain rfl := Option.some.inj ht
    rfl

theorem node?_put_dir {d : Disk} {l : Location} (hl : l ≠ []) (hparent : d.node? l.dropLast = some .dir)
    (hnone : d.node? l = none) : (d.put l .dir).node? = update d.node? l (some .dir) := by
  have hat : d.tree.at? l = none := Option.map_eq_none_iff.mp hnone
  have hleaf : d.node? l ≠ some .dir := by rw [hnone]; simp
  rw [put, node?_alter hl hparent _ (fun m => node?_append_of_not_dir hleaf)]
  · rfl
  · rintro t ht s
    rw [hat] at ht
    obtain rfl := Option.some.inj ht
    rfl

theorem node?_drop {d : Disk} {l : Location} (hl : l ≠ []) (hparent : d.node? l.dropLast = some .dir)
    (hleaf : d.node? l ≠ some .dir) : (d.drop l).node? = update d.node? l none := by
  rw [drop, node?_alter hl hparent _ (fun m => node?_append_of_not_dir hleaf)]
  · rfl
  · rintro t ht
    cases ht

/-! ## Slots -/

/-- The steps lead to a location where a file stands, or nothing in a directory that is there. -/
structure Slot (d : Disk) (steps l : Location) : Prop where
  locate : d.locate steps = .ok l
  not_dir : d.node? l ≠ some .dir

theorem follow_append {v : Location → Option Node} {at_ a b l : Location} (hb : b ≠ [])
    (h : follow v at_ (a ++ b) = .ok l) :
    ∃ m, follow v at_ a = .ok m ∧ v m = some .dir ∧ follow v m b = .ok l := by
  induction a generalizing at_ with
  | nil =>
    obtain ⟨s, b, rfl⟩ := List.exists_cons_of_ne_nil hb
    refine ⟨at_, rfl, ?_, h⟩
    by_contra hne
    rw [List.nil_append, follow, if_pos hne] at h
    cases h
  | cons s a ih =>
    rw [List.cons_append, follow] at h
    rw [follow]
    split at h
    · cases h
    next hat =>
    rw [if_neg hat]
    split at h
    · next hdot => rw [if_pos hdot]; exact ih h
    next hdot =>
    rw [if_neg hdot]
    split at h
    · next hup => rw [if_pos hup]; exact ih h
    next hup =>
    rw [if_neg hup]
    split at h
    · cases h
    next hlong =>
    rw [if_neg hlong]
    split at h
    · next hsome => rw [if_pos hsome]; exact ih h
    · simp [hb] at h

theorem follow_append_of_dir {v : Location → Option Node} {at_ a m : Location}
    (h : follow v at_ a = .ok m) (hm : v m = some .dir) (b : Location) :
    follow v at_ (a ++ b) = follow v m b := by
  induction a generalizing at_ with
  | nil => rw [List.nil_append, Except.ok.inj h]
  | cons s a ih =>
    rw [follow] at h
    rw [List.cons_append, follow]
    split at h
    · cases h
    next hat =>
    rw [if_neg hat]
    split at h
    · next hdot => rw [if_pos hdot]; exact ih h
    next hdot =>
    rw [if_neg hdot]
    split at h
    · next hup => rw [if_pos hup]; exact ih h
    next hup =>
    rw [if_neg hup]
    split at h
    · cases h
    next hlong =>
    rw [if_neg hlong]
    split at h
    · next hsome => rw [if_pos hsome]; exact ih h
    next hnone =>
    split at h
    · obtain rfl := Except.ok.inj h
      simp [hm] at hnone
    · cases h

/-- A step from a directory by a name. -/
theorem follow_name {v : Location → Option Node} {m : Location} (hm : v m = some .dir) {s : String}
    (hdot : s ≠ "" ∧ s ≠ "." ∧ s ≠ "..") (hshort : s.utf8ByteSize ≤ maxName) :
    follow v m [s] = .ok (m ++ [s]) := by
  rw [follow, if_neg (not_not.mpr hm), if_neg (by simp [hdot]), if_neg hdot.2.2, if_neg (by omega)]
  split <;> rfl

namespace Slot

variable {d : Disk} {steps l : Location}

theorem ne_nil (h : Slot d steps l) : l ≠ [] := fun e => h.not_dir (e ▸ node?_nil d)

theorem parent (h : Slot d steps l) : d.node? l.dropLast = some .dir := parent_of_locate h.locate h.ne_nil

/-- The last step is a name in the directory that the others lead to. -/
theorem cut (h : Slot d steps l) :
    ∃ base init name, steps = init ++ [name] ∧ l = base ++ [name] ∧ (name ≠ "" ∧ name ≠ "." ∧ name ≠ "..") ∧
      name.utf8ByteSize ≤ maxName ∧ follow d.node? [] init = .ok base ∧ d.node? base = some .dir := by
  have hf := (locate_eq_ok_iff.mp h.locate).2
  have hsteps : steps ≠ [] := by
    rintro rfl
    exact h.ne_nil (Except.ok.inj hf).symm
  obtain ⟨init, name, rfl⟩ : ∃ init name, steps = init ++ [name] :=
    ⟨_, _, (List.dropLast_concat_getLast hsteps).symm⟩
  obtain ⟨base, hinit, hbase, hlast⟩ := follow_append (by simp) hf
  refine ⟨base, init, name, rfl, ?_⟩
  rw [follow, if_neg (not_not.mpr hbase)] at hlast
  split at hlast
  · obtain rfl := Except.ok.inj hlast
    exact absurd hbase h.not_dir
  next hdot =>
  split at hlast
  · -- the directory above one is a directory, or the root
    obtain rfl := Except.ok.inj hlast
    by_cases hb : base = []
    · exact absurd (by simp [hb]) h.not_dir
    · exact absurd (node?_dropLast hb (by simp [hbase])) h.not_dir
  next hup =>
  split at hlast
  · cases hlast
  next hshort =>
  have hl : l = base ++ [name] := by
    split at hlast <;> simpa [follow] using hlast.symm
  simp only [Bool.or_eq_true, decide_eq_true_eq, not_or] at hdot
  exact ⟨hl, ⟨hdot.1, hdot.2, hup⟩, by omega, hinit, hbase⟩

/-- Steps that end in a name are not cut at their end. -/
theorem unslashed_eq (h : Slot d steps l) : unslashed steps = steps ∧ steps.getLast? ≠ some "" := by
  obtain ⟨base, init, name, rfl, -, hname, -⟩ := h.cut
  have hlast : (init ++ [name]).getLast? ≠ some "" := by simpa using hname.1
  exact ⟨by rw [unslashed, if_neg hlast], hlast⟩

/-- A slot stays one while no directory is lost and none is put in its place. -/
theorem mono (h : Slot d steps l) {d' : Disk} (hdirs : ∀ m, d.node? m = some .dir → d'.node? m = some .dir)
    (hl : d'.node? l ≠ some .dir) : Slot d' steps l :=
  ⟨locate_mono hdirs h.locate, hl⟩

theorem reachFile (h : Slot d steps l) : d.reachFile steps = .ok ⟨l, d.tree.at? l⟩ := by
  obtain ⟨hun, hlast⟩ := h.unslashed_eq
  have hnode : (d.tree.at? l).map Tree.node ≠ some .dir := h.not_dir
  rw [Disk.reachFile, hun, reach_of_locate h.locate]
  simp [hlast, hnode]

/-- A file can be written wherever there is a slot. -/
theorem write (h : Slot d steps l) (content : ByteArray) :
    ∃ d' mode, d.write steps content = .ok d' ∧
      d'.node? = update d.node? l (some (.file content mode)) := by
  cases ht : d.tree.at? l with
  | none =>
    refine ⟨_, newMode, ?_, node?_put_file h.ne_nil h.parent h.not_dir content newMode⟩
    rw [Disk.write, h.reachFile, ht]
  | some t =>
    cases t with
    | dir cs => exact absurd (by simp [node?, ht, Tree.node]) h.not_dir
    | file old mode =>
      refine ⟨_, mode, ?_, node?_put_file h.ne_nil h.parent h.not_dir content mode⟩
      rw [Disk.write, h.reachFile, ht]

/-- A file can be made to be there wherever there is a slot. -/
theorem touch (h : Slot d steps l) :
    ∃ d' mode, d.touch steps = .ok d' ∧
      d'.node? = update d.node? l (some (.file ((d.fileAt l).getD ByteArray.empty) mode)) := by
  cases ht : d.tree.at? l with
  | none =>
    have hfile : d.fileAt l = none := fileAt_of_none (by rw [node?, ht]; rfl)
    refine ⟨d.put l (.file ByteArray.empty newMode), newMode, ?_, ?_⟩
    · rw [Disk.touch, h.reachFile, ht]
    · rw [hfile]
      exact node?_put_file h.ne_nil h.parent h.not_dir ByteArray.empty newMode
  | some t =>
    cases t with
    | dir cs => exact absurd (by simp [node?, ht, Tree.node]) h.not_dir
    | file old mode =>
      have hnode : d.node? l = some (.file old mode) := by rw [node?, ht]; rfl
      refine ⟨d, mode, ?_, ?_⟩
      · rw [Disk.touch, h.reachFile, ht]
      · rw [fileAt_of_file hnode, Option.getD_some, ← hnode, Function.update_eq_self]

/-- A file in a slot can be taken away. -/
theorem unlink (h : Slot d steps l) {content : ByteArray} {mode : Nat}
    (hfile : d.node? l = some (.file content mode)) :
    ∃ d', d.unlink steps = .ok d' ∧ d'.node? = update d.node? l none := by
  refine ⟨_, ?_, node?_drop h.ne_nil h.parent h.not_dir⟩
  rw [Disk.unlink, reach_of_locate h.locate]
  cases ht : d.tree.at? l with
  | none => simp [node?, ht] at hfile
  | some t =>
    cases t with
    | dir cs => exact absurd (by simp [node?, ht, Tree.node]) h.not_dir
    | file old mode => rfl

theorem unlink_missing (h : Slot d steps l) (hnone : d.node? l = none) : d.unlink steps = .error .notFound := by
  have htree : d.tree.at? l = none := by simpa [node?] using hnone
  rw [Disk.unlink, reach_of_locate h.locate, htree]

/-- Reading at a slot gives the file, or that there is none. -/
theorem read (h : Slot d steps l) :
    d.read steps = match d.fileAt l with
      | some content => .ok content
      | none => .error .notFound := by
  rw [read_of_locate h.locate, fileAt]
  have hleaf := h.not_dir
  cases hn : d.node? l with
  | none => rfl
  | some n =>
    cases n with
    | file content mode => rfl
    | dir => exact absurd hn hleaf

/-- A slot with a file in it stays one while that file has another content. -/
theorem of_update (h : Slot d steps l) {d' : Disk} {content : ByteArray} {mode : Nat}
    (hd : d'.node? = update d.node? l (some (.file content mode))) : Slot d' steps l := by
  refine h.mono (fun m hm => ?_) (by rw [hd, Function.update_self]; simp)
  have hne : m ≠ l := fun e => h.not_dir (e ▸ hm)
  rw [hd, Function.update_of_ne hne, hm]

/-- Nothing is in a slot without a file. -/
theorem node?_eq_none (h : Slot d steps l) (hfile : d.fileAt l = none) : d.node? l = none := by
  have hleaf := h.not_dir
  rw [fileAt] at hfile
  cases hn : d.node? l with
  | none => rfl
  | some n =>
    cases n with
    | file content mode => rw [hn] at hfile; cases hfile
    | dir => exact absurd hn hleaf

end Slot

/-! ## Making directories -/

/-- Directories may have been made where nothing stood; all else is as it was. -/
def Grown (d d' : Disk) : Prop := ∀ m, d'.node? m = d.node? m ∨ d.node? m = none ∧ d'.node? m = some .dir

theorem Grown.refl (d : Disk) : Grown d d := fun _ => .inl rfl

theorem Grown.trans {d d' d'' : Disk} (h : Grown d d') (h' : Grown d' d'') : Grown d d'' := by
  intro m
  rcases h m with hm | ⟨hm, hm'⟩
  · rw [← hm]
    exact h' m
  · rcases h' m with hk | ⟨hk, -⟩
    · exact .inr ⟨hm, hk.trans hm'⟩
    · rw [hm'] at hk
      cases hk

theorem Grown.dir {d d' : Disk} (h : Grown d d') {m : Location} (hm : d.node? m = some .dir) :
    d'.node? m = some .dir := by
  rcases h m with e | ⟨hnone, -⟩
  · rw [e, hm]
  · rw [hm] at hnone
    cases hnone

theorem Grown.fileAt {d d' : Disk} (h : Grown d d') (m : Location) : d'.fileAt m = d.fileAt m := by
  rcases h m with e | ⟨hnone, hdir⟩
  · exact fileAt_congr e
  · rw [fileAt_of_none hnone, Disk.fileAt, hdir]

/-- A directory is made in a slot where nothing stands. -/
theorem mkdir_ok {d d' : Disk} {steps : Location} (h : d.mkdir steps = .ok d') :
    ∃ l, Slot d (unslashed steps) l ∧ d.node? l = none ∧ d'.node? = update d.node? l (some .dir) := by
  rw [mkdir] at h
  split at h
  · cases h
  · cases h
  next l hreach =>
    obtain rfl := Except.ok.inj h
    have hlocate := locate_of_reach hreach
    have hnone : d.node? l = none := by
      have hspot := hreach.symm.trans (reach_of_locate hlocate)
      simp only [Except.ok.injEq, Spot.mk.injEq, true_and] at hspot
      rw [node?, ← hspot]
      rfl
    have hslot : Slot d (unslashed steps) l := ⟨hlocate, by simp [hnone]⟩
    exact ⟨l, hslot, hnone, node?_put_dir hslot.ne_nil hslot.parent hnone⟩

theorem grown_mkdir {d d' : Disk} {steps : Location} (h : d.mkdir steps = .ok d') : Grown d d' := by
  obtain ⟨l, -, hnone, hview⟩ := mkdir_ok h
  intro m
  rw [hview, Function.update_apply]
  split
  · next hm => exact .inr ⟨hm ▸ hnone, rfl⟩
  · exact .inl rfl

/-- Directories are made for the steps before the last one if they have to be. -/
theorem mkdirs_append (d : Disk) (steps : Location) (s : String) :
    d.mkdirs (steps ++ [s]) =
      if d.isDir (steps ++ [s]) then (.ok (), d)
      else match d.mkdir (steps ++ [s]) with
      | .ok d => (.ok (), d)
      | .error .notFound =>
        match d.mkdirs steps with
        | (.error e, d) => (.error e, d)
        | (.ok (), d) =>
          match d.mkdir (steps ++ [s]) with
          | .ok d => (.ok (), d)
          | .error e => if d.isDir (steps ++ [s]) then (.ok (), d) else (.error e, d)
      | .error e => (.error e, d) := by
  rw [mkdirs, List.reverse_concat, mkdirsBack, ← List.reverse_concat, List.reverse_reverse]
  rfl

/-- What every directory that is made on the way keeps is kept. -/
theorem mkdirs_invariant {R : Disk → Prop} {steps : Location}
    (hstep : ∀ d d' k, k <+: steps → d.mkdir k = .ok d' → R d → R d') {d : Disk} (h : R d) : R (d.mkdirs steps).2 := by
  induction steps using List.reverseRecOn with
  | nil => exact h
  | append_singleton steps s ih =>
    have hrest := ih fun d d' k hk => hstep d d' k (hk.trans (List.prefix_append _ _))
    rw [mkdirs_append]
    split
    · exact h
    split
    · next hmk => exact hstep _ _ _ List.prefix_rfl hmk h
    · cases hmk : d.mkdirs steps with
      | mk r d₁ =>
        rw [hmk] at hrest
        cases r with
        | error e => exact hrest
        | ok =>
          dsimp only
          split
          · next hmk' => exact hstep _ _ _ List.prefix_rfl hmk' hrest
          · split <;> exact hrest
    · exact h

theorem grown_mkdirs (d : Disk) (steps : Location) : Grown d (d.mkdirs steps).2 :=
  mkdirs_invariant (fun _ _ _ _ hmk h => h.trans (grown_mkdir hmk)) (.refl d)

theorem isDir_of_locate {d : Disk} {steps l : Location} (h : d.locate steps = .ok l)
    (hl : d.node? l = some .dir) : d.isDir steps = true := by
  simp [isDir, find_of_locate h, hl]

theorem mkdirs_of_isDir {d : Disk} {steps : Location} (h : d.isDir steps = true) : d.mkdirs steps = (.ok (), d) := by
  cases steps using List.reverseRecOn with
  | nil => rfl
  | append_singleton init s _ => rw [mkdirs_append, if_pos h]

/-- Below a directory that is there at most one directory is made for a name. -/
theorem mkdirs_concat {d : Disk} {steps l : Location} (h : d.locate steps = .ok l) (hl : d.node? l = some .dir)
    {name : String} (hname : name ≠ "" ∧ name ≠ "." ∧ name ≠ "..") :
    (d.mkdirs (steps ++ [name])).2.node? = d.node? ∨
      d.node? (l ++ [name]) = none ∧
        (d.mkdirs (steps ++ [name])).2.node? = update d.node? (l ++ [name]) (some .dir) := by
  have hun : unslashed (steps ++ [name]) = steps ++ [name] := by simp [unslashed, hname.1]
  rw [mkdirs_append]
  split
  · exact .inl rfl
  split
  · next d' hmk =>
    obtain ⟨k, hslot, hnone, hview⟩ := mkdir_ok hmk
    rw [hun] at hslot
    have hk : k = l ++ [name] := by
      rw [locate_eq_resolve hslot.locate, resolve_append, ← locate_eq_resolve h, resolve_names (by simpa using hname)]
    exact .inr ⟨hk ▸ hnone, hk ▸ hview⟩
  · next hmk =>
    rw [mkdirs_of_isDir (isDir_of_locate h hl)]
    simp only [hmk]
    split <;> exact .inl rfl
  · exact .inl rfl

/-- Names that lead somewhere after directories were made led there before, or to nothing. -/
theorem follow_of_grown {d d' : Disk} (h : Grown d d') {at_ names l : Location} (hat : d.node? at_ = some .dir)
    (hnames : ∀ s ∈ names, s ≠ "" ∧ s ≠ "." ∧ s ≠ "..") (hf : follow d'.node? at_ names = .ok l) :
    follow d.node? at_ names = .ok l ∨ follow d.node? at_ names = .error .notFound ∧ d.node? l = none := by
  induction names generalizing at_ with
  | nil => exact .inl hf
  | cons s rest ih =>
    have hs := hnames s (by simp)
    have hdot : ¬ (decide (s = "") || decide (s = ".")) = true := by simp [hs]
    rw [follow, if_neg (not_not.mpr (h.dir hat)), if_neg hdot, if_neg hs.2.2] at hf
    rw [follow, if_neg (not_not.mpr hat), if_neg hdot, if_neg hs.2.2]
    split at hf
    · cases hf
    next hlong =>
    rw [if_neg hlong]
    cases hn : d.node? (at_ ++ [s]) with
    | none =>
      by_cases hrest : rest = []
      · subst hrest
        left
        split at hf <;> simpa [follow] using hf
      · right
        rw [if_neg (by simp), if_neg (by simp [hrest])]
        refine ⟨rfl, ?_⟩
        simp only [List.isEmpty_iff, hrest, if_false] at hf
        split at hf
        · rw [eq_resolve_of_follow hf, resolve_names fun t ht => hnames t (by simp [ht])]
          exact node?_append_of_not_dir (by simp [hn]) hrest
        · cases hf
    | some n =>
      have hn' : d'.node? (at_ ++ [s]) = some n := by
        rcases h (at_ ++ [s]) with e | ⟨hnone, -⟩
        · rw [e, hn]
        · rw [hn] at hnone
          cases hnone
      rw [hn', if_pos (by rfl)] at hf
      rw [if_pos (by rfl)]
      cases n with
      | dir => exact ih hn (fun t ht => hnames t (by simp [ht])) hf
      | file content mode =>
        cases rest with
        | nil => exact .inl hf
        | cons t rest =>
          rw [follow, if_pos (by simp [hn'])] at hf
          cases hf

end Mend.Fs.Disk
