import Mend.Proofs.Fs.Beside
import Mend.Proofs.Fs.Listing
import Mend.Proofs.Ledger.Planning
import Mend.Proofs.Ledger.StateFiles

/-!
# Restoring on two disks that differ in a directory

An action `Agrees` on two such disks if it gives the same result on both and they still differ in the directory
only, which it left alone. Restoring a snapshot does (`agrees_restore`): its files lead aside from the directory, so
that the same plans are made, and each plan finds its file where the plan was made for it.
-/

namespace Mend.Fs.Disk

/-- The directories of a disk are as they were, and so are the directory that the steps lead to, what is in it, and what
stands on the way to it. -/
structure Kept (steps : Location) (d d' : Disk) : Prop where
  dirs : ∀ m, d'.node? m = some .dir ↔ d.node? m = some .dir
  way : ∀ m, Way steps m → d'.node? m = d.node? m
  inside : ∀ m, resolve [] steps <+: m → d'.node? m = d.node? m
  distinct : Distinct (resolve [] steps) d → Distinct (resolve [] steps) d'

theorem Kept.refl (steps : Location) (d : Disk) : Kept steps d d := ⟨fun _ => .rfl, fun _ _ => rfl, fun _ _ => rfl, id⟩

theorem Kept.trans {steps : Location} {d d' d'' : Disk} (h : Kept steps d d') (h' : Kept steps d' d'') :
    Kept steps d d'' where
  dirs m := (h'.dirs m).trans (h.dirs m)
  way m hm := (h'.way m hm).trans (h.way m hm)
  inside m hm := (h'.inside m hm).trans (h.inside m hm)
  distinct hd := h'.distinct (h.distinct hd)

theorem Kept.slot {steps path l : Location} {d d' : Disk} (h : Kept steps d d') (hslot : Slot d path l) :
    Slot d' path l :=
  hslot.mono (fun m => (h.dirs m).mpr) fun hl => hslot.not_dir ((h.dirs l).mp hl)

theorem Kept.aside {steps at_ names : Location} {d d' : Disk} (h : Kept steps d d') (haside : Aside steps d at_ names) :
    Aside steps d' at_ names where
  outside := haside.outside
  off := haside.off
  short a s b hnames hway hnone := haside.short a s b hnames hway (by rwa [← h.way _ hway])

theorem Kept.isDir {steps path : Location} {d d' : Disk} (h : Kept steps d d') (hdir : d.isDir path = true) :
    d'.isDir path = true := by
  have hfind : d.find path = .ok .dir := by
    rw [Disk.isDir] at hdir
    split at hdir
    · next hfind => exact hfind
    · cases hdir
  obtain ⟨l, hlocate, hnode⟩ := locate_of_find hfind
  exact isDir_of_locate (locate_mono (fun m => (h.dirs m).mpr) hlocate) ((h.dirs l).mpr hnode)

/-- Nothing but a file came or went at a location aside. -/
theorem kept_of_update {steps l : Location} {d d' : Disk} {n : Option Node} (hout : ¬ resolve [] steps <+: l)
    (hoff : ¬ Way steps l) (hleaf : d.node? l ≠ some .dir) (hn : n ≠ some .dir)
    (hview : d'.node? = Function.update d.node? l n)
    (hdistinct : Distinct (resolve [] steps) d → Distinct (resolve [] steps) d') : Kept steps d d' where
  dirs m := by
    rw [hview, Function.update_apply]
    split
    · next hm =>
      subst hm
      exact ⟨fun h => absurd h hn, fun h => absurd h hleaf⟩
    · rfl
  way m hm := by
    rw [hview, Function.update_of_ne]
    rintro rfl
    exact hoff hm
  inside m hm := by
    rw [hview, Function.update_of_ne]
    rintro rfl
    exact hout hm
  distinct := hdistinct

end Mend.Fs.Disk

namespace Mend.Ledger

open Fs Fs.Disk

/-! ## Agreement -/

/-- The action gives one result on both disks, which still differ in the directory only. -/
def Agrees {ε α : Type} (steps : Location) (act : DiskAction ε α) (d e : Disk) : Prop :=
  ∃ r d' e', act.exec d = (r, d') ∧ act.exec e = (r, e') ∧ Beside steps d' e' ∧ Kept steps d d' ∧ Kept steps e e'

section

variable {ε α β : Type} {steps : Location} {act : DiskAction ε α} {d e : Disk}

theorem agrees_pure (h : Beside steps d e) (a : α) : Agrees steps (pure a : DiskAction ε α) d e :=
  ⟨_, d, e, rfl, rfl, h, .refl steps d, .refl steps e⟩

theorem agrees_query {f : Disk → Except ε α} (h : Beside steps d e) (hf : f e = f d) :
    Agrees steps (Action.query f) d e :=
  ⟨f d, d, e, rfl, by rw [Action.exec_query, hf], h, .refl steps d, .refl steps e⟩

/-- One action after the other agrees if the second does wherever the first leads. -/
theorem Agrees.bind {f : α → DiskAction ε β} (h : Agrees steps act d e)
    (hf : ∀ a d' e', act.exec d = (.ok a, d') → Beside steps d' e' → Kept steps d d' → Kept steps e e' →
      Agrees steps (f a) d' e') : Agrees steps (act >>= f) d e := by
  obtain ⟨r, d₁, e₁, hd, he, hbeside, hkept, hkept'⟩ := h
  cases r with
  | error err =>
    exact ⟨.error err, d₁, e₁, Action.exec_bind_error hd f, Action.exec_bind_error he f, hbeside, hkept, hkept'⟩
  | ok a =>
    obtain ⟨r, d₂, e₂, hd₂, he₂, hbeside₂, hkept₂, hkept₂'⟩ := hf a d₁ e₁ hd hbeside hkept hkept'
    exact ⟨r, d₂, e₂, (Action.exec_bind_ok hd f).trans hd₂, (Action.exec_bind_ok he f).trans he₂, hbeside₂,
      hkept.trans hkept₂, hkept'.trans hkept₂'⟩

theorem Agrees.mapM {f : β → DiskAction ε α} {xs : List β} (h : Beside steps d e)
    (hf : ∀ x ∈ xs, ∀ d' e', Beside steps d' e' → Kept steps d d' → Kept steps e e' → Agrees steps (f x) d' e') :
    Agrees steps (xs.mapM f) d e := by
  induction xs generalizing d e with
  | nil => exact agrees_pure h []
  | cons x xs ih =>
    rw [List.mapM_cons]
    refine (hf x (by simp) d e h (.refl steps d) (.refl steps e)).bind fun a d₁ e₁ _ h₁ hd₁ he₁ => ?_
    have hrest : Agrees steps (xs.mapM f) d₁ e₁ :=
      ih h₁ fun y hy d' e' h' hd' he' => hf y (by simp [hy]) d' e' h' (hd₁.trans hd') (he₁.trans he')
    exact hrest.bind fun as d₂ e₂ _ h₂ _ _ => agrees_pure h₂ (a :: as)

end

/-! ## Writing a file -/

section

variable {p : Place} {content : ByteArray} {d d' : Disk} {r : Except Ledger.Error Unit}

theorem distinct_settle {D m : Location} (h : Distinct D d) (hslot : Slot d (temporary p).location m)
    (hfile : (d.fileAt m).isSome) (hrun : (settle p).exec d = (r, d')) : Distinct D d' := by
  rw [settle, Action.exec_ofFun] at hrun
  cases hrename : d.rename (temporary p).location p.location with
  | ok d₁ =>
    simp only [hrename] at hrun
    obtain ⟨-, rfl⟩ := Prod.mk.inj hrun
    exact h.rename hslot.locate hfile hrename
  | error e =>
    simp only [hrename] at hrun
    obtain ⟨-, rfl⟩ := Prod.mk.inj hrun
    cases hunlink : d.unlink (temporary p).location with
    | ok d₁ => exact h.unlink hunlink
    | error e => exact h

theorem distinct_replace {D : Location} {mode : Option Nat} (h : Distinct D d)
    (hrun : (replace p content mode).exec d = (r, d')) : Distinct D d' := by
  rw [replace, Action.exec_bind, ← writeTemporary] at hrun
  cases hwrite : (writeTemporary p content).exec d with
  | mk r₁ d₁ =>
  have h₁ : Distinct D d₁ := by
    rw [writeTemporary, Action.exec_update] at hwrite
    cases hw : d.write (temporary p).location content with
    | error e =>
      simp only [hw, at_] at hwrite
      exact (Prod.mk.inj hwrite).2 ▸ h
    | ok d₁' =>
      simp only [hw, at_] at hwrite
      exact (Prod.mk.inj hwrite).2 ▸ h.write hw
  rw [hwrite] at hrun
  rcases writeTemporary_cases hwrite with ⟨e, rfl, rfl⟩ | ⟨m, old, rfl, htemporary, hview⟩
  · exact (Prod.mk.inj hrun).2 ▸ h
  dsimp only at hrun
  rw [Action.exec_bind] at hrun
  cases hgrant : (grant (temporary p) mode).exec d₁ with
  | mk r₂ d₂ =>
  have h₂ : Distinct D d₂ := by
    cases mode with
    | none => exact (Prod.mk.inj hgrant).2 ▸ h₁
    | some mode' =>
      rw [grant, Action.exec_update] at hgrant
      cases hc : d₁.chmod (temporary p).location mode' with
      | error e =>
        simp only [hc, at_] at hgrant
        exact (Prod.mk.inj hgrant).2 ▸ h₁
      | ok d₂' =>
        simp only [hc, at_] at hgrant
        exact (Prod.mk.inj hgrant).2 ▸ h₁.chmod hc
  have hslot₁ := htemporary.of_update hview
  obtain ⟨mode₂, hview₂⟩ := grant_cases hslot₁ (by rw [hview, Function.update_self]) hgrant
  rw [hgrant] at hrun
  cases r₂ with
  | error e => exact (Prod.mk.inj hrun).2 ▸ h₂
  | ok =>
    have hfile : d₂.fileAt m = some content := fileAt_of_file (by rw [hview₂, Function.update_self])
    exact distinct_settle h₂ (hslot₁.of_update hview₂) (by simp [hfile]) hrun

/-- A write lists no name twice, wherever it is. -/
theorem distinct_atomicWrite {D : Location} (h : Distinct D d)
    (hrun : (atomicWrite p content).exec d = (r, d')) : Distinct D d' := by
  rcases atomicWrite_parts hrun with ⟨-, rfl⟩ | ⟨d₁, mode, hmake, hreplace⟩
  · exact h.mkdirs _
  · rw [disk_makeParent hmake] at hreplace
    exact distinct_replace (h.mkdirs _) hreplace

end

section

variable {steps : Location} {p : Place} {l : Location} {d e : Disk}

/-- A temporary file is not in a directory that the file is not in. -/
theorem not_prefix_temporaryAt (hout : ¬ resolve [] steps <+: l)
    (hside : ¬ Way steps (temporaryAt l)) : ¬ resolve [] steps <+: temporaryAt l := by
  intro hp
  rw [temporaryAt, List.prefix_concat_iff] at hp
  rcases hp with heq | hp
  · exact hside ⟨steps, List.prefix_rfl, heq.symm⟩
  · exact hout (hp.trans (List.dropLast_prefix l))

/-- A write aside from the directory does the same on both disks. -/
theorem agrees_atomicWrite (h : Beside steps d e) (hslot : Slot d p.location l) (hout : ¬ resolve [] steps <+: l)
    (hoff : ¬ Way steps l) (hside : ¬ Way steps (temporaryAt l)) (content : ByteArray) :
    Agrees steps (atomicWrite p content) d e := by
  have hl : e.node? l = d.node? l := h.same hout hoff
  have hout' := not_prefix_temporaryAt hout hside
  have ht : e.node? (temporaryAt l) = d.node? (temporaryAt l) := h.same hout' hside
  have hslot' : Slot e p.location l := hslot.mono (fun _ => h.dir) (by rw [hl]; exact hslot.not_dir)
  cases hobstacle : obstacle p (d.node? (temporaryAt l)) with
  | some err =>
    exact ⟨_, d, e, exec_atomicWrite_hindered hslot hobstacle content,
      exec_atomicWrite_hindered hslot' (by rw [ht, hobstacle]) content, h, .refl steps d, .refl steps e⟩
  | none =>
    obtain ⟨d', hd, hview⟩ := exec_atomicWrite_free hslot hobstacle content
    obtain ⟨e', he, hview'⟩ := exec_atomicWrite_free hslot' (by rw [ht, hobstacle]) content
    rw [hl, ht] at hview'
    have hleaf : d.node? (temporaryAt l) ≠ some .dir := (obstacle_eq_none_iff.mp hobstacle).2
    -- the temporary file is taken away, and then the file is put in its place
    have hkept (v v' : Disk) (hv : v.node? l = d.node? l) (hvt : v.node? (temporaryAt l) = d.node? (temporaryAt l))
        (hs : Slot v p.location l) (hrun : (atomicWrite p content).exec v = (.ok (), v'))
        (hview : v'.node? = Function.update (Function.update v.node? (temporaryAt l) none) l
          (some (.file content (modeOr (d.node? l) (modeOr (d.node? (temporaryAt l)) newMode))))) :
        Kept steps v v' := by
      refine ⟨fun m => ?_, fun m hm => ?_, fun m hm => ?_, fun hD => distinct_atomicWrite hD hrun⟩
      · rw [hview, Function.update_apply]
        split
        · next hm =>
          subst hm
          exact ⟨nofun, fun hdir => absurd hdir hs.not_dir⟩
        rw [Function.update_apply]
        split
        · next hm =>
          subst hm
          exact ⟨nofun, fun hdir => absurd (hvt ▸ hdir) hleaf⟩
        · rfl
      · rw [hview, Function.update_of_ne, Function.update_of_ne]
        · rintro rfl
          exact hside hm
        · rintro rfl
          exact hoff hm
      · rw [hview, Function.update_of_ne, Function.update_of_ne]
        · rintro rfl
          exact hout' hm
        · rintro rfl
          exact hout hm
    refine ⟨_, d', e', hd, he, ⟨?_, fun m hm => ?_⟩, hkept d d' rfl rfl hslot hd hview,
      hkept e e' hl ht hslot' he hview'⟩
    · rw [(hkept d d' rfl rfl hslot hd hview).inside _ List.prefix_rfl, h.absent]
    · rw [hview, hview']
      by_cases hml : m = l
      · exact .inl (by rw [hml, Function.update_self, Function.update_self])
      rw [Function.update_of_ne hml, Function.update_of_ne hml]
      by_cases hmt : m = temporaryAt l
      · exact .inl (by rw [hmt, Function.update_self, Function.update_self])
      · rw [Function.update_of_ne hmt, Function.update_of_ne hmt]
        exact h.alike m hm

end

end Mend.Ledger

namespace Mend.Snapshot

open Fs Fs.Disk Ledger

/-! ## The files of a snapshot -/

/-- A path of the workspace that leads aside from a directory, as the path of its temporary file does. -/
structure Clear (dir root : Place) (d : Disk) (p : RelPath) : Prop where
  proper : p.Proper
  aside : Aside dir.location d (resolve [] root.location) p.segments
  sibling : ¬ Way dir.location (temporaryAt (p.below root))

section

variable {dir root : Place} {d e : Disk} {p : RelPath}

theorem locate_of_isDir {d : Disk} {steps : Location} (h : d.isDir steps = true) :
    d.locate steps = .ok (resolve [] steps) ∧ d.node? (resolve [] steps) = some .dir := by
  rw [isDir] at h
  split at h
  · next hfind =>
    obtain ⟨l, hlocate, hnode⟩ := locate_of_find hfind
    obtain rfl := locate_eq_resolve hlocate
    exact ⟨hlocate, hnode⟩
  · cases h

/-- What a file of the workspace holds is the same on both disks. -/
theorem current_beside (h : Beside dir.location d e) (hroot : d.isDir root.location = true)
    (hp : Clear dir root d p) : current root p e = current root p d := by
  obtain ⟨hlocate, hdir⟩ := locate_of_isDir hroot
  have hread : e.read (root.file p).location = d.read (root.file p).location := by
    rw [Disk.read, Disk.read, Place.file, h.find hlocate hdir hp.proper.name hp.aside]
  rw [current, current, hread]

theorem planAll_beside (h : Beside dir.location d e) (hroot : d.isDir root.location = true) (id : CycleId)
    {es : List Entry} (hes : ∀ x ∈ es, Clear dir root d x.path) : planAll root id e es = planAll root id d es := by
  induction es with
  | nil => rfl
  | cons x es ih =>
    rw [planAll, planAll, current_beside h hroot (hes x (by simp)), ih fun y hy => hes y (by simp [hy])]

/-- Carrying out a plan does the same on both disks. -/
theorem agrees_carryOut (h : Beside dir.location d e) {x : Entry} {plan : Plan} (hx : Clear dir root d x.path)
    (hslot : plan.Active → Slot d (root.file x.path).location (x.path.below root)) :
    Agrees dir.location (carryOut root x plan) d e := by
  have hout : ¬ resolve [] dir.location <+: x.path.below root := hx.aside.outside
  have hoff : ¬ Way dir.location (x.path.below root) := hx.aside.off
  cases plan with
  | skip => exact agrees_pure h _
  | leave found => exact agrees_pure h _
  | write content =>
    refine (agrees_atomicWrite h (hslot trivial) hout hoff hx.sibling content.toUTF8).bind ?_
    exact fun _ d' e' _ h' _ _ => agrees_pure h' _
  | remove =>
    have hd := hslot trivial
    have hl := h.same hout hoff
    have he : Slot e (root.file x.path).location (x.path.below root) :=
      hd.mono (fun _ => h.dir) (by rw [hl]; exact hd.not_dir)
    rw [carryOut]
    refine Agrees.bind ?_ fun _ d' e' _ h' _ _ => agrees_pure h' _
    cases hnode : d.node? (x.path.below root) with
    | none =>
      refine ⟨.ok (), d, e, ?_, ?_, h, .refl _ d, .refl _ e⟩
      · rw [Action.exec_update, hd.unlink_missing hnode]
      · rw [Action.exec_update, he.unlink_missing (hl.trans hnode)]
    | some n =>
      cases n with
      | dir => exact absurd hnode hd.not_dir
      | file content mode =>
        obtain ⟨d', hunlink, hview⟩ := hd.unlink hnode
        obtain ⟨e', hunlink', hview'⟩ := he.unlink (hl.trans hnode)
        refine ⟨.ok (), d', e', ?_, ?_, h.update hout hoff hview hview', ?_, ?_⟩
        · rw [Action.exec_update, hunlink]
        · rw [Action.exec_update, hunlink']
        · exact kept_of_update hout hoff hd.not_dir (by simp) hview fun hD => hD.unlink hunlink
        · exact kept_of_update hout hoff he.not_dir (by simp) hview' fun hD => hD.unlink hunlink'

/-- Restoring a snapshot does the same on both disks. -/
theorem agrees_restore (h : Beside dir.location d e) (hroot : d.isDir root.location = true) {s : Snapshot}
    (hs : ∀ x ∈ s.files, Clear dir root d x.path) : Agrees dir.location (s.restore root) d e := by
  refine (agrees_query h rfl).bind fun _ d₁ e₁ hrun h₁ _ _ => ?_
  obtain rfl : d = d₁ := (Prod.mk.inj hrun).2
  have hplans := planAll_beside h₁ hroot s.cycle hs
  refine (agrees_query h₁ hplans).bind fun plans d₂ e₂ hrun h₂ _ _ => ?_
  obtain ⟨hall, rfl⟩ := Prod.mk.inj hrun
  obtain ⟨hfst, hplanned⟩ := planAll_ok hall
  have hcarried : Agrees dir.location (plans.mapM fun p : Entry × Plan => do
      return (p.1.path, ← carryOut root p.1 p.2) : DiskAction Ledger.Error (List (RelPath × FileRestore))) d e₂ := by
    refine Agrees.mapM h₂ fun x hx d' e' h' hd _ => ?_
    have hclear := hs x.1 (hfst ▸ List.mem_map_of_mem hx)
    have hactive (hchange : x.2.Active) := ((hplanned x hx).file hclear.proper hchange).1
    have hclear' : Clear dir root d' x.1.path := ⟨hclear.proper, hd.aside hclear.aside, hclear.sibling⟩
    refine (agrees_carryOut h' hclear' fun hchange => hd.slot (hactive hchange)).bind ?_
    exact fun _ d'' e'' _ h'' _ _ => agrees_pure h'' _
  exact hcarried.bind fun _ d₃ e₃ _ h₃ _ _ => agrees_pure h₃ _

end

end Mend.Snapshot
