import Mathlib.Data.List.Infix
import Mend.Proofs.Fs.Change

/-!
# Two disks that differ in a directory

One disk has a directory that the other has not. What is in it is of no account, and neither are the directories on
the way to it that had to be made for it; everything else is the same. A path that leads neither into the directory
nor to one on the way finds the same on both disks (`Beside.find`), if names that the system does not take are not
looked up in directories that only one disk has.
-/

namespace Mend.Fs.Disk

open Function (update)

/-- A location that the steps lead through. -/
def Way (steps m : Location) : Prop := ∃ a, a <+: steps ∧ m = resolve [] a

theorem way_iff {steps m : Location} : Way steps m ↔ m ∈ steps.inits.map (resolve []) := by
  simp [Way, List.mem_inits, eq_comm]

instance : DecidableRel Way := fun _ _ => decidable_of_iff _ way_iff.symm

/-- The second disk has a directory more than the first, and directories on the way to it. -/
structure Beside (steps : Location) (d e : Disk) : Prop where
  absent : d.node? (resolve [] steps) = none
  alike : ∀ m, ¬ resolve [] steps <+: m →
    e.node? m = d.node? m ∨ Way steps m ∧ d.node? m = none ∧ e.node? m = some .dir

/-- Names that lead aside from the directory and from the way to it. What is looked up in a directory on the way that
is not there is a name that the system takes. -/
structure Aside (steps : Location) (d : Disk) (at_ names : Location) : Prop where
  outside : ¬ resolve [] steps <+: at_ ++ names
  off : ¬ Way steps (at_ ++ names)
  short : ∀ a s b, names = a ++ s :: b → Way steps (at_ ++ a) → d.node? (at_ ++ a) = none → s.utf8ByteSize ≤ maxName

namespace Aside

variable {steps at_ rest : Location} {d : Disk} {s : String}

theorem next (h : Aside steps d at_ (s :: rest)) : Aside steps d (at_ ++ [s]) rest where
  outside := by
    rw [List.append_assoc]
    exact h.outside
  off := by
    rw [List.append_assoc]
    exact h.off
  short a t b hrest hway hnone := by
    refine h.short (s :: a) t b (by rw [hrest]; rfl) ?_ ?_
    · rwa [List.append_assoc] at hway
    · rwa [List.append_assoc] at hnone

/-- Short names can be looked up in any directory. -/
theorem of_short (houtside : ¬ resolve [] steps <+: at_ ++ rest) (hoff : ¬ Way steps (at_ ++ rest))
    (hshort : ∀ s ∈ rest, s.utf8ByteSize ≤ maxName) : Aside steps d at_ rest :=
  ⟨houtside, hoff, fun a s b hrest _ _ => hshort s (by simp [hrest])⟩

/-- The walk does not enter the directory. -/
theorem not_prefix (h : Aside steps d at_ rest) : ¬ resolve [] steps <+: at_ :=
  fun hp => h.outside (hp.trans (List.prefix_append _ _))

end Aside

/-- A step down from a directory. -/
theorem follow_cons {v : Location → Option Node} {at_ : Location} (hat : v at_ = some .dir) {s : String}
    (hs : s ≠ "" ∧ s ≠ "." ∧ s ≠ "..") (rest : Location) :
    follow v at_ (s :: rest) =
      if maxName < s.utf8ByteSize then .error .nameTooLong
      else if (v (at_ ++ [s])).isSome then follow v (at_ ++ [s]) rest
      else if rest.isEmpty then .ok (at_ ++ [s])
      else .error .notFound := by
  rw [follow, if_neg (not_not.mpr hat), if_neg (by simp [hs]), if_neg hs.2.2]

namespace Beside

variable {steps at_ names m l : Location} {d e : Disk}

theorem none_below (h : Beside steps d e) (hm : resolve [] steps <+: m) : d.node? m = none := by
  obtain ⟨k, rfl⟩ := hm
  by_cases hk : k = []
  · rw [hk, List.append_nil, h.absent]
  · exact node?_append_of_not_dir (by rw [h.absent]; simp) hk

theorem dir (h : Beside steps d e) (hm : d.node? m = some .dir) : e.node? m = some .dir := by
  have hout : ¬ resolve [] steps <+: m := fun hp => by simp [h.none_below hp] at hm
  rcases h.alike m hout with hsame | ⟨-, hnone, -⟩
  · rw [hsame, hm]
  · rw [hm] at hnone
    cases hnone

theorem same (h : Beside steps d e) (hout : ¬ resolve [] steps <+: m) (hoff : ¬ Way steps m) :
    e.node? m = d.node? m :=
  (h.alike m hout).resolve_right fun hway => hoff hway.1

/-- In a directory that only the second disk has, the names lead to nothing. -/
theorem follow_made (h : Beside steps d e) (hat : d.node? at_ = none) (hdir : e.node? at_ = some .dir)
    (hne : names ≠ []) (hnames : ∀ s ∈ names, s ≠ "" ∧ s ≠ "." ∧ s ≠ "..") (haside : Aside steps d at_ names) :
    follow e.node? at_ names = .error .notFound ∨
      follow e.node? at_ names = .ok (at_ ++ names) ∧ e.node? (at_ ++ names) = none := by
  induction names generalizing at_ with
  | nil => exact absurd rfl hne
  | cons s rest ih =>
    have hs := hnames s (by simp)
    have hway : Way steps at_ := by
      rcases h.alike at_ haside.not_prefix with hsame | hway
      · rw [hdir, hat] at hsame
        cases hsame
      · exact hway.1
    have hshort : s.utf8ByteSize ≤ maxName :=
      haside.short [] s rest rfl (by rwa [List.append_nil]) (by rwa [List.append_nil])
    have hnone : d.node? (at_ ++ [s]) = none := node?_append_of_not_dir (by simp [hat]) (by simp)
    rw [follow_cons hdir hs, if_neg (Nat.not_lt.mpr hshort)]
    rcases h.alike (at_ ++ [s]) haside.next.not_prefix with hsame | ⟨hway', -, hdir'⟩
    · rw [hsame, hnone, if_neg (by simp)]
      cases rest with
      | nil => exact .inr ⟨rfl, by rw [hsame, hnone]⟩
      | cons t rest => exact .inl rfl
    · rw [hdir', if_pos (by rfl)]
      have hrest : rest ≠ [] := by
        rintro rfl
        exact haside.off hway'
      have hfollow := ih hnone hdir' hrest (fun t ht => hnames t (by simp [ht])) haside.next
      rwa [List.append_assoc] at hfollow

/-- Names that lead aside lead to the same on both disks, or to nothing. -/
theorem follow_aside (h : Beside steps d e) (hat : d.node? at_ = some .dir)
    (hnames : ∀ s ∈ names, s ≠ "" ∧ s ≠ "." ∧ s ≠ "..") (haside : Aside steps d at_ names) :
    follow e.node? at_ names = follow d.node? at_ names ∨
      follow d.node? at_ names = .error .notFound ∧ (follow e.node? at_ names = .error .notFound ∨
        follow e.node? at_ names = .ok (at_ ++ names) ∧ e.node? (at_ ++ names) = none) := by
  induction names generalizing at_ with
  | nil => exact .inl rfl
  | cons s rest ih =>
    have hs := hnames s (by simp)
    have hrest : ∀ t ∈ rest, t ≠ "" ∧ t ≠ "." ∧ t ≠ ".." := fun t ht => hnames t (by simp [ht])
    rw [follow_cons hat hs, follow_cons (h.dir hat) hs]
    by_cases hlong : maxName < s.utf8ByteSize
    · rw [if_pos hlong, if_pos hlong]
      exact .inl rfl
    rw [if_neg hlong, if_neg hlong]
    rcases h.alike (at_ ++ [s]) haside.next.not_prefix with hsame | ⟨hway, hnone, hdir⟩
    · rw [hsame]
      cases hnode : d.node? (at_ ++ [s]) with
      | none => exact .inl rfl
      | some n =>
        rw [if_pos (by rfl)]
        cases n with
        | dir =>
          have hfollow := ih hnode hrest haside.next
          rw [List.append_assoc] at hfollow
          exact hfollow
        | file content mode =>
          left
          cases rest with
          | nil => rfl
          | cons t rest =>
            have hd : d.node? (at_ ++ [s]) ≠ some .dir := by simp [hnode]
            have he : e.node? (at_ ++ [s]) ≠ some .dir := by rwa [hsame]
            rw [if_pos (by rfl), follow, follow, if_pos hd, if_pos he]
    · have hne : rest ≠ [] := by
        rintro rfl
        exact haside.off hway
      have hmade := h.follow_made hnone hdir hne hrest haside.next
      rw [List.append_assoc] at hmade
      simp only [hnone, hdir, Option.isSome_some, Option.isSome_none, Bool.false_eq_true, if_true, if_false,
        List.isEmpty_iff, hne]
      exact .inr ⟨trivial, hmade⟩

/-- A path that leads aside finds the same on both disks. -/
theorem find (h : Beside steps d e) {base : Location} (hbase : d.locate base = .ok at_) (hat : d.node? at_ = some .dir)
    (hnames : ∀ s ∈ names, s ≠ "" ∧ s ≠ "." ∧ s ≠ "..") (haside : Aside steps d at_ names) :
    e.find (base ++ names) = d.find (base ++ names) := by
  by_cases hpath : Acceptable (base ++ names)
  · have hd := (locate_eq_ok_iff.mp hbase).2
    have he : follow e.node? [] base = .ok at_ := follow_mono (fun _ => h.dir) hd
    have hnode : e.node? (at_ ++ names) = d.node? (at_ ++ names) := h.same haside.outside haside.off
    have hplace {v : Disk} {l : Location} (hv : follow v.node? [] (base ++ names) = .ok l) :
        v.locate (base ++ names) = .ok l := locate_eq_ok_iff.mpr ⟨hpath, hv⟩
    have hlost (v : Disk) (err : Error) (hv : follow v.node? [] (base ++ names) = .error err) :
        v.find (base ++ names) = .error err := by
      rw [Disk.find, reach_eq v hpath, hv]
      rfl
    have hd' := follow_append_of_dir hd hat names
    have he' := follow_append_of_dir he (h.dir hat) names
    rcases h.follow_aside hat hnames haside with hsame | ⟨hmissing, hother | ⟨hother, hnone⟩⟩
    · cases hfollow : follow d.node? at_ names with
      | error err =>
        rw [hsame, hfollow] at he'
        rw [hfollow] at hd'
        rw [hlost e err he', hlost d err hd']
      | ok l =>
        have hl : l = at_ ++ names := by rw [eq_resolve_of_follow hfollow, resolve_names hnames]
        rw [hsame, hfollow] at he'
        rw [hfollow] at hd'
        rw [find_of_locate (hplace he'), find_of_locate (hplace hd'), hl, hnode]
    · rw [hlost e _ (he'.trans hother), hlost d _ (hd'.trans hmissing)]
    · rw [find_of_locate (hplace (he'.trans hother)), hnone, hlost d _ (hd'.trans hmissing)]
  · have hreach (v : Disk) : v.find (base ++ names) =
        if (base ++ names).any fun s => s.toList.contains '\x00' then .error .nulInName else .error .nameTooLong := by
      rw [Disk.find, reach]
      by_cases hnul : ((base ++ names).any fun s => s.toList.contains '\x00') = true
      · rw [if_pos hnul, if_pos hnul]
      · have hlong : maxPath ≤ pathLength (base ++ names) := by
          by_contra hshort
          exact hpath ⟨Bool.eq_false_iff.mpr hnul, by omega⟩
        rw [if_neg hnul, if_neg hnul, if_pos hlong]
    rw [hreach e, hreach d]

/-- What stands at a location aside can be changed in the same way on both disks. -/
theorem update (h : Beside steps d e) {d' e' : Disk} {n : Option Node} (hout : ¬ resolve [] steps <+: l)
    (hoff : ¬ Way steps l) (hd : d'.node? = update d.node? l n) (he : e'.node? = update e.node? l n) :
    Beside steps d' e' where
  absent := by
    rw [hd, Function.update_of_ne, h.absent]
    rintro rfl
    exact hout List.prefix_rfl
  alike m hm := by
    rw [hd, he]
    by_cases hml : m = l
    · subst hml
      exact .inl (by rw [Function.update_self, Function.update_self])
    · rw [Function.update_of_ne hml, Function.update_of_ne hml]
      exact h.alike m hm

/-- What is in the directory does not count. -/
theorem change_inside (h : Beside steps d e) {e' : Disk} (he : ∀ m, ¬ resolve [] steps <+: m → e'.node? m = e.node? m) :
    Beside steps d e' where
  absent := h.absent
  alike m hm := by
    rw [he m hm]
    exact h.alike m hm

end Beside

/-! ## Making the directory -/

theorem Way.mono {a steps m : Location} (h : Way a m) (ha : a <+: steps) : Way steps m := by
  obtain ⟨b, hb, rfl⟩ := h
  exact ⟨b, hb.trans ha, rfl⟩

theorem unslashed_prefix_self (steps : Location) : unslashed steps <+: steps := by
  rw [unslashed]
  split
  · exact List.dropLast_prefix steps
  · exact List.prefix_rfl

/-- What is made for a directory is on the way to it. -/
theorem made_on_way (d : Disk) (steps : Location) (m : Location) :
    (d.mkdirs steps).2.node? m = d.node? m ∨
      Way steps m ∧ d.node? m = none ∧ (d.mkdirs steps).2.node? m = some .dir := by
  have hmade : ∀ m, (d.mkdirs steps).2.node? m = d.node? m ∨ Way steps m ∧ d.node? m = none ∧
      (d.mkdirs steps).2.node? m = some .dir := by
    refine mkdirs_invariant (R := fun e => ∀ m, e.node? m = d.node? m ∨ Way steps m ∧ d.node? m = none ∧
      e.node? m = some .dir) ?_ fun m => .inl rfl
    intro e e' k hk hmkdir he m
    obtain ⟨l, hslot, hnone, hview⟩ := mkdir_ok hmkdir
    rw [hview]
    by_cases hm : m = l
    · subst hm
      rw [Function.update_self]
      refine .inr ⟨⟨_, (unslashed_prefix_self k).trans hk, locate_eq_resolve hslot.locate⟩, ?_, rfl⟩
      rcases he m with hsame | ⟨-, habsent, -⟩
      · rw [← hsame, hnone]
      · exact habsent
    · rw [Function.update_of_ne hm]
      exact he m
  exact hmade m

/-- A directory that could be made is there. -/
theorem isDir_of_mkdirs {d d' : Disk} {steps : Location} (hlast : steps.getLast? ≠ some "")
    (h : d.mkdirs steps = (.ok (), d')) : d'.isDir steps = true := by
  have hmade {e e' : Disk} (hmkdir : e.mkdir steps = .ok e') : e'.isDir steps = true := by
    obtain ⟨l, hslot, -, hview⟩ := mkdir_ok hmkdir
    rw [unslashed, if_neg hlast] at hslot
    have hdirs : ∀ m, e.node? m = some .dir → e'.node? m = some .dir := by
      intro m hm
      have hne : m ≠ l := fun he => hslot.not_dir (he ▸ hm)
      rw [hview, Function.update_of_ne hne, hm]
    exact isDir_of_locate (locate_mono hdirs hslot.locate) (by rw [hview, Function.update_self])
  cases steps using List.reverseRecOn with
  | nil =>
    have hroot : d'.locate [] = .ok [] := locate_eq_ok_iff.mpr ⟨by decide, rfl⟩
    exact isDir_of_locate hroot (node?_nil d')
  | append_singleton init s _ =>
    rw [mkdirs_append] at h
    split at h
    · next hdir => exact (Prod.mk.inj h).2 ▸ hdir
    split at h
    · next hmkdir => exact (Prod.mk.inj h).2 ▸ hmade hmkdir
    · split at h
      · cases (Prod.mk.inj h).1
      split at h
      · next hmkdir => exact (Prod.mk.inj h).2 ▸ hmade hmkdir
      split at h
      · next hdir => exact (Prod.mk.inj h).2 ▸ hdir
      · cases (Prod.mk.inj h).1
    · cases (Prod.mk.inj h).1

/-- A walk that leads somewhere after directories were made led there before, or broke off where one was missing. -/
theorem follow_before {d d' : Disk} (h : Grown d d') {at_ steps l : Location} (hat : d.node? at_ = some .dir)
    (hf : follow d'.node? at_ steps = .ok l) :
    follow d.node? at_ steps = .ok l ∨ follow d.node? at_ steps = .error .notFound := by
  induction steps generalizing at_ with
  | nil => exact .inl hf
  | cons s rest ih =>
    rw [follow, if_neg (not_not.mpr (h.dir hat))] at hf
    rw [follow, if_neg (not_not.mpr hat)]
    split at hf
    · next hdot =>
      rw [if_pos hdot]
      exact ih hat hf
    next hdot =>
    rw [if_neg hdot]
    split at hf
    · next hup =>
      rw [if_pos hup]
      refine ih ?_ hf
      by_cases hroot : at_ = []
      · simp [hroot]
      · exact node?_dropLast hroot (by simp [hat])
    next hup =>
    rw [if_neg hup]
    split at hf
    · cases hf
    next hlong =>
    rw [if_neg hlong]
    cases hn : d.node? (at_ ++ [s]) with
    | none =>
      rw [if_neg (by simp)]
      cases rest with
      | cons t rest => exact .inr rfl
      | nil =>
        left
        split at hf <;> simpa [follow] using hf
    | some n =>
      have hn' : d'.node? (at_ ++ [s]) = some n := by
        rcases h (at_ ++ [s]) with e | ⟨hnone, -⟩
        · rw [e, hn]
        · rw [hn] at hnone
          cases hnone
      rw [hn', if_pos (by rfl)] at hf
      rw [if_pos (by rfl)]
      cases n with
      | dir => exact ih hn hf
      | file content mode =>
        cases rest with
        | nil => exact .inl hf
        | cons t rest =>
          rw [follow, if_pos (by simp [hn'])] at hf
          cases hf

/-- What was not there before directories were made was not found. -/
theorem reach_before {d d' : Disk} (h : Grown d d') {steps l : Location} (hlocate : d'.locate steps = .ok l)
    (hnone : d.node? l = none) : d.reach steps = .error .notFound ∨ d.reach steps = .ok ⟨l, none⟩ := by
  obtain ⟨hpath, hf⟩ := locate_eq_ok_iff.mp hlocate
  have htree : d.tree.at? l = none := by simpa [node?] using hnone
  rw [reach_eq d hpath]
  rcases follow_before h (node?_nil d) hf with hd | hd
  · rw [hd]
    exact .inr (by rw [Except.map, htree])
  · rw [hd]
    exact .inl rfl

end Mend.Fs.Disk
