import Mend.Proofs.Fs.Inversion

/-!
# Listing a directory

A directory is listed as its children stand in the tree, and the view of a disk tells which names these are
(`names_of_locate`). That no name is listed twice is not to be seen from the view. It is kept by every change
that puts a file or an empty directory somewhere or takes something away (`Distinct.alter`). A directory that is not
found is not there, if the steps to it never lead back (`node?_of_names_notFound`).
-/

namespace Mend.Fs

/-! ## Children -/

namespace Tree

theorem nodup_setChild {cs : List (String × Tree)} (h : (cs.map Prod.fst).Nodup) (s : String) (t : Option Tree) :
    ((setChild cs s t).map Prod.fst).Nodup := by
  cases t with
  | none => exact h.sublist (List.filter_sublist.map Prod.fst)
  | some t =>
    rw [setChild]
    split
    · have hnames : (cs.map fun c => if c.1 = s then (s, t) else c).map Prod.fst = cs.map Prod.fst := by
        rw [List.map_map]
        refine List.map_congr_left fun c _ => ?_
        by_cases hc : c.1 = s
        · simp [hc]
        · simp [hc]
      rw [hnames]
      exact h
    · next hnone =>
      rw [Option.not_isSome_iff_eq_none, List.lookup_eq_none_iff] at hnone
      rw [List.map_append, List.map_singleton, List.nodup_append]
      refine ⟨h, by simp, ?_⟩
      intro a ha b hb
      obtain ⟨c, hc, rfl⟩ := List.mem_map.mp ha
      rw [List.mem_singleton.mp hb]
      intro e
      simpa [e] using hnone c hc

/-- No name stands twice in the directory at a location. -/
def Distinct (t : Tree) (D : Location) : Prop := ∀ cs, t.at? D = some (.dir cs) → (cs.map Prod.fst).Nodup

theorem distinct_of_childless {t : Tree} (h : t.children = []) (D : Location) : t.Distinct D := by
  intro cs hcs
  cases D with
  | nil =>
    obtain rfl := Option.some.inj hcs
    obtain rfl : cs = [] := h
    exact List.nodup_nil
  | cons b D => simp [at?, h] at hcs

/-- What stands at `D` keeps its names distinct when something without children is put somewhere, or taken away. -/
theorem Distinct.alter {f : Option Tree → Option Tree} {t : Tree} {l D : Location} (h : t.Distinct D)
    (hf : ∀ u, f (t.at? l) = some u → u.children = []) : (t.alter f l).Distinct D := by
  induction l generalizing t D with
  | nil => exact h
  | cons s l ih =>
    cases t with
    | file content mode =>
      rwa [show (Tree.file content mode).alter f (s :: l) = .file content mode by cases l <;> rfl]
    | dir cs =>
      have hat : (Tree.dir cs).at? (s :: l) = (cs.lookup s).bind fun u => u.at? l := by
        rw [at?, children]
        cases cs.lookup s <;> rfl
      rw [hat] at hf
      -- the child under `s` is another one, and the others are as they were
      suffices hset : ∀ new : Option Tree, (∀ u, new = some u → ∀ D', D = s :: D' → u.Distinct D') →
          (Tree.dir (setChild cs s new)).Distinct D by
        cases l with
        | nil =>
          rw [Tree.alter]
          refine hset _ fun u hu D' _ => distinct_of_childless (hf u ?_) D'
          rw [← hu]
          cases cs.lookup s <;> rfl
        | cons a l =>
          rw [Tree.alter]
          · cases hlookup : cs.lookup s with
            | none => exact h
            | some sub =>
              refine hset _ ?_
              rintro u hu D' rfl
              obtain rfl := Option.some.inj hu
              refine ih (fun cs' hcs' => h cs' ?_) fun u hu => hf u ?_
              · rw [at?, children, hlookup]
                exact hcs'
              · rw [hlookup]
                exact hu
          · simp
      intro new hnew cs' hcs'
      cases D with
      | nil =>
        obtain rfl := Tree.dir.inj (Option.some.inj hcs')
        exact nodup_setChild (h cs rfl) s new
      | cons b D =>
        rw [at?, children, lookup_setChild] at hcs'
        by_cases hb : b = s
        · rw [if_pos hb] at hcs'
          cases new with
          | none => cases hcs'
          | some u => exact hnew u rfl D (hb ▸ rfl) cs' hcs'
        · rw [if_neg hb] at hcs'
          exact h cs' hcs'

end Tree

namespace Disk

variable {d d' : Disk} {D l : Location} {steps : Location}

/-- No name stands twice in the directory at a location. -/
def Distinct (D : Location) (d : Disk) : Prop := d.tree.Distinct D

theorem distinct_of_absent (h : d.node? D = none) : Distinct D d := by
  intro cs hcs
  rw [node?, hcs] at h
  cases h

/-- The names of a directory are those under which the view shows something. -/
theorem names_of_locate (hlocate : d.locate steps = .ok D) (hdir : d.node? D = some .dir) (h : Distinct D d) :
    ∃ names, d.names steps = .ok names ∧ names.Nodup ∧ ∀ s, s ∈ names ↔ d.node? (D ++ [s]) ≠ none := by
  obtain ⟨t, ht, hnode⟩ := Option.map_eq_some_iff.mp hdir
  cases t with
  | file content mode => cases hnode
  | dir cs =>
    refine ⟨cs.map Prod.fst, ?_, h cs ht, ?_⟩
    · rw [names, reach_of_locate hlocate, ht]
    · intro s
      have hview : d.node? (D ++ [s]) = (cs.lookup s).map Tree.node := by
        rw [node?, Tree.at?_snoc, ht, Option.bind_some, Tree.children]
      rw [hview, ne_eq, Option.map_eq_none_iff, List.lookup_eq_none_iff]
      constructor
      · rintro hs hnone
        obtain ⟨c, hc, rfl⟩ := List.mem_map.mp hs
        simpa using hnone c hc
      · intro hsome
        by_contra hs
        refine hsome fun c hc => ?_
        have hne : s ≠ c.1 := fun e => hs (e ▸ List.mem_map_of_mem hc)
        simpa using hne

/-! ## Changes -/

theorem Distinct.alter {f : Option Tree → Option Tree} (h : Distinct D d)
    (hf : ∀ u, f (d.tree.at? l) = some u → u.children = []) : Distinct D (d.alter l f) := by
  have htree : (d.alter l f).tree = d.tree.alter f l := tree_alter d l f
  rw [Distinct, htree]
  exact Tree.Distinct.alter h hf

theorem Distinct.put_file (h : Distinct D d) (l : Location) (content : ByteArray) (mode : Nat) :
    Distinct D (d.put l (.file content mode)) := by
  refine h.alter fun u hu => ?_
  obtain rfl := Option.some.inj hu
  rfl

theorem Distinct.drop (h : Distinct D d) (l : Location) : Distinct D (d.drop l) :=
  h.alter fun _ hu => by cases hu

theorem Distinct.write {content : ByteArray} (h : Distinct D d) (hwrite : d.write steps content = .ok d') :
    Distinct D d' := by
  rw [Disk.write] at hwrite
  split at hwrite
  · cases hwrite
  · obtain rfl := Except.ok.inj hwrite
    exact h.put_file _ _ _
  · obtain rfl := Except.ok.inj hwrite
    exact h.put_file _ _ _

theorem Distinct.chmod {mode : Nat} (h : Distinct D d) (hchmod : d.chmod steps mode = .ok d') : Distinct D d' := by
  rw [Disk.chmod] at hchmod
  split at hchmod
  · cases hchmod
  · cases hchmod
  · obtain rfl := Except.ok.inj hchmod
    exact h
  · obtain rfl := Except.ok.inj hchmod
    exact h.put_file _ _ _

theorem Distinct.unlink (h : Distinct D d) (hunlink : d.unlink steps = .ok d') : Distinct D d' := by
  rw [Disk.unlink] at hunlink
  split at hunlink
  · cases hunlink
  · cases hunlink
  · cases hunlink
  · obtain rfl := Except.ok.inj hunlink
    exact h.drop _

theorem Distinct.mkdir (h : Distinct D d) (hmkdir : d.mkdir steps = .ok d') : Distinct D d' := by
  rw [Disk.mkdir] at hmkdir
  split at hmkdir
  · cases hmkdir
  · cases hmkdir
  · next l hreach =>
    obtain rfl := Except.ok.inj hmkdir
    have hspot := hreach.symm.trans (reach_of_locate (locate_of_reach hreach))
    have hnone : d.tree.at? l = none := by simpa using hspot.symm
    refine h.alter fun u hu => ?_
    rw [hnone] at hu
    obtain rfl := Option.some.inj hu
    rfl

theorem Distinct.mkdirs (h : Distinct D d) (steps : Location) : Distinct D (d.mkdirs steps).2 :=
  mkdirs_invariant (fun _ _ _ _ hmkdir h => h.mkdir hmkdir) h

/-- A file may be moved. -/
theorem Distinct.rename {source s : Location} (h : Distinct D d) (hsource : d.locate source = .ok s)
    (hfile : (d.fileAt s).isSome) (hrename : d.rename source steps = .ok d') : Distinct D d' := by
  obtain ⟨content, hcontent⟩ := Option.isSome_iff_exists.mp hfile
  obtain ⟨mode, hnode⟩ := fileAt_eq_some_iff.mp hcontent
  simp only [Disk.rename, reach_of_locate hsource, at?_of_file hnode] at hrename
  split at hrename
  · cases hrename
  · cases hrename
  · cases hrename
  · next heq htarget =>
    obtain ⟨rfl, htree⟩ := Spot.mk.inj (Except.ok.inj heq)
    obtain rfl := Option.some.inj htree
    split at hrename
    · cases hrename
    split at hrename
    · cases hrename
    split at hrename
    · obtain rfl := Except.ok.inj hrename
      exact h
    split at hrename
    · cases hrename
    · obtain rfl := Except.ok.inj hrename
      refine (h.drop _).alter fun u hu => ?_
      obtain rfl := Option.some.inj hu
      rfl

/-! ## Steps that never lead back -/

section

variable {at_ : Location} {v : Location → Option Node}

theorem prefix_resolve (h : ".." ∉ steps) : at_ <+: resolve at_ steps := by
  induction steps generalizing at_ with
  | nil => exact List.prefix_rfl
  | cons s rest ih =>
    rw [List.mem_cons, not_or] at h
    unfold resolve
    split
    · exact ih h.2
    · rw [if_neg (Ne.symm h.1)]
      exact (List.prefix_append at_ [s]).trans (ih h.2)

/-- Such a walk does not get lost where something stands at its end. -/
theorem follow_ne_notFound (h : ".." ∉ steps) (hv : ∀ m, m <+: resolve at_ steps → v m ≠ none) :
    follow v at_ steps ≠ .error .notFound := by
  induction steps generalizing at_ with
  | nil =>
    intro hlost
    cases hlost
  | cons s rest ih =>
    rw [List.mem_cons, not_or] at h
    have hup : ¬ s = ".." := Ne.symm h.1
    unfold follow
    unfold resolve at hv
    by_cases hdir : v at_ ≠ some .dir
    · rw [if_pos hdir]
      intro hlost
      cases hlost
    rw [if_neg hdir]
    by_cases hdot : (decide (s = "") || decide (s = ".")) = true
    · rw [if_pos hdot] at hv ⊢
      exact ih h.2 hv
    rw [if_neg hdot, if_neg hup] at hv ⊢
    by_cases hlong : maxName < s.utf8ByteSize
    · rw [if_pos hlong]
      intro hlost
      cases hlost
    have hthere : (v (at_ ++ [s])).isSome = true := Option.isSome_iff_ne_none.mpr (hv _ (prefix_resolve h.2))
    rw [if_neg hlong, if_pos hthere]
    exact ih h.2 hv

/-- A directory that is not found is not there. -/
theorem node?_of_names_notFound (h : d.names steps = .error .notFound) (hback : ".." ∉ steps) :
    d.node? (resolve [] steps) = none := by
  by_contra hthere
  have hway : ∀ m, m <+: resolve [] steps → d.node? m ≠ none := by
    rintro m ⟨k, hk⟩ hnone
    by_cases hnil : k = []
    · rw [hnil, List.append_nil] at hk
      exact hthere (hk ▸ hnone)
    · exact hthere (hk ▸ node?_append_of_not_dir (by simp [hnone]) hnil)
  unfold names at h
  rcases hreach : d.reach steps with e | ⟨l, tree⟩
  · rw [hreach] at h
    obtain rfl := Except.error.inj h
    have hpath : Acceptable steps := by
      unfold reach at hreach
      split at hreach
      · cases hreach
      split at hreach
      · cases hreach
      · exact ⟨by simp_all, by omega⟩
    rw [reach_eq d hpath] at hreach
    cases hfollow : follow d.node? [] steps with
    | error e =>
      rw [hfollow] at hreach
      obtain rfl := Except.error.inj hreach
      exact follow_ne_notFound hback hway hfollow
    | ok l =>
      rw [hfollow] at hreach
      cases hreach
  · obtain ⟨hlocate, hnode⟩ := spot_of_reach hreach
    rw [hreach] at h
    rcases tree with _ | ⟨content, mode⟩ | ⟨cs⟩
    · rw [← locate_eq_resolve hlocate] at hthere
      exact hthere hnode.symm
    · cases h
    · cases h

end

end Disk

end Mend.Fs
