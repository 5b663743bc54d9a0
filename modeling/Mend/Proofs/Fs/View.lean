import Mathlib.Logic.Function.Basic
import Mathlib.Tactic.Common
import Mend.Fs.Disk

/-!
# What a disk shows

`Disk.node?` tells what stands at a location without dots. All that can be read from a disk is a function
of it: `reach_eq` says so of walks, by way of `follow`, a walk over the view alone. Every change of a disk
is an update of its view at one location (`node?_put_file`, `node?_put_dir`, `node?_drop`,
`node?_replace`), so that facts about files are facts about functions from here on.

A walk that leads somewhere still leads there when directories are added and files come and go
(`follow_mono`), and the steps alone tell where to (`resolve`).
-/

namespace Mend.Fs

/-! ## Trees -/

namespace Tree

theorem lookup_child (k : String) (u : Tree) (cs : List (String × Tree)) (s : String) :
    ((k, u) :: cs).lookup s = if s = k then some u else cs.lookup s := by
  by_cases h : s = k
  · simp [h]
  · have hb : (s == k) = false := by simpa using h
    simp [List.lookup_cons, hb, h]

theorem lookup_map_child (cs : List (String × Tree)) (name s : String) (t : Tree) :
    (cs.map fun c => if c.1 = name then (name, t) else c).lookup s =
      if s = name ∧ (cs.lookup name).isSome then some t else cs.lookup s := by
  induction cs with
  | nil => simp
  | cons c cs ih =>
    obtain ⟨k, u⟩ := c
    rw [List.map_cons]
    by_cases hk : k = name
    · rw [if_pos hk, lookup_child, lookup_child, lookup_child, ih]
      by_cases hs : s = name <;> simp [hs, hk]
    · have hne : ¬ name = k := fun h => hk h.symm
      rw [if_neg hk, lookup_child, lookup_child, lookup_child, ih, if_neg hne]
      by_cases hs : s = k
      · simp [hs, hk]
      · simp [hs]

theorem lookup_filter_child (cs : List (String × Tree)) (name s : String) :
    (cs.filter fun c => c.1 ≠ name).lookup s = if s = name then none else cs.lookup s := by
  induction cs with
  | nil => simp
  | cons c cs ih =>
    obtain ⟨k, u⟩ := c
    by_cases hk : k = name
    · rw [List.filter_cons_of_neg (by simp [hk]), ih, lookup_child, hk]
      by_cases hs : s = name <;> simp [hs]
    · rw [List.filter_cons_of_pos (by simp [hk]), lookup_child, lookup_child, ih]
      by_cases hs : s = k
      · simp [hs, hk]
      · simp [hs]

theorem lookup_append_child (cs : List (String × Tree)) (name s : String) (t : Tree)
    (h : cs.lookup name = none) :
    (cs ++ [(name, t)]).lookup s = if s = name then some t else cs.lookup s := by
  induction cs with
  | nil => rw [List.nil_append, lookup_child]
  | cons c cs ih =>
    obtain ⟨k, u⟩ := c
    rw [lookup_child] at h
    have hk : ¬ name = k := fun e => by simp [e] at h
    rw [if_neg hk] at h
    rw [List.cons_append, lookup_child, lookup_child, ih h]
    by_cases hs : s = k
    · have : ¬ s = name := fun e => hk (e ▸ hs)
      simp [hs, hs ▸ this]
    · simp [hs]

theorem lookup_setChild (cs : List (String × Tree)) (name s : String) (t : Option Tree) :
    (setChild cs name t).lookup s = if s = name then t else cs.lookup s := by
  cases t with
  | none => exact lookup_filter_child cs name s
  | some t =>
    rw [setChild]
    split
    · next h => rw [lookup_map_child]; simp [h]
    · next h => exact lookup_append_child cs name s t (Option.not_isSome_iff_eq_none.mp h)

theorem at?_append (t : Tree) (l m : Location) : t.at? (l ++ m) = (t.at? l).bind fun u => u.at? m := by
  induction l generalizing t with
  | nil => simp [at?]
  | cons s l ih =>
    simp only [List.cons_append, at?]
    cases t.children.lookup s with
    | none => rfl
    | some u => exact ih u

theorem at?_snoc (t : Tree) (l : Location) (s : String) :
    t.at? (l ++ [s]) = (t.at? l).bind fun u => u.children.lookup s := by
  rw [at?_append]
  congr 1
  funext u
  rw [at?]
  cases u.children.lookup s <;> rfl

/-- Nothing stands below what is no directory. -/
theorem at?_eq_none_of_lookup {t : Tree} (h : ∀ s, t.children.lookup s = none) {m : Location}
    (hm : m ≠ []) : t.at? m = none := by
  cases m with
  | nil => exact absurd rfl hm
  | cons s m => simp [at?, h s]

/-- What stands in a tree is among its entries. -/
theorem mem_entries_of_at? {t u : Tree} {back : List String} {l : Location} (h : t.at? l = some u) :
    (back.reverse ++ l, u.node) ∈ t.entries back := by
  induction l generalizing t back with
  | nil =>
    rw [at?] at h
    obtain rfl := Option.some.inj h
    rw [List.append_nil]
    cases t with
    | file content mode => exact List.mem_singleton.mpr rfl
    | dir cs => exact List.mem_cons_self
  | cons s l ih =>
    cases t with
    | file content mode => cases h
    | dir cs =>
      rw [at?] at h
      split at h
      swap
      · cases h
      next sub hsub =>
      have hsub' : cs.lookup s = some sub := hsub
      have hmem : ((s :: back).reverse ++ l, u.node) ∈ sub.entries (s :: back) := ih h
      rw [List.reverse_cons, List.append_assoc, List.singleton_append] at hmem
      rw [entries]
      refine List.mem_cons_of_mem _ ?_
      clear h ih hsub
      induction cs with
      | nil => cases hsub'
      | cons c cs ihcs =>
        obtain ⟨k, v⟩ := c
        rw [lookup_child] at hsub'
        rw [entriesOf]
        split at hsub'
        · next hk =>
          obtain rfl := Option.some.inj hsub'
          subst hk
          exact List.mem_append_left _ hmem
        · exact List.mem_append_right _ (ihcs hsub')

/-- A change below a directory puts a tree, or nothing, where it is made. -/
theorem at?_alter_self (f : Option Tree → Option Tree) (t : Tree) (l : Location) (s : String)
    {cs : List (String × Tree)} (h : t.at? l = some (.dir cs)) :
    (t.alter f (l ++ [s])).at? (l ++ [s]) = f (t.at? (l ++ [s])) := by
  induction l generalizing t with
  | nil =>
    simp only [at?, Option.some.injEq] at h
    subst h
    simp only [List.nil_append, alter, at?, children, lookup_setChild, if_true]
    cases cs.lookup s <;> cases f _ <;> rfl
  | cons a l ih =>
    cases t with
    | file content mode => simp [at?, children] at h
    | dir ts =>
      simp only [at?, children] at h
      cases hu : ts.lookup a with
      | none => simp [hu] at h
      | some u =>
        simp only [hu] at h
        have hne : l ++ [s] ≠ [] := by simp
        obtain ⟨b, m, hbm⟩ := List.exists_cons_of_ne_nil hne
        have key := ih u h
        rw [hbm] at key
        simp only [List.cons_append, hbm, alter, hu, at?, children, lookup_setChild, if_true]
        exact key

/-- A change at a location is seen at that location and below it only. -/
theorem node_at?_alter_of_not_prefix (f : Option Tree → Option Tree) (t : Tree) (l m : Location)
    (h : ¬ l <+: m) : ((t.alter f l).at? m).map node = (t.at? m).map node := by
  induction l generalizing t m with
  | nil => exact absurd (List.nil_prefix) h
  | cons s l ih =>
    cases t with
    | file content mode => cases l <;> simp [alter]
    | dir cs =>
      cases m with
      | nil =>
        cases l with
        | nil => simp [alter, at?, node]
        | cons a l =>
          rw [alter]
          · cases cs.lookup s <;> simp [at?, node]
          · simp
      | cons b m =>
        rw [List.cons_prefix_cons] at h
        cases l with
        | nil =>
          have hb : b ≠ s := fun e => h ⟨e.symm, List.nil_prefix⟩
          simp [alter, at?, children, lookup_setChild, hb]
        | cons a l =>
          rw [alter]
          · cases hu : cs.lookup s with
            | none => simp
            | some u =>
              simp only [at?, children, lookup_setChild]
              by_cases hb : b = s
              · rw [if_pos hb, hb, hu]
                exact ih u m fun hp => h ⟨hb.symm, hp⟩
              · rw [if_neg hb]
          · simp

end Tree

namespace Disk

/-! ## The view -/

@[simp] theorem node?_nil (d : Disk) : d.node? [] = some .dir := rfl

theorem node?_append (d : Disk) (l m : Location) :
    d.node? (l ++ m) = ((d.tree.at? l).bind fun t => t.at? m).map Tree.node := by
  rw [node?, Tree.at?_append]

theorem at?_of_file {d : Disk} {l : Location} {content : ByteArray} {mode : Nat}
    (h : d.node? l = some (.file content mode)) : d.tree.at? l = some (.file content mode) := by
  obtain ⟨t, ht, hnode⟩ := Option.map_eq_some_iff.mp h
  cases t with
  | file c m =>
    obtain ⟨rfl, rfl⟩ := Node.file.inj hnode
    exact ht
  | dir cs => cases hnode

/-- What stands on a disk is among its entries. -/
theorem mem_entries {d : Disk} {l : Location} {n : Node} (h : d.node? l = some n) (hl : l ≠ []) :
    (l, n) ∈ d.entries := by
  obtain ⟨t, ht, rfl⟩ := Option.map_eq_some_iff.mp h
  have hmem : (l, t.node) ∈ d.tree.entries [] := Tree.mem_entries_of_at? ht
  rw [Disk.tree, Tree.entries] at hmem
  exact (List.mem_cons.mp hmem).resolve_left fun hnil => hl (congrArg Prod.fst hnil)

/-- Below a location that is no directory there is nothing. -/
theorem node?_append_of_not_dir {d : Disk} {l m : Location} (h : d.node? l ≠ some .dir) (hm : m ≠ []) :
    d.node? (l ++ m) = none := by
  rw [node?_append]
  cases ht : d.tree.at? l with
  | none => rfl
  | some t =>
    cases t with
    | dir cs => exact absurd (by simp [node?, ht, Tree.node]) h
    | file content mode =>
      rw [Option.bind_some, Tree.at?_eq_none_of_lookup (fun s => rfl) hm]
      rfl

/-- Around whatever stands on a disk there is a directory. -/
theorem node?_dropLast {d : Disk} {l : Location} (hl : l ≠ []) (h : d.node? l ≠ none) :
    d.node? l.dropLast = some .dir := by
  by_contra hdir
  rw [← List.dropLast_concat_getLast hl] at h
  exact h (node?_append_of_not_dir hdir (by simp))

/-- The content of the file at a location, if a file is there. -/
def fileAt (d : Disk) (l : Location) : Option ByteArray :=
  match d.node? l with
  | some (.file content _) => some content
  | _ => none

theorem fileAt_of_file {d : Disk} {l : Location} {content : ByteArray} {mode : Nat}
    (h : d.node? l = some (.file content mode)) : d.fileAt l = some content := by
  rw [fileAt, h]

theorem fileAt_of_none {d : Disk} {l : Location} (h : d.node? l = none) : d.fileAt l = none := by
  rw [fileAt, h]

theorem fileAt_congr {d d' : Disk} {l : Location} (h : d'.node? l = d.node? l) : d'.fileAt l = d.fileAt l := by
  rw [fileAt, fileAt, h]

theorem fileAt_eq_some_iff {d : Disk} {l : Location} {content : ByteArray} :
    d.fileAt l = some content ↔ ∃ mode, d.node? l = some (.file content mode) := by
  rw [fileAt]
  cases d.node? l with
  | none => simp
  | some n => cases n <;> simp

/-! ## Walks -/

/-- A walk over a view: where the steps lead from a location. The last one may lead to nothing. -/
def follow (v : Location → Option Node) : Location → Location → Except Error Location
  | at_, [] => .ok at_
  | at_, s :: rest =>
    if v at_ ≠ some .dir then .error .notDirectory
    else if s = "" || s = "." then follow v at_ rest
    else if s = ".." then follow v at_.dropLast rest
    else if maxName < s.utf8ByteSize then .error .nameTooLong
    else if (v (at_ ++ [s])).isSome then follow v (at_ ++ [s]) rest
    else if rest.isEmpty then .ok (at_ ++ [s])
    else .error .notFound

/-- The names lead from the root through the trees, the last first. -/
def Trail (root : Tree) : List (String × Tree) → Prop
  | [] => True
  | (s, t) :: back => ((back.head?.map Prod.snd).getD root).children.lookup s = some t ∧ Trail root back

theorem Trail.at? {root : Tree} {back : List (String × Tree)} (h : Trail root back) :
    root.at? (back.reverse.map Prod.fst) = some ((back.head?.map Prod.snd).getD root) := by
  induction back with
  | nil => rfl
  | cons p back ih =>
    obtain ⟨s, t⟩ := p
    obtain ⟨hs, hback⟩ := h
    rw [List.reverse_cons, List.map_append, List.map_cons, List.map_nil, Tree.at?_snoc, ih hback]
    simpa using hs

theorem walk_eq {root : Tree} {back : List (String × Tree)} (h : Trail root back) (steps : Location) :
    walk root back steps =
      (follow (fun l => (root.at? l).map Tree.node) (back.reverse.map Prod.fst) steps).map
        fun l => ⟨l, root.at? l⟩ := by
  induction steps generalizing back with
  | nil => rw [walk, follow, spotOf, ← h.at?]; rfl
  | cons s rest ih =>
    have hat := h.at?
    rw [walk, follow]
    cases htop : (back.head?.map Prod.snd).getD root with
    | file content mode =>
      rw [htop] at hat
      have hfile : (root.at? (back.reverse.map Prod.fst)).map Tree.node ≠ some .dir := by
        rw [hat]; simp [Tree.node]
      rw [if_pos hfile]
      rfl
    | dir cs =>
      rw [htop] at hat
      have hdir : ¬ (root.at? (back.reverse.map Prod.fst)).map Tree.node ≠ some .dir := by
        rw [hat]; simp [Tree.node]
      simp only
      rw [if_neg hdir]
      by_cases hdot : (decide (s = "") || decide (s = ".")) = true
      · rw [if_pos hdot, if_pos hdot, ih h]
      rw [if_neg hdot, if_neg hdot]
      by_cases hup : s = ".."
      · rw [if_pos hup, if_pos hup]
        cases back with
        | nil => exact ih h
        | cons p back =>
          rw [List.tail_cons, ih h.2]
          simp
      rw [if_neg hup, if_neg hup]
      by_cases hlong : maxName < s.utf8ByteSize
      · rw [if_pos hlong, if_pos hlong]; rfl
      rw [if_neg hlong, if_neg hlong]
      have hnext : root.at? (back.reverse.map Prod.fst ++ [s]) = cs.lookup s := by
        rw [Tree.at?_snoc, hat]; rfl
      cases hs : cs.lookup s with
      | none =>
        have hnone : ¬ ((root.at? (back.reverse.map Prod.fst ++ [s])).map Tree.node).isSome = true := by
          rw [hnext, hs]; simp
        rw [if_neg hnone]
        cases rest with
        | nil => simp only [List.isEmpty_nil, if_true, Except.map, spotOf, hnext, hs]
        | cons r rest => rfl
      | some t =>
        have hsome : ((root.at? (back.reverse.map Prod.fst ++ [s])).map Tree.node).isSome = true := by
          rw [hnext, hs]; rfl
        have htrail : Trail root ((s, t) :: back) := ⟨by rw [htop]; exact hs, h⟩
        rw [if_pos hsome]
        simp only
        rw [ih htrail]
        simp

/-- The system takes the steps as a path. -/
def Acceptable (steps : Location) : Prop :=
  (steps.any fun s => s.toList.contains '\x00') = false ∧ pathLength steps < maxPath

theorem acceptable_iff {steps : Location} :
    Acceptable steps ↔ (∀ s ∈ steps, '\x00' ∉ s.toList) ∧ pathLength steps < maxPath := by
  simp [Acceptable]

instance : DecidablePred Acceptable := fun _ => decidable_of_iff _ acceptable_iff.symm

theorem reach_eq (d : Disk) {steps : Location} (h : Acceptable steps) :
    d.reach steps = (follow d.node? [] steps).map fun l => ⟨l, d.tree.at? l⟩ := by
  obtain ⟨hnul, hlong⟩ := h
  rw [reach, hnul, if_neg (by simp), if_neg (by omega)]
  have htrail : Trail d.tree [] := trivial
  exact walk_eq htrail steps

theorem acceptable_of_reach {d : Disk} {steps : Location} {spot : Spot} (h : d.reach steps = .ok spot) :
    Acceptable steps := by
  rw [reach] at h
  split at h
  · cases h
  · split at h
    · cases h
    · exact ⟨by simp_all, by omega⟩

theorem locate_eq_ok_iff {d : Disk} {steps l : Location} :
    d.locate steps = .ok l ↔ Acceptable steps ∧ follow d.node? [] steps = .ok l := by
  constructor
  · intro h
    rw [locate] at h
    cases hr : d.reach steps with
    | error e => simp [hr] at h
    | ok spot =>
      have ha := acceptable_of_reach hr
      refine ⟨ha, ?_⟩
      rw [reach_eq d ha] at hr
      cases hf : follow d.node? [] steps with
      | error e => simp [hf, Except.map] at hr
      | ok l' =>
        simp only [hf, Except.map, Except.ok.injEq] at hr
        rw [reach_eq d ha, hf] at h
        simpa [Except.map] using h
  · rintro ⟨ha, hf⟩
    rw [locate, reach_eq d ha, hf]
    rfl

theorem reach_of_locate {d : Disk} {steps l : Location} (h : d.locate steps = .ok l) :
    d.reach steps = .ok ⟨l, d.tree.at? l⟩ := by
  obtain ⟨ha, hf⟩ := locate_eq_ok_iff.mp h
  rw [reach_eq d ha, hf]
  rfl

theorem locate_of_reach {d : Disk} {steps : Location} {spot : Spot} (h : d.reach steps = .ok spot) :
    d.locate steps = .ok spot.location := by
  rw [locate, h]

theorem find_of_locate {d : Disk} {steps l : Location} (h : d.locate steps = .ok l) :
    d.find steps = match d.node? l with
      | some n => .ok n
      | none => .error .notFound := by
  rw [find, reach_of_locate h, node?]
  cases d.tree.at? l <;> rfl

theorem read_of_locate {d : Disk} {steps l : Location} (h : d.locate steps = .ok l) :
    d.read steps = match d.node? l with
      | some (.file content _) => .ok content
      | some .dir => .error .isDirectory
      | none => .error .notFound := by
  rw [read, find_of_locate h]
  cases d.node? l with
  | none => rfl
  | some n => cases n <;> rfl

theorem locate_of_find {d : Disk} {steps : Location} {n : Node} (h : d.find steps = .ok n) :
    ∃ l, d.locate steps = .ok l ∧ d.node? l = some n := by
  cases hr : d.reach steps with
  | error e => simp [find, hr] at h
  | ok spot =>
    have hl := locate_of_reach hr
    refine ⟨_, hl, ?_⟩
    rw [find_of_locate hl] at h
    cases hn : d.node? spot.location with
    | none => simp [hn] at h
    | some m => simpa [hn] using h

theorem locate_of_read {d : Disk} {steps : Location} {content : ByteArray} (h : d.read steps = .ok content) :
    ∃ l mode, d.locate steps = .ok l ∧ d.node? l = some (.file content mode) := by
  rw [read] at h
  cases hf : d.find steps with
  | error e => simp [hf] at h
  | ok n =>
    obtain ⟨l, hl, hn⟩ := locate_of_find hf
    cases n with
    | dir => simp [hf] at h
    | file c mode =>
      simp only [hf, Except.ok.injEq] at h
      exact ⟨l, mode, hl, h ▸ hn⟩

/-! ### Where a walk leads -/

/-- Where steps lead from a location, by the steps alone. -/
def resolve : Location → Location → Location
  | at_, [] => at_
  | at_, s :: rest =>
    if s = "" || s = "." then resolve at_ rest
    else if s = ".." then resolve at_.dropLast rest
    else resolve (at_ ++ [s]) rest

theorem resolve_append (at_ a b : Location) : resolve at_ (a ++ b) = resolve (resolve at_ a) b := by
  induction a generalizing at_ with
  | nil => rfl
  | cons s a ih =>
    rw [List.cons_append, resolve, resolve]
    split
    · exact ih _
    · split <;> exact ih _

theorem resolve_names {l : Location} (h : ∀ s ∈ l, s ≠ "" ∧ s ≠ "." ∧ s ≠ "..") (at_ : Location) :
    resolve at_ l = at_ ++ l := by
  induction l generalizing at_ with
  | nil => rw [resolve, List.append_nil]
  | cons s l ih =>
    have hs := h s (by simp)
    rw [resolve, if_neg (by simp [hs]), if_neg hs.2.2, ih (fun t ht => h t (by simp [ht]))]
    simp

theorem eq_resolve_of_follow {v : Location → Option Node} {at_ steps l : Location}
    (h : follow v at_ steps = .ok l) : l = resolve at_ steps := by
  fun_induction follow v at_ steps with
  | case1 at_ => exact (Except.ok.inj h).symm
  | case2 => cases h
  | case3 at_ s rest _ hdot ih => rw [resolve, if_pos hdot]; exact ih h
  | case4 at_ rest _ _ ih => simpa [resolve] using ih h
  | case5 => cases h
  | case6 at_ s rest _ hdot hup _ _ ih => rw [resolve, if_neg hdot, if_neg hup]; exact ih h
  | case7 at_ s rest _ hdot hup _ _ hrest =>
    rw [List.isEmpty_iff.mp hrest, resolve, if_neg hdot, if_neg hup]
    exact (Except.ok.inj h).symm
  | case8 => cases h

theorem locate_eq_resolve {d : Disk} {steps l : Location} (h : d.locate steps = .ok l) :
    l = resolve [] steps :=
  eq_resolve_of_follow (locate_eq_ok_iff.mp h).2

/-- A walk that leads somewhere leads there as long as no directory on its way is lost. -/
theorem follow_mono {v v' : Location → Option Node} (hdirs : ∀ l, v l = some .dir → v' l = some .dir)
    {at_ steps l : Location} (h : follow v at_ steps = .ok l) : follow v' at_ steps = .ok l := by
  induction steps generalizing at_ with
  | nil => exact h
  | cons s rest ih =>
    rw [follow] at h ⊢
    split at h
    · cases h
    next hat =>
      rw [if_neg (not_not.mpr (hdirs _ (not_not.mp hat)))]
      split at h
      · next hdot => rw [if_pos hdot]; exact ih h
      next hdot =>
      rw [if_neg hdot]
      split at h
      · next hup => rw [if_pos hup]; exact ih h
      next hup =>
      rw [if_neg hup]
      split at h
      · cases h
      next hlong =>
      rw [if_neg hlong]
      by_cases hrest : rest = []
      · -- the last step may lead to anything
        subst hrest
        have hl : l = at_ ++ [s] := by
          split at h <;> simpa [follow] using h.symm
        simp [follow, hl]
      · obtain ⟨r, rest', rfl⟩ := List.exists_cons_of_ne_nil hrest
        split at h
        · next hsome =>
          have hdir : v (at_ ++ [s]) = some .dir := by
            by_contra hne
            rw [follow, if_pos hne] at h
            cases h
          rw [if_pos (by rw [hdirs _ hdir]; rfl)]
          exact ih h
        · simp at h

theorem locate_mono {d d' : Disk} (hdirs : ∀ l, d.node? l = some .dir → d'.node? l = some .dir)
    {steps l : Location} (h : d.locate steps = .ok l) : d'.locate steps = .ok l := by
  obtain ⟨ha, hf⟩ := locate_eq_ok_iff.mp h
  exact locate_eq_ok_iff.mpr ⟨ha, follow_mono hdirs hf⟩

/-- A walk takes no notice of what files hold. -/
theorem follow_congr {v v' : Location → Option Node} (hdir : ∀ l, v' l = some .dir ↔ v l = some .dir)
    (hnone : ∀ l, v' l = none ↔ v l = none) (at_ steps : Location) : follow v' at_ steps = follow v at_ steps := by
  have hsome : ∀ l, (v' l).isSome = (v l).isSome := by
    intro l
    rw [Bool.eq_iff_iff, ← Option.ne_none_iff_isSome, ← Option.ne_none_iff_isSome, ne_eq, ne_eq, hnone]
  induction steps generalizing at_ with
  | nil => rfl
  | cons s rest ih => simp only [follow, ne_eq, hdir, hsome, ih]

/-- What is read depends on the file that is read, and of the others only on where they are. -/
theorem read_congr {d d' : Disk} (hdir : ∀ l, d'.node? l = some .dir ↔ d.node? l = some .dir)
    (hnone : ∀ l, d'.node? l = none ↔ d.node? l = none) {steps : Location}
    (hat : ∀ l, d.locate steps = .ok l → d'.node? l = d.node? l) : d'.read steps = d.read steps := by
  by_cases ha : Acceptable steps
  · cases hf : follow d.node? [] steps with
    | error e =>
      have hreach : d.reach steps = .error e := by rw [reach_eq d ha, hf]; rfl
      have hreach' : d'.reach steps = .error e := by rw [reach_eq d' ha, follow_congr hdir hnone, hf]; rfl
      rw [read, read, find, find, hreach, hreach']
    | ok l =>
      have hl := locate_eq_ok_iff.mpr ⟨ha, hf⟩
      have hl' : d'.locate steps = .ok l := locate_eq_ok_iff.mpr ⟨ha, by rw [follow_congr hdir hnone, hf]⟩
      rw [read_of_locate hl', read_of_locate hl, hat l hl]
  · have hreach : d'.reach steps = d.reach steps := by
      unfold reach
      split
      · rfl
      next hnul =>
      split
      · rfl
      next hlong => exact absurd ⟨Bool.eq_false_iff.mpr hnul, Nat.lt_of_not_le hlong⟩ ha
    rw [read, read, find, find, hreach]

/-- A walk ends at the root or in a directory. -/
theorem parent_of_follow {d : Disk} {at_ steps l : Location} (hat : d.node? at_ ≠ none)
    (h : follow d.node? at_ steps = .ok l) : l = [] ∨ d.node? l.dropLast = some .dir := by
  fun_induction follow d.node? at_ steps with
  | case1 at_ =>
    obtain rfl := Except.ok.inj h
    by_cases hl : at_ = []
    · exact .inl hl
    · exact .inr (node?_dropLast hl hat)
  | case2 => cases h
  | case3 at_ s rest _ _ ih => exact ih hat h
  | case4 at_ rest _ _ ih =>
    refine ih ?_ h
    by_cases hl : at_ = []
    · simp [hl]
    · rw [node?_dropLast hl hat]; simp
  | case5 => cases h
  | case6 at_ s rest _ _ _ _ hsome ih => exact ih (Option.ne_none_iff_isSome.mpr hsome) h
  | case7 at_ s rest hdir =>
    obtain rfl := Except.ok.inj h
    exact .inr (by simpa using not_not.mp hdir)
  | case8 => cases h

theorem parent_of_locate {d : Disk} {steps l : Location} (h : d.locate steps = .ok l) (hl : l ≠ []) :
    d.node? l.dropLast = some .dir :=
  (parent_of_follow (by simp) (locate_eq_ok_iff.mp h).2).resolve_left hl

end Disk
end Mend.Fs
