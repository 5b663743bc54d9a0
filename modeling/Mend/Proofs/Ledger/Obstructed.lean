import Mend.Proofs.Ledger.Planning

/-!
# Files that cannot be read

Restoring reads every captured file before it changes one. A file that is missing, or holds something else, has drifted
and does not hold back the others. A file that cannot be read at all does: where a directory stands in its place, or a
file in the place of a directory around it, restoring fails and nothing is restored (`exec_restore_unreadable`).
`restore_readable` is the whole, for any captures of different files, wherever these are.
-/

namespace Mend.Snapshot

open Fs Fs.Disk Ledger
open Action
open Function (update)

variable {root : Place} {id : CycleId} {now : Time} {d d' : Disk} {c : Capture} {cs before after : List Capture}
  {x : Entry × Plan} {plans : List (Entry × Plan)} {v : Location → Option Node} {l m : Location}

/-- What restoring makes of a captured file at a location, by what was read of it. -/
def Settled (c : Capture) (held : Option ByteArray) (l : Location) (d d' : Disk) : Prop :=
  match outcome c held with
  | .restored => d'.fileAt l = c.before.map String.toUTF8
  | .removed => d'.node? l = none
  | _ => d'.node? l = d.node? l

/-- What is read of a file tells its contents apart from those that were captured. -/
def Distinguished (root : Place) (d : Disk) (c : Capture) : Prop :=
  ∀ held, current root c.path d = .ok held → Separated c held

/-! ## Planning -/

theorem planOn_capture {held : Option ByteArray} (hsep : Distinguished root d c)
    (hheld : current root c.path d = .ok held) : planOn root id d (Entry.ofCapture c) = .ok (planOf c held) := by
  rw [planOn, Entry.ofCapture, hheld, ← Entry.ofCapture]
  exact planFile_eq (hsep held hheld) id

theorem current_unreadable {path : RelPath} {cause : Fs.Error}
    (hread : d.read (root.file path).location = .error cause) (hne : cause ≠ .notFound) :
    current root path d = .error (.io (root.file path) cause) := by
  rw [current, hread]
  cases cause <;> first | rfl | exact absurd rfl hne

/-- The first file that cannot be read is told. -/
theorem planAll_unreadable (id : CycleId) (after : List Capture) {cause : Fs.Error} (hsep : ∀ k ∈ before, Distinguished root d k)
    (hbefore : ∀ k ∈ before, ∃ held, current root k.path d = .ok held)
    (hread : d.read (root.file c.path).location = .error cause) (hne : cause ≠ .notFound) :
    planAll root id d ((before ++ c :: after).map Entry.ofCapture) = .error (.io (root.file c.path) cause) := by
  induction before with
  | nil =>
    have hcurrent : current root (Entry.ofCapture c).path d = .error (.io (root.file c.path) cause) :=
      current_unreadable hread hne
    rw [List.nil_append, List.map_cons, planAll, hcurrent]
    rfl
  | cons k before ih =>
    obtain ⟨held, hheld⟩ := hbefore k List.mem_cons_self
    rw [List.cons_append, List.map_cons, planAll_cons, planOn_capture (hsep k List.mem_cons_self) hheld,
      ih (fun j hj => hsep j (List.mem_cons_of_mem k hj)) fun j hj => hbefore j (List.mem_cons_of_mem k hj)]
    rfl

/-- Files that can be read are planned as what was read of them asks for. -/
theorem planAll_readable (id : CycleId) {held : Capture → Option ByteArray} (hsep : ∀ c ∈ cs, Distinguished root d c)
    (hheld : ∀ c ∈ cs, current root c.path d = .ok (held c)) :
    planAll root id d (cs.map Entry.ofCapture) = .ok (cs.map fun c => (Entry.ofCapture c, planOf c (held c))) := by
  induction cs with
  | nil => rfl
  | cons c cs ih =>
    rw [List.map_cons, planAll_cons, planOn_capture (hsep c List.mem_cons_self) (hheld c List.mem_cons_self),
      ih (fun k hk => hsep k (List.mem_cons_of_mem c hk)) fun k hk => hheld k (List.mem_cons_of_mem c hk)]
    rfl

theorem told_planOf (c : Capture) (held : Option ByteArray) : (planOf c held).told = outcome c held := by
  rw [planOf]
  cases outcome c held <;> rfl

theorem outcome_of_write {held : Option ByteArray} {content : String} (h : planOf c held = .write content) :
    outcome c held = .restored := by
  rw [← told_planOf, h]
  rfl

/-! ## Different files -/

theorem afterAll_of_ne (root : Place) (h : ∀ x ∈ plans, m ≠ x.1.path.below root) (v : Location → Option Node) :
    afterAll root plans v m = v m := by
  induction plans generalizing v with
  | nil => rfl
  | cons x plans ih =>
    have hrest := ih (fun y hy => h y (List.mem_cons_of_mem x hy)) (x.2.effect (x.1.path.below root) v)
    rw [effect_of_ne x.2 (h x List.mem_cons_self)] at hrest
    exact hrest

/-- Where no two plans are for one file, each has its effect on it and no other. -/
theorem afterAll_of_mem (root : Place) (hnodup : (plans.map fun x => x.1.path).Nodup) (hx : x ∈ plans)
    (v : Location → Option Node) :
    afterAll root plans v (x.1.path.below root) = x.2.effect (x.1.path.below root) v (x.1.path.below root) := by
  induction plans generalizing v with
  | nil => cases hx
  | cons y plans ih =>
    obtain ⟨hfresh, hnodup⟩ := List.nodup_cons.mp hnodup
    have hapart : ∀ z ∈ plans, y.1.path.below root ≠ z.1.path.below root :=
      fun z hz heq => hfresh (List.mem_map.mpr ⟨z, hz, (RelPath.below_inj heq).symm⟩)
    show afterAll root plans (y.2.effect (y.1.path.below root) v) (x.1.path.below root) = _
    rcases List.mem_cons.mp hx with rfl | hx
    · exact afterAll_of_ne root hapart _
    · rw [ih hnodup hx]
      exact effect_congr x.2 (effect_of_ne y.2 (hapart x hx).symm)

theorem settled_of_effect {held : Option ByteArray} (h : d'.node? l = (planOf c held).effect l d.node? l) :
    Settled c held l d d' := by
  rw [planOf] at h
  rw [Settled]
  cases hout : outcome c held with
  | restored =>
    obtain ⟨⟨before, hbefore⟩, -⟩ := outcome_eq_restored hout
    simp only [hout, Plan.effect, Function.update_self] at h
    simp only [fileAt_of_file h, hbefore, Option.map_some, Option.getD_some]
  | removed => simpa only [hout, Plan.effect, Function.update_self] using h
  | alreadyRestored =>
    rw [hout] at h
    exact h
  | drifted found =>
    rw [hout] at h
    exact h

/-! ## Restoring -/

/-- A file that cannot be read holds back all others. -/
theorem exec_restore_unreadable {cause : Fs.Error} (hsorted : sorted cs = before ++ c :: after)
    (hsep : ∀ k ∈ cs, Distinguished root d k) (hbefore : ∀ k ∈ before, ∃ held, current root k.path d = .ok held)
    (hread : d.read (root.file c.path).location = .error cause) (hne : cause ≠ .notFound) :
    ((capture id cs now).restore root).exec d = (.error (.io (root.file c.path) cause), d) := by
  have hmem : ∀ k ∈ before, k ∈ cs := by
    intro k hk
    rw [← mem_sorted, hsorted]
    exact List.mem_append_left _ hk
  have hplans := planAll_unreadable id after (fun k hk => hsep k (hmem k hk)) hbefore hread hne
  rw [← hsorted, ← files_capture id cs now] at hplans
  rw [restore_eq, exec_bind_ok (a := ()) (t := d), exec_bind_error (e := .io (root.file c.path) cause) (t := d)]
  · rw [exec_query]
    exact congrArg (·, d) hplans
  · rw [exec_query, verifyIntegrity]
    simp [capture]

/-- **A drifted file holds back no other, if it can be read.** For captures of different files, where no name belongs to a
temporary file: the first of them that cannot be read is told, and nothing is restored. If all can be read and there is
room for the temporary files, those that hold what the cycle wrote are restored, and the others are left as they are. -/
theorem restore_readable (hproper : ∀ c ∈ cs, c.path.Proper) (hnodup : (cs.map Capture.path).Nodup)
    (hclean : NoTemporary d) (hsep : ∀ c ∈ cs, Distinguished root d c) (id : CycleId) (now : Time) :
    (∀ before c after cause, sorted cs = before ++ c :: after →
      (∀ k ∈ before, ∃ held, current root k.path d = .ok held) →
      d.read (root.file c.path).location = .error cause → cause ≠ .notFound →
        ((capture id cs now).restore root).exec d = (.error (.io (root.file c.path) cause), d)) ∧
    ∀ held : Capture → Option ByteArray, (∀ c ∈ cs, current root c.path d = .ok (held c)) →
      (∀ c ∈ cs, outcome c (held c) = .restored → TemporaryFits (root.file c.path)) →
        ∃ d', ((capture id cs now).restore root).exec d =
            (.ok ⟨id, (sorted cs).map fun c => (c.path, outcome c (held c))⟩, d') ∧
          (∀ c ∈ cs, Settled c (held c) (c.path.below root) d d') ∧
          ∀ m, (∀ c ∈ cs, m ≠ c.path.below root) → d'.node? m = d.node? m := by
  refine ⟨fun before c after cause hsorted hbefore hread hne =>
    exec_restore_unreadable hsorted hsep hbefore hread hne, fun held hheld hfits => ?_⟩
  have hplans := planAll_readable id (fun c hc => hsep c (mem_sorted.mp hc)) fun c hc => hheld c (mem_sorted.mp hc)
  rw [← files_capture id cs now] at hplans
  have hpaths : ∀ e ∈ (capture id cs now).files, e.path.Proper := by
    intro e he
    rw [files_capture] at he
    obtain ⟨c, hc, rfl⟩ := List.mem_map.mp he
    exact hproper c (mem_sorted.mp hc)
  rcases exec_restore_cases root hpaths hclean with
    ⟨hdamaged, -⟩ | ⟨-, r, d', plans, done, rest, hrun, hplans', -, -, hsplit, hview, hcase⟩
  · -- no entry of captures that can be read is faulty
    refine absurd hdamaged ?_
    rintro (hdamaged | ⟨e, he, hfaulty⟩)
    · exact hdamaged rfl
    · rcases planAll_cases root id d (capture id cs now).files with ⟨-, hsound⟩ | ⟨⟨cause, hcause⟩, -⟩
      · exact hsound e he hfaulty
      · cases hplans.symm.trans hcause
  obtain rfl := Except.ok.inj (hplans'.symm.trans hplans)
  rcases hcase with ⟨rfl, rfl⟩ | ⟨⟨x, hx, ⟨content, hwrite⟩, hunfit⟩, -⟩
  swap
  · obtain ⟨c, hc, rfl⟩ := List.mem_map.mp hx
    have hc' := mem_sorted.mp hc
    exact absurd (hfits c hc' (outcome_of_write hwrite)) hunfit
  rw [List.append_nil] at hsplit
  subst hsplit
  have hnodup' : (((sorted cs).map fun c => (Entry.ofCapture c, planOf c (held c))).map fun x => x.1.path).Nodup := by
    rw [List.map_map]
    exact ((List.mergeSort_perm cs _).map Capture.path).nodup_iff.mpr hnodup
  refine ⟨d', ?_, fun c hc => settled_of_effect ?_, fun m hm => ?_⟩
  · rw [hrun, List.map_map]
    simp only [Function.comp_def, told_planOf]
    rfl
  · rw [hview]
    exact afterAll_of_mem root hnodup' (List.mem_map_of_mem (mem_sorted.mpr hc)) d.node?
  · rw [hview, afterAll_of_ne root fun x hx => ?_]
    obtain ⟨c, hc, rfl⟩ := List.mem_map.mp hx
    exact hm c (mem_sorted.mp hc)

/-! ### Two files -/

theorem distinguished_edit (name : String) (d : Disk)
    (hread : ∀ held, current folderRoot ⟨[name]⟩ d = .ok held → held = none ∨ held = some "y\n".toUTF8) :
    Distinguished folderRoot d (edit name) := by
  intro held hheld
  have hboth := separated_edit name
  rcases hread held hheld with rfl | rfl
  · have hsub : ∀ x ∈ contents (edit name) none, x ∈ contents (edit name) (some "y\n".toUTF8) := by
      intro x hx
      simp only [contents, List.mem_append, List.mem_cons] at hx ⊢
      tauto
    exact fun x hx y hy => hboth x (hsub x hx) y (hsub y hy)
  · exact hboth

theorem sorted_edits : sorted [edit "a", edit "b"] = [edit "a", edit "b"] :=
  List.mergeSort_of_pairwise (by decide)

/-- A file that is missing does not hold back the other. -/
theorem restore_readable_missing :
    (∀ c ∈ [edit "a", edit "b"], c.path.Proper) ∧ ([edit "a", edit "b"].map Capture.path).Nodup ∧
      NoTemporary (folder [("b", "y\n")]) ∧
      (∀ c ∈ [edit "a", edit "b"], Distinguished folderRoot (folder [("b", "y\n")]) c) ∧
      ∃ d', ((capture default [edit "a", edit "b"] default).restore folderRoot).exec (folder [("b", "y\n")]) =
          (.ok ⟨default, [(⟨["a"]⟩, .drifted none), (⟨["b"]⟩, .restored)]⟩, d') ∧
        d'.fileAt ["w", "b"] = some "x\n".toUTF8 := by
  have ha : current folderRoot ⟨["a"]⟩ (folder [("b", "y\n")]) = .ok none := rfl
  have hb : current folderRoot ⟨["b"]⟩ (folder [("b", "y\n")]) = .ok (some "y\n".toUTF8) := rfl
  have hproper : ∀ c ∈ [edit "a", edit "b"], c.path.Proper := by
    simp only [List.mem_cons, List.not_mem_nil, or_false, forall_eq_or_imp, forall_eq]
    exact ⟨RelPath.proper_name (by decide) (by decide), RelPath.proper_name (by decide) (by decide)⟩
  have hnodup : ([edit "a", edit "b"].map Capture.path).Nodup := by decide
  have hclean : NoTemporary (folder [("b", "y\n")]) := noTemporary_of_entries (by decide)
  have hsep : ∀ c ∈ [edit "a", edit "b"], Distinguished folderRoot (folder [("b", "y\n")]) c := by
    simp only [List.mem_cons, List.not_mem_nil, or_false, forall_eq_or_imp, forall_eq]
    refine ⟨distinguished_edit "a" _ fun held h => .inl ?_, distinguished_edit "b" _ fun held h => .inr ?_⟩
    · exact (Except.ok.inj (ha.symm.trans h)).symm
    · exact (Except.ok.inj (hb.symm.trans h)).symm
  have hfits : TemporaryFits (folderRoot.file ⟨["b"]⟩) := ⟨by decide +kernel, by decide +kernel⟩
  obtain ⟨-, hrestore⟩ := restore_readable hproper hnodup hclean hsep default default
  let held (c : Capture) : Option ByteArray := if c.path = ⟨["a"]⟩ then none else some "y\n".toUTF8
  obtain ⟨d', hrun, hsettled, -⟩ := hrestore held
    (by simpa [held, edit] using ⟨ha, hb⟩) (by simpa [held, edit, outcome] using fun _ => hfits)
  have hfirst : held (edit "a") = none := if_pos rfl
  have hsecond : held (edit "b") = some "y\n".toUTF8 := if_neg (by decide)
  refine ⟨hproper, hnodup, hclean, hsep, d', ?_, ?_⟩
  · rw [hrun, sorted_edits, List.map_cons, List.map_cons, List.map_nil, hfirst, hsecond, outcome_edit]
    rfl
  · have hwritten := hsettled (edit "b") (by simp)
    simp only [Settled, hsecond, outcome_edit] at hwritten
    exact hwritten

/-- A directory stands in the place of the first file. -/
def blocked : Disk := ⟨[("w", .dir [("a", .dir []), ("b", .file "y\n".toUTF8 newMode)])]⟩

/-- The other file holds what the cycle wrote, and is not restored. -/
theorem nothing_restored_blocked :
    ([edit "a", edit "b"].map Capture.path).Nodup ∧ blocked.node? ["w", "a"] = some .dir ∧
      blocked.fileAt ["w", "b"] = some "y\n".toUTF8 ∧
      ((capture default [edit "a", edit "b"] default).restore folderRoot).exec blocked =
        (.error (.io (folderRoot.file ⟨["a"]⟩) .isDirectory), blocked) := by
  have ha : blocked.read (folderRoot.file ⟨["a"]⟩).location = .error .isDirectory := rfl
  have hb : current folderRoot ⟨["b"]⟩ blocked = .ok (some "y\n".toUTF8) := rfl
  refine ⟨by decide, rfl, rfl, ?_⟩
  have hsorted : sorted [edit "a", edit "b"] = [] ++ edit "a" :: [edit "b"] := sorted_edits
  refine exec_restore_unreadable hsorted ?_ nofun ha nofun
  simp only [List.mem_cons, List.not_mem_nil, or_false, forall_eq_or_imp, forall_eq]
  refine ⟨distinguished_edit "a" _ fun held h => ?_, distinguished_edit "b" _ fun held h => .inr ?_⟩
  · rw [current_unreadable ha nofun] at h
    cases h
  · exact (Except.ok.inj (hb.symm.trans h)).symm

end Mend.Snapshot
