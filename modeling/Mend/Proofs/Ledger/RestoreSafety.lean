import Mend.Proofs.Ledger.Planning

/-!
# Restoring any snapshot

A snapshot may come from anywhere: its digest may not fit, its entries may say what never was, and may be for one file.
Where no name belongs to a temporary file, restoring it changes nothing if it is damaged or any entry is faulty. However
it ends, a file that has changed held what an entry says that it would, and that entry says what it holds now
(**`restore_safe`**).
-/

namespace Mend.Snapshot

open Fs Fs.Disk Ledger
open Action

variable {root : Place} {d d' : Disk} {es : List Entry} {done rest plans : List (Entry × Plan)} {m : Location}

/-- A change of what stands at a location is backed by an entry: the file had the digest that the entry has for it after
the cycle, and it is gone as the entry has no digest for it before the cycle, or it has that digest. -/
def Backed (root : Place) (es : List Entry) (d d' : Disk) (m : Location) : Prop :=
  ∃ e ∈ es, m = e.path.below root ∧ (d.fileAt m).map Digest.content = some e.after ∧
    (d'.node? m = none ∧ e.before = none ∨
      ∃ content, d'.fileAt m = some content ∧ e.before = some (Digest.content content))

/-- Whichever of the plans are carried out, every change is backed. -/
theorem backed_of_afterAll (hproper : ∀ x ∈ done, x.1.path.Proper) (hplanned : ∀ x ∈ done, Planned root d x.1 x.2)
    (hview : d'.node? = afterAll root done d.node?) (m : Location) :
    d'.node? m = d.node? m ∨ Backed root (done.map Prod.fst) d d' m := by
  rw [hview]
  rcases afterAll_cases root done d.node? m with hkept | ⟨x, hx, rfl, hlast⟩
  · exact .inl hkept
  have hplan := hplanned x hx
  refine .inr ⟨x.1, List.mem_map_of_mem hx, rfl, ?_, ?_⟩
  · have hactive : x.2.Active := by
      rcases hlast with ⟨content, mode, hwrite, -⟩ | ⟨hremove, -⟩
      · exact hwrite ▸ trivial
      · exact hremove ▸ trivial
    obtain ⟨-, content, mode, hnode, hcontent⟩ := hplan.file (hproper x hx) hactive
    rw [fileAt_of_file hnode, Option.map_some, hcontent]
  · rcases hlast with ⟨content, mode, hwrite, hnode⟩ | ⟨hremove, hnode⟩
    · exact .inr ⟨_, fileAt_of_file (by rw [hview, hnode]), hplan.written content hwrite⟩
    · exact .inl ⟨by rw [hview, hnode], hplan.removed hremove⟩

/-- **Restoring is safe.** A snapshot whose digest does not fit, or with a faulty entry, is not restored at all. However
restoring ends, every change is backed by an entry. A snapshot whose digest fits, without a faulty entry, is restored if
there is room for the temporary files; every entry is reported. -/
theorem restore_safe (root : Place) {s : Snapshot} (hproper : ∀ e ∈ s.files, e.path.Proper) (hclean : NoTemporary d) :
    ((digestEntries s.files ≠ s.digest ∨ ∃ e ∈ s.files, Faulty root d e) →
      ∃ cause, (s.restore root).exec d = (.error cause, d)) ∧
    (∀ m, ((s.restore root).exec d).2.node? m = d.node? m ∨
      Backed root s.files d ((s.restore root).exec d).2 m) ∧
    (digestEntries s.files = s.digest → (∀ e ∈ s.files, ¬ Faulty root d e) →
      (∀ e ∈ s.files, TemporaryFits (root.file e.path)) →
      ∃ files, ((s.restore root).exec d).1 = .ok ⟨s.cycle, files⟩ ∧ files.map Prod.fst = s.files.map Entry.path) := by
  rcases exec_restore_cases root hproper hclean with
    ⟨hdamaged, cause, hrun⟩ | ⟨⟨hdigest, hsound⟩, r, d', plans, done, rest, hrun, -, hfst, hplanned, rfl, hview, hcase⟩
  · rw [hrun]
    refine ⟨fun _ => ⟨cause, rfl⟩, fun m => .inl rfl, fun hdigest hsound _ => ?_⟩
    rcases hdamaged with hdamaged | ⟨e, he, hfaulty⟩
    · exact absurd hdigest hdamaged
    · exact absurd hfaulty (hsound e he)
  · rw [hrun]
    refine ⟨?_, fun m => ?_, fun _ _ hfits => ?_⟩
    · rintro (hdamaged | ⟨e, he, hfaulty⟩)
      · exact absurd hdigest hdamaged
      · exact absurd hfaulty (hsound e he)
    · have hdone : ∀ x ∈ done, x.1 ∈ s.files := by
        intro x hx
        rw [← hfst]
        exact List.mem_map_of_mem (List.mem_append_left rest hx)
      refine (backed_of_afterAll (fun x hx => hproper _ (hdone x hx))
        (fun x hx => hplanned x (List.mem_append_left rest hx)) hview m).imp_right ?_
      rintro ⟨e, he, hbacked⟩
      obtain ⟨x, hx, rfl⟩ := List.mem_map.mp he
      exact ⟨x.1, hdone x hx, hbacked⟩
    · rcases hcase with ⟨rfl, rfl⟩ | ⟨⟨x, hx, -, hunfit⟩, -⟩
      · refine ⟨_, rfl, ?_⟩
        rw [← hfst, List.map_map, List.map_map]
        rfl
      · refine absurd (hfits x.1 ?_) hunfit
        rw [← hfst]
        exact List.mem_map_of_mem hx

/-- Two entries for one file: the first is as it was captured, and somebody has taken the diff out of the second. -/
def tampered : Snapshot :=
  let files := [Entry.ofCapture (edit "a"), { Entry.ofCapture (edit "a") with undo := ⟨[]⟩ }]
  ⟨default, files, digestEntries files, default⟩

theorem faulty_tampered : ∃ e ∈ tampered.files, Faulty folderRoot (folder [("a", "y\n")]) e := by
  have hdue : Due folderRoot (folder [("a", "y\n")]) { Entry.ofCapture (edit "a") with undo := ⟨[]⟩ } "y\n" := by
    refine ⟨rfl, by rw [Entry.ofCapture, edit], nofun, ?_⟩
    have hne : digestOf "x\n" ≠ digestOf "y\n" := by decide +kernel
    exact fun heq => hne (Option.some.inj heq)
  refine ⟨_, List.mem_cons_of_mem _ List.mem_cons_self, .unapplied "y\n" hdue (.trailingLines 0 1) ?_⟩
  decide

/-- The first of the entries could be restored, and is not. -/
theorem restore_safe_tampered :
    (∀ e ∈ tampered.files, e.path.Proper) ∧ NoTemporary (folder [("a", "y\n")]) ∧
      digestEntries tampered.files = tampered.digest ∧
      ∃ cause, (tampered.restore folderRoot).exec (folder [("a", "y\n")]) = (.error cause, folder [("a", "y\n")]) := by
  have hproper : ∀ e ∈ tampered.files, e.path.Proper := by
    intro e he
    simp only [tampered, List.mem_cons, List.not_mem_nil, or_false] at he
    rcases he with rfl | rfl
    all_goals exact RelPath.proper_name (by decide) (by decide)
  have hclean : NoTemporary (folder [("a", "y\n")]) := noTemporary_of_entries (by decide)
  obtain ⟨hdamaged, -, -⟩ := restore_safe folderRoot hproper hclean
  exact ⟨hproper, hclean, rfl, hdamaged (.inr faulty_tampered)⟩

end Mend.Snapshot
