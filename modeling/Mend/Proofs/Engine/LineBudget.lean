import Mend.Proofs.Diff.Distance
import Mend.Proofs.Engine.Chaining

/-!
# The measured change and the budget of lines

Repairs that rewrite or delete one line each are selected by their number, but what they change is measured on the
diff of the whole file. That can be more (`prepare_refuses_equal_lines`): a line that was rewritten may now be equal
to another line of the file, so that the diff keeps this one in its place, and deletes at one place what it inserts
at another. With the rewritten lines counted twice the measured change is within the number of the repairs, as long
as the diff is walked with its table; beyond that, it is at most the lines from the first repair to the last one
(**`prepareFile_bounded`**).
-/

namespace Mend

/-- The recipe deletes the lines that it is for. -/
def Recipe.removes : Recipe → Bool
  | .removeLine _ _ _ => true
  | .trimBlanks => false
  | .substitution _ => false

namespace Batch

open Fs Action

variable {σ : Type} {g : Registry} {file : RelPath} {files : Recipe.Files} {fixes : List (Fix σ)} {f : Fix σ}
  {r : Recipe} {original raw edited : String} {before after : List String}

/-- Repairs of lines that are expected to change one line each, and make at most one line of their line. -/
structure OneLineFixes (g : Registry) (file : RelPath) (fixes : List (Fix σ)) (content : String) : Prop
    extends LineFixes g file fixes where
  estimate : ∀ f ∈ fixes, f.estimate = 1
  one : ∀ f ∈ fixes, ∀ r n raw body, Registry.find? g f.recipe = some r → f.issue.line.toNat = n + 1 →
    (Text.lines content)[n]? = some raw → r.editBody f.issue (Text.body raw) = .ok (some body) → '\n' ∉ body.toList

/-- How many of the repairs rewrite their line. -/
def rewrites (g : Registry) (fixes : List (Fix σ)) : Nat :=
  fixes.countP fun f => (Registry.find? g f.recipe).any fun r => !r.removes

/-- How many lines repairs of one line each can change: twice as many as are rewritten and as many as are deleted, if
the diff is walked with its table, and no more than there are from the first repair to the last one otherwise. -/
structure Bounded (g : Registry) (fixes : List (Fix σ)) (content : String) (changed : Nat) : Prop where
  single : fixes.length = 1 → changed ≤ 1
  walked : Diff.Fits (Text.lines content) (Text.lines (allAtOnce g fixes content)) →
    changed ≤ fixes.length + rewrites g fixes
  replaced : ¬ Diff.Fits (Text.lines content) (Text.lines (allAtOnce g fixes content)) →
    ∀ first last, (∀ f ∈ fixes, first ≤ f.issue.line.toNat ∧ f.issue.line.toNat ≤ last) → changed ≤ last + 1 - first

/-- The repairs that fit the budget when they are selected are as many as it has lines. -/
theorem OneLineFixes.budget (h : OneLineFixes g file fixes original) : Budget.lines fixes file = fixes.length := by
  have hall : fixes.filter (fun f => f.issue.file = file) = fixes :=
    List.filter_eq_self.mpr fun f hf => decide_eq_true (h.file f hf)
  have hone : fixes.map (fun f => f.estimate.toNat) = fixes.map fun _ => 1 :=
    List.map_congr_left fun f hf => by rw [h.estimate f hf]; rfl
  rw [Budget.lines, hall, hone]
  simp

/-! ## One line -/

/-- A repair edits one of the lines, and makes at most one line of it. -/
def EditsLine (g : Registry) (lines : List String) (f : Fix σ) : Prop :=
  ∃ r n raw edited, Registry.find? g f.recipe = some r ∧ f.issue.line.toNat = n + 1 ∧ lines[n]? = some raw ∧
    r.lineEdit f.issue raw = .ok edited ∧
    ∀ body, r.editBody f.issue (Text.body raw) = .ok (some body) → '\n' ∉ body.toList

theorem EditsLine.left (h : EditsLine g (before ++ after) f) (hle : f.issue.line.toNat ≤ before.length) :
    EditsLine g before f := by
  obtain ⟨r, n, raw, edited, hfind, hline, hraw, hrest⟩ := h
  rw [List.getElem?_append_left (by omega)] at hraw
  exact ⟨r, n, raw, edited, hfind, hline, hraw, hrest⟩

/-- What works on its own edits its line. -/
theorem OneLineFixes.editsLine (h : OneLineFixes g file fixes original) (hread : files file = .ok original)
    (hf : f ∈ fixes) (hworks : Works g files f) : EditsLine g (Text.lines original) f := by
  obtain ⟨r, hfind, hscope, -⟩ := h.recipe f hf
  obtain ⟨r', p, hfind', hpatch⟩ := hworks
  obtain rfl := Option.some.inj (hfind.symm.trans hfind')
  have hown : files f.issue.file = .ok original := h.file f hf ▸ hread
  by_cases hline : f.issue.line.toNat = 0 ∨ (Text.lines original).length < f.issue.line.toNat
  · rw [Recipe.patch_outOfRange hscope hown hline] at hpatch
    cases hpatch
  · rw [not_or, Nat.not_lt] at hline
    obtain ⟨first, raw, rest, hlines, hfirst⟩ := exists_line hline.1 hline.2
    rw [Recipe.patch_of_line hscope hown hlines hfirst] at hpatch
    have hraw : (Text.lines original)[first.length]? = some raw := by simp [hlines]
    cases hedit : r.lineEdit f.issue raw with
    | error e =>
      rw [hedit] at hpatch
      cases hpatch
    | ok edited =>
      exact ⟨r, first.length, raw, edited, hfind, hfirst, hraw, hedit,
        fun body => h.one f hf r first.length raw body hfind hfirst hraw⟩

/-- What is left of an edited line is a line, or nothing. -/
theorem edits_of_lineEdit (hedit : r.lineEdit f.issue raw = .ok edited)
    (hone : ∀ body, r.editBody f.issue (Text.body raw) = .ok (some body) → '\n' ∉ body.toList) :
    ∃ rewritten ys, Diff.Edits 1 rewritten [raw] ys ∧ String.join ys = edited ∧
      rewritten ≤ if r.removes then 0 else 1 := by
  rw [Recipe.lineEdit] at hedit
  split at hedit
  · cases hedit
  next body hbody =>
  split at hedit
  · cases hedit
  obtain rfl := Except.ok.inj hedit
  have hdelete : Diff.Edits 1 0 [raw] [] := Diff.Edits.nil.delete raw
  cases body with
  | none => exact ⟨0, [], hdelete, rfl, Nat.zero_le _⟩
  | some body =>
    have hkeeps : r.removes = false := by
      cases r with
      | trimBlanks | substitution => rfl
      | removeLine id category guard =>
        rw [Recipe.editBody] at hbody
        split at hbody <;> cases hbody
    have hfeed := hone body hbody
    rw [hkeeps]
    by_cases hempty : replaceBody raw (some body) = ""
    · exact ⟨0, [], hdelete, by rw [hempty, String.join_nil], Nat.zero_le _⟩
    · refine ⟨1, [replaceBody raw (some body)], Diff.Edits.nil.rewrite ?_ ?_, by simp, Nat.le_refl _⟩
      · exact fun h => h.append_terminator hfeed
      · intro h
        rw [replaceBody, Text.terminator_of_loose h, String.append_empty] at hempty ⊢
        exact ⟨hempty, hfeed⟩

/-! ## All lines -/

/-- Repairs that all come after the first `front` lines edit as many lines as they are. -/
theorem exists_edits (front : Nat) (hdescending : fixes.Pairwise fun a b => b.issue.line.toNat < a.issue.line.toNat)
    (hedits : ∀ f ∈ fixes, EditsLine g before f) (hfront : ∀ f ∈ fixes, front < f.issue.line.toNat) :
    ∃ rewritten ys, Diff.Edits fixes.length rewritten (before.drop front) ys ∧ rewritten ≤ rewrites g fixes ∧
      String.join (before.mapIdx (lineAfter g fixes)) = String.join (before.take front) ++ String.join ys := by
  induction fixes generalizing before with
  | nil =>
    have hsame : before.mapIdx (lineAfter g ([] : List (Fix σ))) = before :=
      mapIdx_eq_self fun n raw => lineAfter_of_not_flagged nofun
    refine ⟨0, before.drop front, .refl _, Nat.zero_le _, ?_⟩
    rw [hsame, ← String.join_append, List.take_append_drop]
  | cons f fixes ih =>
    rw [List.pairwise_cons] at hdescending
    rw [List.forall_mem_cons] at hedits hfront
    obtain ⟨⟨r, n, raw, edited, hfind, hline, hraw, hedit, hone⟩, hedits⟩ := hedits
    obtain ⟨hn, rfl⟩ := List.getElem?_eq_some_iff.mp hraw
    obtain ⟨first, raw, mid, rfl, hfirst⟩ := exists_line (Nat.succ_ne_zero n) hn
    obtain rfl : n = first.length := Nat.succ.inj hfirst
    simp only [List.getElem_append_right (Nat.le_refl _), Nat.sub_self, List.getElem_cons_zero] at hedit hone
    have hlow : ∀ k ∈ fixes, k.issue.line.toNat ≤ first.length := by
      intro k hk
      have := hdescending.1 k hk
      omega
    obtain ⟨rewritten, ys, hys, hle, hjoin⟩ := ih hdescending.2 (fun k hk => (hedits k hk).left (hlow k hk)) hfront.2
    obtain ⟨rewritten', zs, hzs, hedited, hle'⟩ := edits_of_lineEdit hedit hone
    have hreach : front ≤ first.length := by omega
    refine ⟨rewritten + rewritten', ys ++ (zs ++ mid), ?_, ?_, ?_⟩
    · rw [List.drop_append_of_le_length hreach]
      have hall := hys.append (hzs.append (.refl mid))
      exact hall
    · have hcount : rewrites g (f :: fixes) = rewrites g fixes + if r.removes then 0 else 1 := by
        rw [rewrites, List.countP_cons, hfind, rewrites]
        cases hr : r.removes <;> simp [hr]
      omega
    · rw [mapIdx_lineAfter_cons hfind hline hlow hedit, List.take_append_of_le_length hreach]
      simp only [String.join_append, String.join_cons, hjoin, hedited, String.append_assoc]

/-- The lines before the first repair and after the last one stay, and those between them are edited. -/
theorem OneLineFixes.exists_between (h : OneLineFixes g file fixes original) (hread : files file = .ok original)
    (hworks : ∀ f ∈ fixes, Works g files f) (first last : Nat)
    (hrange : ∀ f ∈ fixes, first ≤ f.issue.line.toNat ∧ f.issue.line.toNat ≤ last) :
    ∃ front mid mid' back rewritten, Text.lines original = front ++ (mid ++ back) ∧
      Text.lines (allAtOnce g fixes original) = front ++ (mid' ++ back) ∧
      Diff.Edits fixes.length rewritten mid mid' ∧ rewritten ≤ rewrites g fixes ∧ mid.length ≤ last + 1 - first := by
  let before := (Text.lines original).take last
  let back := (Text.lines original).drop last
  have hlines : Text.lines original = before ++ back := (List.take_append_drop _ _).symm
  have hperm := List.mergeSort_perm fixes chainsBefore
  have hmem {f : Fix σ} (hf : f ∈ fixes.mergeSort chainsBefore) : f ∈ fixes := hperm.mem_iff.mp hf
  have hedits : ∀ f ∈ fixes, EditsLine g before f ∧ 0 < f.issue.line.toNat ∧ f.issue.line.toNat ≤ before.length := by
    intro f hf
    have hedit := h.editsLine hread hf (hworks f hf)
    have ⟨_, n, _, _, _, hline, hraw, _⟩ := hedit
    have hn := (List.getElem?_eq_some_iff.mp hraw).1
    have hle : f.issue.line.toNat ≤ before.length := by
      have := hrange f hf
      rw [List.length_take]
      omega
    rw [hlines] at hedit
    exact ⟨hedit.left hle, by omega, hle⟩
  obtain ⟨rewritten, ys, hys, hle, hjoin⟩ := exists_edits (first - 1) h.descending
    (fun f hf => (hedits f (hmem hf)).1) fun f hf => by
      have := hrange f (hmem hf)
      have := hedits f (hmem hf)
      omega
  have hback : back.mapIdx (fun n => lineAfter g (fixes.mergeSort chainsBefore) (n + before.length)) = back := by
    refine mapIdx_eq_self fun n raw => lineAfter_of_not_flagged fun f hf => ?_
    have := hedits f (hmem hf)
    omega
  have hall : allAtOnce g fixes original = String.join (before.take (first - 1) ++ (ys ++ back)) := by
    rw [← allAtOnce_perm h.toLineFixes hperm, allAtOnce, hlines, List.mapIdx_append, hback]
    simp only [String.join_append, hjoin, String.append_assoc]
  have hsplit : Text.lines original = before.take (first - 1) ++ (before.drop (first - 1) ++ back) := by
    rw [← List.append_assoc, List.take_append_drop, hlines]
  rw [hperm.length_eq] at hys
  rw [show rewrites g (fixes.mergeSort chainsBefore) = rewrites g fixes from hperm.countP_eq _] at hle
  refine ⟨_, _, _, _, rewritten, hsplit, ?_, hys, hle, ?_⟩
  · have hlined := Text.lined_lines original
    rw [hsplit] at hlined
    rw [hall]
    exact Text.lines_join (((Diff.Edits.refl _).append (hys.append (.refl back))).lined hlined)
  · simp only [before, List.length_drop, List.length_take]
    omega

/-- Repairs of one line each change no more lines than are allowed for. -/
theorem OneLineFixes.bounded (h : OneLineFixes g file fixes original) (hread : files file = .ok original)
    (hworks : ∀ f ∈ fixes, Works g files f) : Bounded g fixes original (measured g fixes original).toNat := by
  have hclamped : (measured g fixes original).toNat ≤
      (Diff.ofLines (Text.lines original) (Text.lines (allAtOnce g fixes original))).changedLines := by
    rw [measured, Count.toNat_ofNatClamped]
    exact Nat.min_le_left _ _
  refine ⟨fun hsingle => hclamped.trans ?_, fun hfits => hclamped.trans ?_, fun hlarge first last hrange => hclamped.trans ?_⟩
  · obtain ⟨f, rfl⟩ := List.length_eq_one_iff.mp hsingle
    obtain ⟨front, mid, mid', back, rewritten, hx, hy, hedits, -, hlength⟩ :=
      h.exists_between hread hworks f.issue.line.toNat f.issue.line.toNat (by simp)
    have hone : mid.length ≤ 1 := by omega
    have hdiffering := Diff.length_differing_le front back hedits.length_le
    rw [← hx, ← hy] at hdiffering
    exact Diff.changedLines_le_one (hdiffering.1.trans hone) (hdiffering.2.trans (hedits.length_le.trans hone))
  · obtain ⟨front, mid, mid', back, rewritten, hx, hy, hedits, hle, -⟩ :=
      h.exists_between hread hworks 0 UInt32.size fun f _ => ⟨Nat.zero_le _, (UInt32.toNat_lt _).le⟩
    have hall := (Diff.Edits.refl front).append (hedits.append (.refl back))
    rw [← hx, ← hy] at hall
    have hchanged := hall.changedLines_le hfits
    omega
  · obtain ⟨front, mid, mid', back, rewritten, hx, hy, hedits, -, hlength⟩ := h.exists_between hread hworks first last hrange
    have hdiffering := Diff.length_differing_le front back hedits.length_le
    rw [← hx, ← hy] at hdiffering
    rw [Diff.changedLines_of_not_fits hlarge]
    have hmid := hedits.length_le
    omega

/-! ## The budget -/

/-- Past a deadline nothing is prepared. -/
theorem prepareFile_late (hread : files file = .ok original) (maxLines : Count) (e : Engine.Error) :
    prepareFile g maxLines files (.error e) file fixes = .ok none ∨
      prepareFile g maxLines files (.error e) file fixes = .error e := by
  rw [prepareFile]
  cases fixes.mergeSort chainsBefore with
  | nil => exact .inl rfl
  | cons f rest => exact .inr (by rw [hread]; rfl)

/-- **Act measures at most twice the rewritten lines and once the deleted ones.** For repairs that make at most one
line of their line this holds of the new content that is prepared as well as of the one that is refused, as long as
the diff is walked with its table. So what fits the budget of lines with the rewritten lines counted twice is not
refused for it, and neither is a single repair that fits. -/
theorem prepareFile_bounded (h : OneLineFixes g file fixes original) (hread : files file = .ok original)
    (maxLines : Count) (deadline : Option Deadline) (clock : Nat) :
    let run := prepareFile g maxLines files (checkDeadline deadline clock) file fixes
    (∀ p, run = .ok (some p) → Bounded g fixes original p.changed.toNat) ∧
    (∀ n limit, run = .error (.budgetExceeded file n limit) → Bounded g fixes original n.toNat) ∧
    (Diff.Fits (Text.lines original) (Text.lines (allAtOnce g fixes original)) →
      Budget.lines fixes file + rewrites g fixes ≤ maxLines.toNat →
      ∀ n limit, run ≠ .error (.budgetExceeded file n limit)) ∧
    (fixes.length = 1 → Budget.lines fixes file ≤ maxLines.toNat →
      ∀ n limit, run ≠ .error (.budgetExceeded file n limit)) := by
  intro run
  have hrun : (∀ p, run = .ok (some p) → Bounded g fixes original p.changed.toNat) ∧
      ∀ n limit, run = .error (.budgetExceeded file n limit) → Bounded g fixes original n.toNat ∧ maxLines < n := by
    cases hdeadline : checkDeadline deadline clock with
    | error e =>
      have htimeout : ∃ phase seconds, e = .timeout phase seconds := by
        cases deadline with
        | none => cases hdeadline
        | some d =>
          rw [checkDeadline, Deadline.check] at hdeadline
          split at hdeadline
          · exact ⟨_, _, (Except.error.inj hdeadline).symm⟩
          · cases hdeadline
      obtain ⟨phase, seconds, rfl⟩ := htimeout
      have hlate : run = .ok none ∨ run = .error (.timeout phase seconds) := by
        simp only [run, hdeadline]
        exact prepareFile_late hread maxLines _
      rcases hlate with hlate | hlate <;> rw [hlate] <;> exact ⟨nofun, nofun⟩
    | ok =>
      have hmade := prepareFile_lines h.toLineFixes hread maxLines
      simp only [run, hdeadline]
      generalize prepareFile g maxLines files (.ok ()) file fixes = result at hmade
      cases result with
      | ok made =>
        obtain ⟨hworks, -, hsome⟩ := hmade
        refine ⟨fun p hp => ?_, nofun⟩
        obtain rfl := Except.ok.inj hp
        rw [(hsome p rfl).2.2.2.1]
        exact h.bounded hread hworks
      | error e =>
        refine ⟨nofun, fun n limit he => ?_⟩
        obtain rfl := Except.error.inj he
        rcases hmade with ⟨f, -, r, own, cause, -, -, he, -⟩ | ⟨hworks, hlarge, he⟩
        · cases he
        · injection he with _ hn _
          rw [hn]
          exact ⟨h.bounded hread hworks, hlarge⟩
  obtain ⟨hprepared, hrefused⟩ := hrun
  refine ⟨hprepared, fun n limit hrun => (hrefused n limit hrun).1, fun hfits hbudget n limit hrun => ?_,
    fun hsingle hbudget n limit hrun => ?_⟩
  · obtain ⟨hbounded, hlarge⟩ := hrefused n limit hrun
    have hchanged := hbounded.walked hfits
    rw [h.budget] at hbudget
    exact absurd (UInt32.lt_iff_toNat_lt.mp hlarge) (by omega)
  · obtain ⟨hbounded, hlarge⟩ := hrefused n limit hrun
    have hchanged := hbounded.single hsingle
    rw [h.budget] at hbudget
    exact absurd (UInt32.lt_iff_toNat_lt.mp hlarge) (by omega)

/-- Only blanks are taken off. -/
def trimming : Registry := [("trailing-whitespace", .trimBlanks)]

/-- A file with four lines. The first one and the last one end in a blank. -/
def fourLines : Recipe.Files := fun _ => .ok "c \nc\nc\nd \n"

/-- The repairs of the first line and the last one. -/
def blanks : List (Fix Nat) :=
  let fix (id : String) (line : Count) : Fix Nat :=
    ⟨⟨id, ⟨["a"]⟩, line, none, .low, "whitespace", "", true, none⟩, "trailing-whitespace", 0, .line line, 1⟩
  [fix "1" 1, fix "2" 4]

theorem find_trimming : Registry.find? trimming "trailing-whitespace" = some .trimBlanks := by
  simp [trimming, Registry.find?, Ordered.get?]

theorem oneLineFixes_blanks :
    OneLineFixes trimming ⟨["a"]⟩ blanks "c \nc\nc\nd \n" := by
  refine ⟨⟨by simp [blanks], by simp [blanks, find_trimming, Recipe.wholeFile?, Recipe.span], by decide⟩, by decide, ?_⟩
  intro f hf r n raw body hfind hline hraw hbody
  have hbody : body = String.ofList (Text.dropEndWhile Recipe.isLineBlank (Text.body raw).toList) := by
    simp only [blanks, List.mem_cons, List.not_mem_nil, or_false] at hf
    rcases hf with rfl | rfl <;> rw [find_trimming] at hfind <;> obtain rfl := Option.some.inj hfind <;>
      exact (Option.some.inj (Except.ok.inj hbody)).symm
  have hlines : ∀ raw ∈ Text.lines "c \nc\nc\nd \n",
      '\n' ∉ Text.dropEndWhile Recipe.isLineBlank (Text.body raw).toList := by decide +kernel
  rw [hbody, String.toList_ofList]
  exact hlines raw (List.mem_of_getElem? hraw)

theorem works_blanks : ∀ f ∈ blanks, Works trimming fourLines f := by
  have hfirst : Text.lines "c \nc\nc\nd \n" = [] ++ "c \n" :: ["c\n", "c\n", "d \n"] := by decide +kernel
  have hlast : Text.lines "c \nc\nc\nd \n" = ["c \n", "c\n", "c\n"] ++ "d \n" :: [] := by decide +kernel
  have hedit (i : Issue) : Recipe.trimBlanks.lineEdit i "c \n" = .ok "c\n" := by rfl
  have hedit' (i : Issue) : Recipe.trimBlanks.lineEdit i "d \n" = .ok "d\n" := by rfl
  rintro f (_ | ⟨_, _ | ⟨_, hf⟩⟩)
  · exact works_of_line find_trimming rfl rfl hfirst rfl (hedit _)
  · exact works_of_line find_trimming rfl rfl hlast rfl (hedit' _)
  · cases hf

/-- The first line is made equal to the two lines after it, which the diff keeps as the first two: it deletes one line
before them, and rewrites one line and inserts another after them. -/
theorem prepareFile_refuses_equal_lines :
    OneLineFixes trimming ⟨["a"]⟩ blanks "c \nc\nc\nd \n" ∧
    Budget.lines blanks ⟨["a"]⟩ = 2 ∧
    prepareFile trimming 2 fourLines (.ok ()) ⟨["a"]⟩ blanks =
      .error (.budgetExceeded ⟨["a"]⟩ 3 2) := by
  have hmeasured : measured trimming blanks "c \nc\nc\nd \n" = 3 := by decide +kernel
  have hread : fourLines ⟨["a"]⟩ = .ok "c \nc\nc\nd \n" := rfl
  refine ⟨oneLineFixes_blanks, oneLineFixes_blanks.budget, ?_⟩
  have hmade := prepareFile_lines oneLineFixes_blanks.toLineFixes hread 2
  rw [hmeasured] at hmade
  split at hmade
  · next made hrun =>
    obtain ⟨-, hnone, hsome⟩ := hmade
    cases made with
    | none => exact absurd (hnone.mp rfl) (by decide +kernel)
    | some p =>
      obtain ⟨-, -, -, hchanged, hle⟩ := hsome p rfl
      rw [hchanged] at hle
      exact absurd hle (by decide)
  · next e hrun =>
    rcases hmade with ⟨f, hf, hrefuses⟩ | ⟨-, -, rfl⟩
    · exact absurd (works_blanks f hf) hrefuses.not_works
    · exact hrun

/-- With two lines more the same repairs are not refused. -/
theorem prepareFile_bounded_equal_lines :
    OneLineFixes trimming ⟨["a"]⟩ blanks "c \nc\nc\nd \n" ∧
    ∀ n limit, prepareFile trimming 4 fourLines (checkDeadline none 0)
      ⟨["a"]⟩ blanks ≠ .error (.budgetExceeded ⟨["a"]⟩ n limit) := by
  have hread : fourLines ⟨["a"]⟩ = .ok "c \nc\nc\nd \n" := rfl
  have hfits : Diff.Fits (Text.lines "c \nc\nc\nd \n")
      (Text.lines (allAtOnce trimming blanks "c \nc\nc\nd \n")) := by decide +kernel
  have hbudget : Budget.lines blanks ⟨["a"]⟩ + rewrites trimming blanks ≤ (4 : Count).toNat := by
    decide +kernel
  exact ⟨oneLineFixes_blanks, (prepareFile_bounded oneLineFixes_blanks hread 4 none 0).2.2.1 hfits hbudget⟩

end Batch
end Mend
