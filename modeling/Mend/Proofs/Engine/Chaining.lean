import Mend.Proofs.Engine.Batch
import Mend.Proofs.Engine.Selection
import Mend.Proofs.Recipe.LineEdit

/-!
# Chained repairs of lines

The repairs of a file are chained, each on the content that the ones before it left. Where each is for a line of
its own, this is as good as editing all of these lines at once in the original (**`prepare_lines`**): no repair is
refused that would not be refused alone, and the order in which the repairs are given does not matter.

The repairs are chained from the last line up. The invariant (`Unmoved`) is that the content still begins with
the lines of the original that the repairs to come are for; what stands after them may have become more lines or
less. A repair edits the last of these lines that is flagged, and the lines before it are the ones of the
invariant for the next one (`Unmoved.edit`).
-/

namespace Mend.Batch

open Fs Action

variable {σ : Type} {g : Registry} {file : RelPath} {files : Recipe.Files} {fixes : List (Fix σ)} {f : Fix σ}
  {r : Recipe} {original content rest raw edited : String} {before after : List String}

/-- Repairs of one file that can be selected together, each for a line. -/
structure LineFixes (g : Registry) (file : RelPath) (fixes : List (Fix σ)) : Prop where
  file : ∀ f ∈ fixes, f.issue.file = file
  recipe : ∀ f ∈ fixes, ∃ r, Registry.find? g f.recipe = some r ∧ r.wholeFile? = none ∧ f.span = r.span f.issue
  apart : fixes.Pairwise fun a b => a.conflicts b = false

/-- A repair can be made on its own: its recipe has a patch for its issue. -/
def Works (g : Registry) (files : Recipe.Files) (f : Fix σ) : Prop :=
  ∃ r p, Registry.find? g f.recipe = some r ∧ r.patch f.issue files = .ok p

/-- A failure tells that a repair cannot be made on its own, and why. There is no line zero, whatever the number of
lines is that the failure gives. -/
def Refuses (g : Registry) (files : Recipe.Files) (f : Fix σ) (e : Engine.Error) : Prop :=
  ∃ r own cause, Registry.find? g f.recipe = some r ∧ r.patch f.issue files = .error own ∧
    e = .patchGeneration f.recipe f.issue.id cause ∧ (f.issue.line ≠ 0 → cause = own) ∧
    ∀ id fault, cause ≠ .invalidRecipe id fault

theorem Refuses.not_works {e : Engine.Error} (h : Refuses g files f e) : ¬ Works g files f := by
  rintro ⟨r, p, hfind, hpatch⟩
  obtain ⟨r', own, -, hfind', hown, -⟩ := h
  obtain rfl := Option.some.inj (hfind.symm.trans hfind')
  cases hpatch.symm.trans hown

theorem Refuses.ne_invalidRecipe {e : Engine.Error} (h : Refuses g files f e) (recipe issue id : String)
    (fault : Recipe.Fault) : e ≠ .patchGeneration recipe issue (.invalidRecipe id fault) := by
  rintro rfl
  obtain ⟨-, -, cause, -, -, he, -, hcause⟩ := h
  injection he with _ _ he
  exact hcause id fault he.symm

/-- The line that takes the place of a line, counted from zero: its edit if a repair is for it, and else the line
itself. -/
def lineAfter (g : Registry) (fixes : List (Fix σ)) (n : Nat) (raw : String) : String :=
  match fixes.find? fun f => f.issue.line.toNat = n + 1 with
  | none => raw
  | some f =>
    match Registry.find? g f.recipe with
    | none => raw
    | some r => (r.lineEdit f.issue raw).toOption.getD raw

/-- A content with all repairs made at once. -/
def allAtOnce (g : Registry) (fixes : List (Fix σ)) (content : String) : String :=
  String.join ((Text.lines content).mapIdx (lineAfter g fixes))

/-- How many lines change when all repairs are made, as far as they can be counted. -/
def measured (g : Registry) (fixes : List (Fix σ)) (content : String) : Count :=
  Count.ofNatClamped (Diff.between content (allAtOnce g fixes content)).changedLines

/-! ## The lines of the repairs -/

theorem LineFixes.span (h : LineFixes g file fixes) (hf : f ∈ fixes) : f.span = .line f.issue.line := by
  obtain ⟨r, -, hscope, hspan⟩ := h.recipe f hf
  rw [hspan, Recipe.span_of_line hscope]

theorem LineFixes.tail (h : LineFixes g file (f :: fixes)) : LineFixes g file fixes :=
  ⟨fun k hk => h.file k (.tail _ hk), fun k hk => h.recipe k (.tail _ hk), h.apart.of_cons⟩

theorem LineFixes.perm {fixes' : List (Fix σ)} (h : LineFixes g file fixes) (hperm : fixes'.Perm fixes) :
    LineFixes g file fixes' where
  file f hf := h.file f (hperm.mem_iff.mp hf)
  recipe f hf := h.recipe f (hperm.mem_iff.mp hf)
  apart := (hperm.symm.pairwise_iff fun hab => (Fix.conflicts_comm _ _).trans hab).mp h.apart

/-- Repairs that do not conflict are for different lines. -/
theorem LineFixes.line_ne (h : LineFixes g file fixes) {a b : Fix σ} (ha : a ∈ fixes) (hb : b ∈ fixes)
    (hapart : a.conflicts b = false) : a.issue.line ≠ b.issue.line := by
  intro hline
  rw [Fix.conflicts, h.span ha, h.span hb, hline, h.file a ha, h.file b hb] at hapart
  simp [Span.overlaps, Span.line] at hapart

/-- The order of chaining. -/
def chainRank (a b : Fix σ) : Ordering :=
  (compare b.span.first a.span.first).then ((compare a.recipe b.recipe).then (compare a.issue.id b.issue.id))

instance : Std.TransCmp (chainRank : Fix σ → Fix σ → Ordering) :=
  inferInstanceAs (Std.TransCmp (compareLex (fun a b : Fix σ => compareOn (fun f => f.span.first) b a)
    (compareLex (compareOn Fix.recipe) (compareOn fun f => f.issue.id))))

/-- The last line comes first. -/
theorem LineFixes.descending (h : LineFixes g file fixes) :
    (fixes.mergeSort chainsBefore).Pairwise fun a b => b.issue.line.toNat < a.issue.line.toNat := by
  have hperm := List.mergeSort_perm fixes chainsBefore
  have hsorted : (fixes.mergeSort chainsBefore).Pairwise fun a b => chainsBefore a b = true :=
    List.pairwise_mergeSort (@bne_gt_trans _ chainRank _) (@bne_gt_total _ chainRank _) fixes
  have hs := h.perm hperm
  refine (hsorted.and hs.apart).imp_of_mem fun {a b} ha hb hab => ?_
  obtain ⟨hle, hapart⟩ := hab
  have hne := hs.line_ne ha hb hapart
  have hfirst : (compare b.span.first a.span.first).isLE = true := by
    rw [chainsBefore] at hle
    cases hcompare : compare b.span.first a.span.first with
    | lt | eq => rfl
    | gt =>
      rw [hcompare] at hle
      cases hle
  rw [hs.span ha, hs.span hb, Std.isLE_compare] at hfirst
  exact Nat.lt_of_le_of_ne hfirst fun heq => hne (UInt32.toNat_inj.mp heq).symm

/-- Sorting repairs that were given in another order gives the same list. -/
theorem LineFixes.sort_eq {fixes' : List (Fix σ)} (h : LineFixes g file fixes) (hperm : fixes'.Perm fixes) :
    fixes'.mergeSort chainsBefore = fixes.mergeSort chainsBefore := by
  have hall := ((List.mergeSort_perm fixes' chainsBefore).trans hperm).trans (List.mergeSort_perm fixes chainsBefore).symm
  exact hall.eq_of_pairwise (fun a b _ _ hab hba => absurd hab (Nat.lt_asymm hba)) (h.perm hperm).descending h.descending

/-! ## All at once -/

theorem lineAfter_of_not_flagged {n : Nat} (h : ∀ f ∈ fixes, f.issue.line.toNat ≠ n + 1) : lineAfter g fixes n raw = raw := by
  have hnone : fixes.find? (fun f => f.issue.line.toNat = n + 1) = none := by
    rw [List.find?_eq_none]
    exact fun f hf => by simpa using h f hf
  rw [lineAfter, hnone]

theorem lineAfter_cons_of_ne {n : Nat} (h : f.issue.line.toNat ≠ n + 1) :
    lineAfter g (f :: fixes) n raw = lineAfter g fixes n raw := by
  rw [lineAfter, List.find?_cons_of_neg (by simpa using h), lineAfter]

theorem lineAfter_cons_of_eq {n : Nat} (h : f.issue.line.toNat = n + 1) (hfind : Registry.find? g f.recipe = some r)
    (hedit : r.lineEdit f.issue raw = .ok edited) : lineAfter g (f :: fixes) n raw = edited := by
  rw [lineAfter, List.find?_cons_of_pos (by simpa using h)]
  simp only [hfind, hedit, Except.toOption, Option.getD_some]

theorem mapIdx_eq_self {α : Type} {change : Nat → α → α} {xs : List α} (h : ∀ n x, change n x = x) :
    xs.mapIdx change = xs :=
  List.ext_getElem (by simp) fun n _ _ => by rw [List.getElem_mapIdx, h]

/-- The last line that is flagged is edited, and the lines after it stay. -/
theorem mapIdx_lineAfter_cons (hfind : Registry.find? g f.recipe = some r) (hline : f.issue.line.toNat = before.length + 1)
    (hlow : ∀ k ∈ fixes, k.issue.line.toNat ≤ before.length) (hedit : r.lineEdit f.issue raw = .ok edited) :
    (before ++ raw :: after).mapIdx (lineAfter g (f :: fixes)) =
      before.mapIdx (lineAfter g fixes) ++ edited :: after := by
  have hbefore : before.mapIdx (lineAfter g (f :: fixes)) = before.mapIdx (lineAfter g fixes) :=
    List.mapIdx_eq_mapIdx_iff.mpr fun n hn => lineAfter_cons_of_ne (by omega)
  have hafter : after.mapIdx (fun n => lineAfter g (f :: fixes) (n + 1 + before.length)) = after := by
    refine mapIdx_eq_self fun n raw => lineAfter_of_not_flagged fun k hk => ?_
    rcases List.mem_cons.mp hk with rfl | hk
    · omega
    · have := hlow k hk
      omega
  rw [List.mapIdx_append, List.mapIdx_cons, hbefore, hafter, lineAfter_cons_of_eq (by omega) hfind hedit]

/-! ## One repair -/

/-- The content that a recipe is given in a chain. -/
def overlay (file : RelPath) (content : String) (files : Recipe.Files) : Recipe.Files :=
  fun p => if p = file then .ok content else files p

theorem applyFix_eq (hfind : Registry.find? g f.recipe = some r) :
    applyFix g file files content f =
      match r.patch f.issue (overlay file content files) with
      | .error e => .error (.patchGeneration f.recipe f.issue.id e)
      | .ok patch =>
        if patch.file ≠ file ∨ patch.before ≠ Digest.content content.toUTF8 then
          .error (.patchGeneration f.recipe f.issue.id (.invalidRecipe f.recipe (.otherContent patch.file)))
        else .ok patch.after := by
  rw [applyFix, hfind]
  simp only [Bool.or_eq_true, decide_eq_true_eq]
  rfl

theorem applyFix_of_line (hfind : Registry.find? g f.recipe = some r) (hscope : r.wholeFile? = none)
    (hfile : f.issue.file = file) (hlines : Text.lines content = before ++ raw :: after)
    (hline : f.issue.line.toNat = before.length + 1) :
    applyFix g file files content f =
      match r.lineEdit f.issue raw with
      | .error e => .error (.patchGeneration f.recipe f.issue.id e)
      | .ok edited => .ok (String.join (before ++ edited :: after)) := by
  have hread : overlay file content files f.issue.file = .ok content := if_pos hfile
  rw [applyFix_eq hfind, Recipe.patch_of_line hscope hread hlines hline]
  cases r.lineEdit f.issue raw with
  | error e => rfl
  | ok edited => exact if_neg (by simp [hfile])

theorem applyFix_outOfRange (hfind : Registry.find? g f.recipe = some r) (hscope : r.wholeFile? = none)
    (hfile : f.issue.file = file) (h : f.issue.line.toNat = 0 ∨ (Text.lines content).length < f.issue.line.toNat) :
    applyFix g file files content f = .error (.patchGeneration f.recipe f.issue.id
      (.lineOutOfRange f.issue.file f.issue.line (Text.lines content).length)) := by
  have hread : overlay file content files f.issue.file = .ok content := if_pos hfile
  rw [applyFix_eq hfind, Recipe.patch_outOfRange hscope hread h]

/-- A line that the original does not have is refused alone and in a chain. -/
theorem refuses_outOfRange (hread : files file = .ok original) (hfile : f.issue.file = file)
    (hfind : Registry.find? g f.recipe = some r) (hscope : r.wholeFile? = none)
    (h : f.issue.line.toNat = 0 ∨ (Text.lines original).length < f.issue.line.toNat ∧ content = original) :
    ∃ e, applyFix g file files content f = .error e ∧ Refuses g files f e := by
  have hnow : f.issue.line.toNat = 0 ∨ (Text.lines content).length < f.issue.line.toNat := by
    rcases h with hzero | ⟨hlarge, rfl⟩
    · exact .inl hzero
    · exact .inr hlarge
  refine ⟨_, applyFix_outOfRange hfind hscope hfile hnow, r, _, _, hfind,
    Recipe.patch_outOfRange hscope (hfile ▸ hread) (h.imp_right And.left), rfl, fun hne => ?_, nofun⟩
  rw [(h.resolve_left fun hzero => hne (UInt32.toNat_inj.mp hzero)).2]

/-! ## The chain -/

/-- The content begins with the first lines of the original, and what stands after them is `rest`. -/
structure Unmoved (original : String) (before after : List String) (rest content : String) : Prop where
  original_eq : Text.lines original = before ++ after
  lines_eq : Text.lines content = before ++ Text.lines rest

theorem Unmoved.start (original : String) : Unmoved original (Text.lines original) [] "" original :=
  ⟨(List.append_nil _).symm, (List.append_nil _).symm⟩

/-- A line is edited. The lines before it are still where they were. -/
theorem Unmoved.edit {first mid : List String} (h : Unmoved original (first ++ raw :: mid) after rest content)
    (edited : String) :
    Unmoved original first (raw :: mid ++ after) (edited ++ String.join mid ++ rest)
      (String.join (first ++ edited :: (mid ++ Text.lines rest))) where
  original_eq := by rw [h.original_eq, List.append_assoc]
  lines_eq := by
    have hlined := Text.lined_lines original
    rw [h.original_eq, List.append_assoc] at hlined
    have hjoin : String.join (first ++ edited :: (mid ++ Text.lines rest)) =
        String.join first ++ (edited ++ String.join mid ++ rest) := by
      simp only [String.join_append, String.join_cons, Text.join_lines, String.append_assoc]
    rw [hjoin, Text.lines_join_append (hlined.terminated (List.cons_ne_nil _ _))]

theorem Unmoved.content_eq (h : Unmoved original before after rest content) : content = String.join before ++ rest := by
  rw [← Text.join_lines content, h.lines_eq, String.join_append, Text.join_lines]

theorem works_of_line (hfind : Registry.find? g f.recipe = some r) (hscope : r.wholeFile? = none)
    (hread : files f.issue.file = .ok original) (hlines : Text.lines original = before ++ raw :: after)
    (hline : f.issue.line.toNat = before.length + 1) (hedit : r.lineEdit f.issue raw = .ok edited) : Works g files f := by
  have hpatch : r.patch f.issue files = _ := Recipe.patch_of_line hscope hread hlines hline
  rw [hedit] at hpatch
  exact ⟨r, _, hfind, hpatch⟩

/-- A line of the original is edited in a chain as it is edited alone. -/
theorem Unmoved.applyFix {first mid : List String} (h : Unmoved original (first ++ raw :: mid) after rest content)
    (hread : files file = .ok original) (hfile : f.issue.file = file) (hfind : Registry.find? g f.recipe = some r)
    (hscope : r.wholeFile? = none) (hline : f.issue.line.toNat = first.length + 1) :
    match r.lineEdit f.issue raw with
    | .error _ => ∃ e, applyFix g file files content f = .error e ∧ Refuses g files f e
    | .ok edited => Works g files f ∧
        applyFix g file files content f = .ok (String.join (first ++ edited :: (mid ++ Text.lines rest))) := by
  have hlines := List.append_assoc .. ▸ h.original_eq
  have hchained : Batch.applyFix g file files content f = _ :=
    applyFix_of_line hfind hscope hfile (List.append_assoc .. ▸ h.lines_eq) hline
  cases hedit : r.lineEdit f.issue raw with
  | error e =>
    have hown : r.patch f.issue files = _ := Recipe.patch_of_line hscope (hfile ▸ hread) hlines hline
    rw [hedit] at hown hchained
    exact ⟨_, hchained, r, e, e, hfind, hown, rfl, fun _ => rfl, Recipe.lineEdit_error hedit⟩
  | ok edited =>
    rw [hedit] at hchained
    exact ⟨works_of_line hfind hscope (hfile ▸ hread) hlines hline hedit, hchained⟩

/-- Repairs from the last line up leave what all of them make at once, unless one of them cannot be made on its own.
The lines that the repairs are for are still where they were, or nothing was edited so far. -/
theorem chain_lines (h : LineFixes g file fixes) (hread : files file = .ok original)
    (hdescending : fixes.Pairwise fun a b => b.issue.line.toNat < a.issue.line.toNat)
    (hunmoved : Unmoved original before after rest content)
    (hreach : (∀ f ∈ fixes, f.issue.line.toNat ≤ before.length) ∨ before = Text.lines original ∧ content = original) :
    match chain g file files (.ok ()) fixes content with
    | .ok made => (∀ f ∈ fixes, Works g files f) ∧ made = String.join (before.mapIdx (lineAfter g fixes)) ++ rest
    | .error e => ∃ f ∈ fixes, Refuses g files f e := by
  induction fixes generalizing before after rest content with
  | nil =>
    have hsame : before.mapIdx (lineAfter g ([] : List (Fix σ))) = before :=
      mapIdx_eq_self fun n raw => lineAfter_of_not_flagged nofun
    exact ⟨nofun, by rw [hsame, hunmoved.content_eq]⟩
  | cons f fixes ih =>
    obtain ⟨r, hfind, hscope, -⟩ := h.recipe f (.head _)
    have hfile := h.file f (.head _)
    rw [List.pairwise_cons] at hdescending
    rw [chain]
    by_cases hline : f.issue.line.toNat = 0 ∨ before.length < f.issue.line.toNat
    · -- the file has no such line, neither now nor before
      have hown : f.issue.line.toNat = 0 ∨ (Text.lines original).length < f.issue.line.toNat ∧ content = original := by
        refine hline.imp_right fun hlarge => ?_
        rcases hreach with hreach | ⟨hbefore, hcontent⟩
        · exact absurd (hreach f (.head _)) (Nat.not_le.mpr hlarge)
        · exact ⟨hbefore ▸ hlarge, hcontent⟩
      obtain ⟨e, happly, hrefuses⟩ := refuses_outOfRange hread hfile hfind hscope hown
      rw [happly]
      exact ⟨f, .head _, hrefuses⟩
    · -- the last line that is flagged
      rw [not_or, Nat.not_lt] at hline
      obtain ⟨first, raw, mid, rfl, hfirst⟩ := exists_line hline.1 hline.2
      have hlow : ∀ k ∈ fixes, k.issue.line.toNat ≤ first.length := by
        intro k hk
        have := hdescending.1 k hk
        omega
      have happly := hunmoved.applyFix hread hfile hfind hscope hfirst
      cases hedit : r.lineEdit f.issue raw with
      | error e =>
        rw [hedit] at happly
        obtain ⟨e, happly, hrefuses⟩ := happly
        rw [happly]
        exact ⟨f, .head _, hrefuses⟩
      | ok edited =>
        rw [hedit] at happly
        obtain ⟨hworks, happly⟩ := happly
        have hrest := ih h.tail hdescending.2 (hunmoved.edit edited) (.inl hlow)
        rw [happly, mapIdx_lineAfter_cons hfind hfirst hlow hedit]
        simp only [Except.bind, Bind.bind]
        split at hrest
        · next made _ =>
          obtain ⟨hall, rfl⟩ := hrest
          refine ⟨List.forall_mem_cons.mpr ⟨hworks, hall⟩, ?_⟩
          simp only [String.join_append, String.join_cons, String.append_assoc]
        · next e _ =>
          obtain ⟨k, hk, hrefuses⟩ := hrest
          exact ⟨k, .tail _ hk, hrefuses⟩

/-! ## Preparing -/

/-- At most one repair is for a line, so that it does not matter which one is found first. -/
theorem lineAfter_perm {fixes' : List (Fix σ)} (h : LineFixes g file fixes) (hperm : fixes'.Perm fixes) (n : Nat)
    (raw : String) : lineAfter g fixes' n raw = lineAfter g fixes n raw := by
  have hfound : fixes'.find? (fun f => f.issue.line.toNat = n + 1) = fixes.find? fun f => f.issue.line.toNat = n + 1 := by
    cases hfind : fixes.find? fun f => f.issue.line.toNat = n + 1 with
    | none =>
      rw [List.find?_eq_none] at hfind ⊢
      exact fun f hf => hfind f (hperm.mem_iff.mp hf)
    | some f =>
      have hf := List.mem_of_find?_eq_some hfind
      have hline : f.issue.line.toNat = n + 1 := by simpa using List.find?_some hfind
      cases hfind' : fixes'.find? fun f => f.issue.line.toNat = n + 1 with
      | none => exact absurd hline (by simpa using List.find?_eq_none.mp hfind' f (hperm.mem_iff.mpr hf))
      | some k =>
        have hk := hperm.mem_iff.mp (List.mem_of_find?_eq_some hfind')
        have hline' : k.issue.line.toNat = n + 1 := by simpa using List.find?_some hfind'
        by_contra hne
        have hsymm : Std.Symm fun a b : Fix σ => a.conflicts b = false := ⟨fun a b hab => (Fix.conflicts_comm b a).trans hab⟩
        have hapart := h.apart.forall hk hf fun heq => hne (congrArg some heq)
        exact h.line_ne hk hf hapart (UInt32.toNat_inj.mp (hline'.trans hline.symm))
  rw [lineAfter, hfound, lineAfter]

theorem allAtOnce_perm {fixes' : List (Fix σ)} (h : LineFixes g file fixes) (hperm : fixes'.Perm fixes) (content : String) :
    allAtOnce g fixes' content = allAtOnce g fixes content := by
  rw [allAtOnce, allAtOnce, funext₂ (lineAfter_perm h hperm)]

/-- What is prepared for a file. -/
theorem prepareFile_lines (h : LineFixes g file fixes) (hread : files file = .ok original) (maxLines : Count) :
    match prepareFile g maxLines files (.ok ()) file fixes with
    | .ok made => (∀ f ∈ fixes, Works g files f) ∧ (made = none ↔ allAtOnce g fixes original = original) ∧
        ∀ p ∈ made, p.file = file ∧ p.before = original ∧ p.after = allAtOnce g fixes original ∧
          p.changed = measured g fixes original ∧ p.changed ≤ maxLines
    | .error e => (∃ f ∈ fixes, Refuses g files f e) ∨ (∀ f ∈ fixes, Works g files f) ∧
        maxLines < measured g fixes original ∧ e = .budgetExceeded file (measured g fixes original) maxLines := by
  have hperm := List.mergeSort_perm fixes chainsBefore
  have hchain := chain_lines (h.perm hperm) hread h.descending (Unmoved.start original) (.inr ⟨rfl, rfl⟩)
  rw [← allAtOnce, allAtOnce_perm h hperm, String.append_empty] at hchain
  have hmem (f : Fix σ) : f ∈ fixes.mergeSort chainsBefore ↔ f ∈ fixes := hperm.mem_iff
  simp only [hmem] at hchain
  rw [prepareFile]
  generalize fixes.mergeSort chainsBefore = ordered at hchain
  cases ordered with
  | nil =>
    refine ⟨hchain.1, iff_of_true rfl hchain.2.symm, fun p hp => ?_⟩
    cases hp
  | cons first rest =>
    dsimp only
    rw [hread]
    dsimp only
    cases hmade : chain g file files (.ok ()) (first :: rest) original with
    | error e =>
      rw [hmade] at hchain
      exact .inl hchain
    | ok made =>
      rw [hmade] at hchain
      obtain ⟨hworks, rfl⟩ := hchain
      dsimp only
      by_cases hsame : allAtOnce g fixes original = original
      · rw [if_pos hsame]
        refine ⟨hworks, iff_of_true rfl hsame, fun p hp => ?_⟩
        cases hp
      rw [if_neg hsame, ← measured]
      split
      · next p hp =>
        split at hp
        · cases hp
        · next hfits =>
          obtain rfl := Except.ok.inj hp
          refine ⟨hworks, iff_of_false (Option.some_ne_none _) hsame, fun p hp => ?_⟩
          obtain rfl := Option.some.inj hp
          dsimp only
          exact ⟨rfl, rfl, rfl, rfl, UInt32.not_lt.mp hfits⟩
      · next e he =>
        split at he
        · next hlarge => exact .inr ⟨hworks, hlarge, (Except.error.inj he).symm⟩
        · cases he

theorem byFile_of_one (hne : fixes ≠ []) (h : ∀ f ∈ fixes, f.issue.file = file) : byFile fixes = [(file, fixes)] := by
  have hfold (done todo : List (Fix σ)) (h : ∀ f ∈ todo, f.issue.file = file) :
      todo.foldl (fun t f => Ordered.insert t f.issue.file ((Ordered.get? t f.issue.file).getD [] ++ [f]))
        [(file, done)] = [(file, done ++ todo)] := by
    induction todo generalizing done with
    | nil => simp
    | cons f todo ih =>
      rw [List.forall_mem_cons] at h
      have hself : compare file file = .eq := Std.ReflCmp.compare_self
      have hstep : Ordered.insert [(file, done)] f.issue.file ((Ordered.get? [(file, done)] f.issue.file).getD [] ++ [f]) =
          [(file, done ++ [f])] := by
        simp only [h.1, Ordered.insert, Ordered.get?, hself, Option.getD_some]
      rw [List.foldl_cons, hstep, ih _ h.2, List.append_assoc, List.singleton_append]
  cases fixes with
  | nil => exact absurd rfl hne
  | cons f fixes =>
    rw [List.forall_mem_cons] at h
    rw [byFile, List.foldl_cons, h.1]
    exact hfold [f] fixes h.2

section

variable {maxLines : Count} {root : Place} {w : Workspace}

theorem exec_prepare_of_one (hne : fixes ≠ []) (h : ∀ f ∈ fixes, f.issue.file = file) :
    (prepare g maxLines root none fixes).exec w =
      ((prepareFile g maxLines (filesOf root w.disk) (.ok ()) file fixes).map Option.toList,
        ((Workspace.pause .prepared).exec w).2) := by
  have heach : (prepareEach g maxLines root none [(file, fixes)]).exec w =
      (.ok [prepareFile g maxLines (filesOf root w.disk) (.ok ()) file fixes], ((Workspace.pause .prepared).exec w).2) := by
    rw [exec_prepareEach_cons]
    rfl
  rw [prepare, byFile_of_one hne h, exec_bind_ok heach]
  cases prepareFile g maxLines (filesOf root w.disk) (.ok ()) file fixes with
  | error e => rfl
  | ok made => cases made <;> rfl

/-- What becomes of repairs of one file. -/
theorem result_prepare_of_one (h : ∀ f ∈ fixes, f.issue.file = file) :
    ((prepare g maxLines root none fixes).exec w).1 =
      (prepareFile g maxLines (filesOf root w.disk) (.ok ()) file fixes).map Option.toList := by
  by_cases hne : fixes = []
  · subst hne
    rw [prepareFile, List.mergeSort_nil]
    rfl
  · rw [exec_prepare_of_one hne h]

theorem LineFixes.exec_prepare_perm {fixes' : List (Fix σ)} (h : LineFixes g file fixes) (hperm : fixes'.Perm fixes) :
    (prepare g maxLines root none fixes').exec w = (prepare g maxLines root none fixes).exec w := by
  by_cases hne : fixes = []
  · subst hne
    rw [List.perm_nil.mp hperm]
  · have hne' : fixes' ≠ [] := fun hnil => hne (List.nil_perm.mp (hnil ▸ hperm))
    rw [exec_prepare_of_one hne h.file, exec_prepare_of_one hne' (h.perm hperm).file, prepareFile, prepareFile,
      h.sort_eq hperm]

/-- **A chain is as good as all repairs at once.** Repairs of one file that can be selected together, each for a line,
and in time and within the limit of lines, are prepared exactly if each of them can be made on its own. A failure is
one of a repair that cannot, and never finds fault with a recipe. The new content is the old one with every flagged
line replaced or removed and every other line kept, and the file is left out exactly if this is the old content.
The order of the repairs does not matter. -/
theorem prepare_lines (h : LineFixes g file fixes) (hread : filesOf root w.disk file = .ok original)
    (hbudget : ∀ changed limit, ((prepare g maxLines root none fixes).exec w).1 ≠ .error (.budgetExceeded file changed limit)) :
    ((∃ b, ((prepare g maxLines root none fixes).exec w).1 = .ok b) ↔ ∀ f ∈ fixes, Works g (filesOf root w.disk) f) ∧
    (∀ e, ((prepare g maxLines root none fixes).exec w).1 = .error e →
      (∃ f ∈ fixes, Refuses g (filesOf root w.disk) f e) ∧
        ∀ recipe issue id fault, e ≠ .patchGeneration recipe issue (.invalidRecipe id fault)) ∧
    (∀ b, ((prepare g maxLines root none fixes).exec w).1 = .ok b →
      if allAtOnce g fixes original = original then b = []
      else ∃ p, b = [p] ∧ p.file = file ∧ p.before = original ∧ p.after = allAtOnce g fixes original) ∧
    ∀ fixes' : List (Fix σ), fixes'.Perm fixes →
      (prepare g maxLines root none fixes').exec w = (prepare g maxLines root none fixes).exec w := by
  have hmade := prepareFile_lines h hread maxLines
  rw [result_prepare_of_one h.file] at hbudget ⊢
  generalize prepareFile g maxLines (filesOf root w.disk) (.ok ()) file fixes = r at hbudget hmade
  rw [← and_assoc, ← and_assoc]
  refine ⟨?_, fun fixes' => h.exec_prepare_perm⟩
  cases r with
  | error e =>
    have hrefused : ∃ f ∈ fixes, Refuses g (filesOf root w.disk) f e := by
      refine hmade.resolve_right fun ⟨_, _, he⟩ => hbudget (measured g fixes original) maxLines ?_
      rw [he]
      rfl
    obtain ⟨f, hf, hrefuses⟩ := hrefused
    refine ⟨⟨iff_of_false nofun fun hworks => hrefuses.not_works (hworks f hf), fun e' he => ?_⟩, nofun⟩
    obtain rfl := Except.error.inj he
    exact ⟨⟨f, hf, hrefuses⟩, hrefuses.ne_invalidRecipe⟩
  | ok made =>
    obtain ⟨hworks, hnone, hsome⟩ := hmade
    refine ⟨⟨iff_of_true ⟨_, rfl⟩ hworks, nofun⟩, fun b hb => ?_⟩
    obtain rfl := Except.ok.inj hb
    split
    · next hsame => rw [hnone.mpr hsame, Option.toList_none]
    · next hne =>
      obtain ⟨p, rfl⟩ := Option.ne_none_iff_exists'.mp fun h => hne (hnone.mp h)
      exact ⟨p, rfl, (hsome p rfl).1, (hsome p rfl).2.1, (hsome p rfl).2.2.1⟩

/-- Without a limit of lines no repair is refused for it. -/
theorem ne_budgetExceeded (h : LineFixes g file fixes) (hread : filesOf root w.disk file = .ok original)
    (changed limit : Count) :
    ((prepare g Count.max root none fixes).exec w).1 ≠ .error (.budgetExceeded file changed limit) := by
  have hmade := prepareFile_lines h hread Count.max
  rw [result_prepare_of_one h.file]
  generalize prepareFile g Count.max (filesOf root w.disk) (.ok ()) file fixes = r at hmade
  cases r with
  | ok made => nofun
  | error e =>
    rcases hmade with ⟨f, -, r, own, cause, -, -, rfl, -⟩ | ⟨-, hlarge, -⟩
    · nofun
    · exact absurd (UInt32.lt_iff_toNat_lt.mp hlarge) (Nat.not_lt.mpr (Nat.le_of_lt_succ (UInt32.toNat_lt _)))

/-- Blanks are taken off two of three lines. -/
theorem prepare_lines_ends :
    let file : RelPath := ⟨["a"]⟩
    let g : Registry := [("trailing-whitespace", .trimBlanks)]
    let w := Workspace.inMemory [] ⟨[("a", .file "x \ny\nz ".toUTF8 0o644)]⟩
    let fix (id : String) (line : Count) : Fix Nat :=
      ⟨⟨id, file, line, none, .low, "whitespace", "", true, none⟩, "trailing-whitespace", 0, .line line, 1⟩
    let run := (prepare g Count.max ⟨[], ""⟩ none [fix "1" 1, fix "2" 3]).exec w
    LineFixes g file [fix "1" 1, fix "2" 3] ∧ filesOf ⟨[], ""⟩ w.disk file = .ok "x \ny\nz " ∧
    (∀ changed limit, run.1 ≠ .error (.budgetExceeded file changed limit)) ∧
    ∃ p, run.1 = .ok [p] ∧ p.file = file ∧ p.before = "x \ny\nz " ∧ p.after = "x\ny\nz" := by
  intro file g w fix run
  have hfind : Registry.find? g "trailing-whitespace" = some .trimBlanks := by simp [g, Registry.find?, Ordered.get?]
  have hfixes : LineFixes g file [fix "1" 1, fix "2" 3] :=
    ⟨by simp [fix], by simp [fix, hfind, Recipe.wholeFile?, Recipe.span], by decide⟩
  have hread : filesOf ⟨[], ""⟩ w.disk file = .ok "x \ny\nz " := by
    have hcontent : w.disk.read (Place.file ⟨[], ""⟩ file).location = .ok "x \ny\nz ".toUTF8 := rfl
    rw [filesOf, Disk.readText, hcontent]
    dsimp only
    rw [Text.decode?_encode]
  have hbudget : ∀ changed limit, run.1 ≠ .error (.budgetExceeded file changed limit) := ne_budgetExceeded hfixes hread
  obtain ⟨hworks, -, hmade, -⟩ := prepare_lines hfixes hread hbudget
  have hall : ∀ f ∈ [fix "1" 1, fix "2" 3], Works g (filesOf ⟨[], ""⟩ w.disk) f := by
    have hfirst : Text.lines "x \ny\nz " = [] ++ "x \n" :: ["y\n", "z "] := by decide
    have hlast : Text.lines "x \ny\nz " = ["x \n", "y\n"] ++ "z " :: [] := by decide
    have hedit : Recipe.trimBlanks.lineEdit (fix "1" 1).issue "x \n" = .ok "x\n" := by rfl
    have hedit' : Recipe.trimBlanks.lineEdit (fix "2" 3).issue "z " = .ok "z" := by rfl
    rintro f (_ | ⟨_, _ | ⟨_, hf⟩⟩)
    · exact works_of_line hfind rfl hread hfirst rfl hedit
    · exact works_of_line hfind rfl hread hlast rfl hedit'
    · cases hf
  obtain ⟨b, hb⟩ := hworks.mpr hall
  have hafter : allAtOnce g [fix "1" 1, fix "2" 3] "x \ny\nz " = "x\ny\nz" := by decide
  have hprepared := hmade b hb
  rw [hafter, if_neg (by decide)] at hprepared
  obtain ⟨p, rfl, hp⟩ := hprepared
  exact ⟨hfixes, hread, hbudget, p, hb, hp⟩

end

end Mend.Batch
