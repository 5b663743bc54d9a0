import Mend.Proofs.Ledger.Restore

/-!
# Plans of a snapshot

Restoring plans every file on the disk as it is and then carries the plans out one after the other. For an entry that is
`Faulty` there is no plan (`planOn_error_iff`), and then nothing is carried out. Otherwise, where no name belongs to a
temporary file, the first of the plans have their `effect` on the disk, and nothing else has one: all of them do, or
those before a file whose name leaves no room for that of its temporary file (`exec_restore_cases`).

Nothing is asked of the snapshot: its entries may be for one file, and may say anything of it.
-/

namespace Mend.Snapshot

open Fs Fs.Disk Ledger
open Action
open Function (update)

variable {root : Place} {id : CycleId} {d d' : Disk} {e : Entry} {es : List Entry} {plan : Plan} {x y : Entry × Plan}
  {plans done rest : List (Entry × Plan)} {v : Location → Option Node} {l m : Location}

/-! ## Planning -/

/-- The file of an entry holds a text that the entry is to undo. -/
structure Due (root : Place) (d : Disk) (e : Entry) (text : String) : Prop where
  read : d.read (root.file e.path).location = .ok text.toUTF8
  after : digestOf text = e.after
  before : e.before ≠ none
  ne : e.before ≠ some e.after

/-- Why a file cannot be restored as an entry says: it cannot be read, or its text cannot be undone, or what comes of
that is not what was there. -/
inductive Faulty (root : Place) (d : Disk) (e : Entry) : Prop where
  | unreadable (cause : Fs.Error) (hread : d.read (root.file e.path).location = .error cause) (hne : cause ≠ .notFound)
  | unapplied (text : String) (hdue : Due root d e text) (cause : Diff.Error) (happly : e.undo.apply text = .error cause)
  | unlike (text : String) (hdue : Due root d e text) (rebuilt : String) (happly : e.undo.apply text = .ok rebuilt)
    (hne : e.before ≠ some (digestOf rebuilt))

/-- The plan for an entry on a disk. -/
def planOn (root : Place) (id : CycleId) (d : Disk) (e : Entry) : Except Ledger.Error Plan := do
  let held ← current root e.path d
  planFile id e held

/-- The plan to undo a text, if what comes of that is what was there. -/
def undoing (id : CycleId) (e : Entry) (before : Digest) (text : String) : Except Ledger.Error Plan :=
  match e.undo.apply text with
  | .error cause => .error (.diff cause)
  | .ok rebuilt =>
    if digestOf rebuilt = before then .ok (.write rebuilt)
    else .error (.undoMismatch id e.path "rebuilt content does not match before-hash")

theorem current_eq_some_iff {content : ByteArray} :
    current root e.path d = .ok (some content) ↔ d.read (root.file e.path).location = .ok content := by
  rw [current]
  cases d.read (root.file e.path).location with
  | ok held => simp
  | error cause => cases cause <;> simp

/-- A plan that changes a file. -/
def Plan.Active : Plan → Prop
  | .write _ => True
  | .remove => True
  | _ => False

/-- A change is planned for a file that holds what the entry says it would, and it is the one that the entry asks for. -/
structure Planned (root : Place) (d : Disk) (e : Entry) (plan : Plan) : Prop where
  held : plan.Active → ∃ content, d.read (root.file e.path).location = .ok content ∧ Digest.content content = e.after
  written : ∀ rebuilt, plan = .write rebuilt → e.before = some (digestOf rebuilt)
  removed : plan = .remove → e.before = none

theorem planned_of_not_active (h : ¬ plan.Active) : Planned root d e plan where
  held hactive := absurd hactive h
  written _ heq := absurd (heq ▸ trivial) h
  removed heq := absurd (heq ▸ trivial) h

/-- An entry that has nothing to undo is not faulty if the file can be read. -/
theorem not_faulty (hread : ∀ cause, d.read (root.file e.path).location = .error cause → cause = .notFound)
    (hdue : ∀ text, ¬ Due root d e text) : ¬ Faulty root d e := by
  rintro (⟨cause, herror, hne⟩ | ⟨text, h, -⟩ | ⟨text, h, -⟩)
  · exact hne (hread cause herror)
  · exact hdue text h
  · exact hdue text h

/-- A text that is to be undone is written as it was before, or the entry is faulty. -/
theorem planOn_of_due {text : String} (h : Due root d e text) (id : CycleId) :
    (∃ plan, planOn root id d e = .ok plan ∧ Planned root d e plan) ∧ ¬ Faulty root d e ∨
      (∃ cause, planOn root id d e = .error cause) ∧ Faulty root d e := by
  have honly {other : String} (hother : Due root d e other) : other = text := by
    have hbytes : other.toUTF8 = text.toUTF8 := Except.ok.inj (hother.read.symm.trans h.read)
    exact Option.some.inj ((Text.decode?_encode other).symm.trans ((congrArg _ hbytes).trans (Text.decode?_encode text)))
  obtain ⟨before, hbefore⟩ := Option.ne_none_iff_exists'.mp h.before
  have hne : ¬ some (Digest.content text.toUTF8) = e.before := fun heq => h.ne (heq.symm.trans (congrArg some h.after))
  have hafter : ¬ some (Digest.content text.toUTF8) ≠ some e.after := not_not.mpr (congrArg some h.after)
  have hplan : planOn root id d e = undoing id e before text := by
    rw [planOn, current_eq_some_iff.mpr h.read]
    show planFile id e (some text.toUTF8) = _
    rw [planFile, Option.map_some, if_neg hne, if_neg hafter, hbefore, Option.bind_some, Text.decode?_encode]
    rfl
  rw [hplan, undoing]
  cases happly : e.undo.apply text with
  | error cause => exact .inr ⟨⟨_, rfl⟩, .unapplied text h cause happly⟩
  | ok rebuilt =>
    dsimp only
    by_cases hsame : digestOf rebuilt = before
    · rw [if_pos hsame]
      have hrebuilt : e.before = some (digestOf rebuilt) := by rw [hbefore, hsame]
      refine .inl ⟨⟨_, rfl, fun _ => ⟨_, h.read, h.after⟩, fun other hother => ?_, fun hremove => ?_⟩, ?_⟩
      · rw [← Plan.write.inj hother, hrebuilt]
      · cases hremove
      · rintro (⟨cause, hread, -⟩ | ⟨other, hother, cause, hfails⟩ | ⟨other, hother, wrong, hwrong, hne⟩)
        · cases hread.symm.trans h.read
        · cases hfails.symm.trans (honly hother ▸ happly)
        · obtain rfl := Except.ok.inj (hwrong.symm.trans (honly hother ▸ happly))
          exact hne hrebuilt
    · rw [if_neg hsame]
      exact .inr ⟨⟨_, rfl⟩, .unlike text h rebuilt happly fun heq => hsame (Option.some.inj (heq.symm.trans hbefore))⟩

/-- A file that holds no text to be undone is removed, or left as it is. -/
theorem planFile_of_not_due {held : Option ByteArray} (hread : current root e.path d = .ok held)
    (hdue : ∀ text, ¬ Due root d e text) (id : CycleId) :
    ∃ plan, planFile id e held = .ok plan ∧ Planned root d e plan := by
  rw [planFile]
  by_cases hbefore : held.map Digest.content = e.before
  · exact ⟨.skip, if_pos hbefore, planned_of_not_active fun h => h⟩
  rw [if_neg hbefore]
  by_cases hafter : held.map Digest.content = some e.after
  swap
  · exact ⟨.leave _, if_pos hafter, planned_of_not_active fun h => h⟩
  rw [if_neg (not_not.mpr hafter)]
  obtain ⟨content, rfl, hcontent⟩ := Option.map_eq_some_iff.mp hafter
  have hcontent' := current_eq_some_iff.mp hread
  cases hentry : e.before with
  | none =>
    refine ⟨.remove, rfl, fun _ => ⟨content, hcontent', hcontent⟩, fun rebuilt hplan => ?_, fun _ => hentry⟩
    cases hplan
  | some before =>
    cases hdecode : Text.decode? content with
    | none => exact ⟨.leave _, by rw [Option.bind_some, hdecode], planned_of_not_active fun h => h⟩
    | some text =>
      have htext : text.toUTF8 = content := (Text.encode_of_decode? hdecode).symm
      refine absurd ⟨htext ▸ hcontent', by rw [digestOf, htext, hcontent], by simp [hentry], fun hsame => hbefore ?_⟩
        (hdue text)
      rw [hafter, hsame]

/-- What a file holds decides its plan, or that there is none. -/
theorem planOn_cases (root : Place) (id : CycleId) (d : Disk) (e : Entry) :
    (∃ plan, planOn root id d e = .ok plan ∧ Planned root d e plan) ∧ ¬ Faulty root d e ∨
      (∃ cause, planOn root id d e = .error cause) ∧ Faulty root d e := by
  by_cases hdue : ∃ text, Due root d e text
  · obtain ⟨text, h⟩ := hdue
    exact planOn_of_due h id
  have hdue : ∀ text, ¬ Due root d e text := fun text h => hdue ⟨text, h⟩
  have hplan {held : Option ByteArray} (h : current root e.path d = .ok held) :
      planOn root id d e = planFile id e held := by
    rw [planOn, h]
    rfl
  cases hread : d.read (root.file e.path).location with
  | ok content =>
    have hcurrent := current_eq_some_iff.mpr hread
    rw [hplan hcurrent]
    exact .inl ⟨planFile_of_not_due hcurrent hdue id, not_faulty (by simp [hread]) hdue⟩
  | error cause =>
    by_cases hmissing : cause = .notFound
    · have hcurrent : current root e.path d = .ok none := by rw [current, hread, hmissing]
      rw [hplan hcurrent]
      exact .inl ⟨planFile_of_not_due hcurrent hdue id, not_faulty (by simp [hread, hmissing]) hdue⟩
    · refine .inr ⟨⟨.io (root.file e.path) cause, ?_⟩, .unreadable cause hread hmissing⟩
      rw [planOn, current, hread]
      cases cause <;> first | rfl | exact absurd rfl hmissing

theorem planAll_cons (root : Place) (id : CycleId) (d : Disk) (e : Entry) (es : List Entry) :
    planAll root id d (e :: es) = do
      let plan ← planOn root id d e
      let rest ← planAll root id d es
      return (e, plan) :: rest := by
  rw [planAll, planOn]
  cases current root e.path d <;> rfl

/-- All files are planned unless an entry is faulty. -/
theorem planAll_cases (root : Place) (id : CycleId) (d : Disk) (es : List Entry) :
    (∃ plans, planAll root id d es = .ok plans ∧ plans.map Prod.fst = es ∧ ∀ x ∈ plans, Planned root d x.1 x.2) ∧
        (∀ e ∈ es, ¬ Faulty root d e) ∨
      (∃ cause, planAll root id d es = .error cause) ∧ ∃ e ∈ es, Faulty root d e := by
  induction es with
  | nil => exact .inl ⟨⟨[], rfl, rfl, by simp⟩, by simp⟩
  | cons e es ih =>
    rw [planAll_cons]
    rcases planOn_cases root id d e with ⟨⟨plan, hplan, hplanned⟩, hsound⟩ | ⟨⟨cause, hcause⟩, hfaulty⟩
    · rcases ih with ⟨⟨plans, hplans, hfst, hall⟩, hsounds⟩ | ⟨⟨cause, hcause⟩, k, hk, hfaulty⟩
      · refine .inl ⟨⟨(e, plan) :: plans, by rw [hplan, hplans]; rfl, by rw [List.map_cons, hfst], ?_⟩, ?_⟩
        · simpa using ⟨hplanned, fun a b hab => hall (a, b) hab⟩
        · simpa using ⟨hsound, hsounds⟩
      · exact .inr ⟨⟨cause, by rw [hplan, hcause]; rfl⟩, k, List.mem_cons_of_mem e hk, hfaulty⟩
    · exact .inr ⟨⟨cause, by rw [hcause]; rfl⟩, e, List.mem_cons_self, hfaulty⟩

theorem planAll_ok (h : planAll root id d es = .ok plans) :
    plans.map Prod.fst = es ∧ ∀ x ∈ plans, Planned root d x.1 x.2 := by
  rcases planAll_cases root id d es with ⟨⟨plans', hplans, hrest⟩, -⟩ | ⟨⟨cause, hcause⟩, -⟩
  · obtain rfl := Except.ok.inj (hplans.symm.trans h)
    exact hrest
  · cases hcause.symm.trans h

/-- A change is planned for a file that is there. -/
theorem Planned.file (h : Planned root d e plan) (hp : e.path.Proper) (hactive : plan.Active) :
    Slot d (root.file e.path).location (e.path.below root) ∧
      ∃ content mode, d.node? (e.path.below root) = some (.file content mode) ∧ Digest.content content = e.after := by
  obtain ⟨content, hread, hcontent⟩ := h.held hactive
  obtain ⟨hslot, mode, hnode⟩ := RelPath.slot_of_read hp hread
  exact ⟨hslot, content, mode, hnode, hcontent⟩

/-! ## Carrying out -/

/-- What is told of a plan that was carried out. -/
def Plan.told : Plan → FileRestore
  | .write _ => .restored
  | .remove => .removed
  | .skip => .alreadyRestored
  | .leave found => .drifted found

/-- What a plan makes of what stands on a disk, for the file at a location. -/
def Plan.effect (l : Location) (v : Location → Option Node) : Plan → Location → Option Node
  | .write content => update v l (some (.file content.toUTF8 (modeOr (v l) newMode)))
  | .remove => update v l none
  | _ => v

/-- What plans make of what stands on a disk, one after the other. -/
def afterAll (root : Place) (plans : List (Entry × Plan)) (v : Location → Option Node) : Location → Option Node :=
  plans.foldl (fun v x => x.2.effect (x.1.path.below root) v) v

/-- A plan to change a file leads to a file, whose name is not that of a temporary file. -/
structure Carriable (root : Place) (d : Disk) (x : Entry × Plan) : Prop where
  slot : x.2.Active → Slot d (root.file x.1.path).location (x.1.path.below root)
  lasting : x.2.Active → ∀ m name, m ++ [name ++ temporarySuffix] ≠ x.1.path.below root

theorem Planned.carriable (h : Planned root d x.1 x.2) (hp : x.1.path.Proper) (hclean : NoTemporary d) :
    Carriable root d x := by
  refine ⟨fun hactive => (h.file hp hactive).1, fun hactive m name heq => ?_⟩
  obtain ⟨-, content, mode, hnode, -⟩ := h.file hp hactive
  rw [← heq, hclean m name] at hnode
  cases hnode

theorem effect_of_ne (plan : Plan) (h : m ≠ l) : plan.effect l v m = v m := by
  cases plan with
  | write content => exact Function.update_of_ne h _ _
  | remove => exact Function.update_of_ne h _ _
  | skip => rfl
  | leave found => rfl

theorem effect_congr {v' : Location → Option Node} (plan : Plan) (h : v' l = v l) : plan.effect l v' l = plan.effect l v l := by
  cases plan with
  | write content => simp only [Plan.effect, Function.update_self, h]
  | remove => simp only [Plan.effect, Function.update_self]
  | skip => exact h
  | leave found => exact h

theorem effect_of_not_active (h : ¬ plan.Active) : plan.effect l v = v := by
  cases plan with
  | write content => exact absurd trivial h
  | remove => exact absurd trivial h
  | skip => rfl
  | leave found => rfl

/-- No directory comes or goes. -/
theorem effect_dir_iff (h : plan.Active → v l ≠ some .dir) : plan.effect l v m = some .dir ↔ v m = some .dir := by
  by_cases hm : m = l
  · subst hm
    cases plan with
    | write content => simpa [Plan.effect] using h trivial
    | remove => simpa [Plan.effect] using h trivial
    | skip => rfl
    | leave found => rfl
  · rw [effect_of_ne plan hm]

/-- A plan has its effect and no other, or the name of the file leaves no room for that of its temporary file, and nothing
happens. -/
theorem exec_carryOut_cases (hclean : NoTemporary d) (h : Carriable root d x) :
    (∃ d', (carryOutEntry root x).exec d = (.ok (x.1.path, x.2.told), d') ∧
        d'.node? = x.2.effect (x.1.path.below root) d.node?) ∨
      ((∃ content, x.2 = .write content) ∧ ¬ TemporaryFits (root.file x.1.path)) ∧
        ∃ cause, (carryOutEntry root x).exec d = (.error cause, d) := by
  obtain ⟨e, plan⟩ := x
  have hslot := h.slot
  rw [carryOutEntry]
  cases plan with
  | skip => exact .inl ⟨d, rfl, rfl⟩
  | leave found => exact .inl ⟨d, rfl, rfl⟩
  | write content =>
    by_cases hfits : TemporaryFits (root.file e.path)
    · obtain ⟨d', hwrite, hview⟩ := exec_atomicWrite_clean (hslot trivial) hfits hclean content.toUTF8
      refine .inl ⟨d', ?_, hview⟩
      rw [carryOut, exec_bind_ok (exec_bind_ok hwrite _)]
      rfl
    · obtain ⟨cause, hwrite⟩ := exec_atomicWrite_unfit (hslot trivial) hfits content.toUTF8
      refine .inr ⟨⟨⟨content, rfl⟩, hfits⟩, cause, ?_⟩
      rw [carryOut, exec_bind_error (exec_bind_error hwrite _)]
  | remove =>
    have hs := hslot trivial
    rw [carryOut, exec_bind, exec_bind, exec_update]
    cases hnode : d.node? (e.path.below root) with
    | none =>
      refine .inl ⟨d, ?_, ?_⟩
      · rw [hs.unlink_missing hnode]
        rfl
      · rw [Plan.effect, ← hnode, Function.update_eq_self]
    | some n =>
      cases n with
      | dir => exact absurd hnode hs.not_dir
      | file content mode =>
        obtain ⟨d', hunlink, hview⟩ := hs.unlink hnode
        refine .inl ⟨d', ?_, hview⟩
        rw [hunlink]
        rfl

/-- Carrying out a plan leaves the other plans to be carried out, and no temporary file. -/
theorem Carriable.step (h : Carriable root d x) (hclean : NoTemporary d)
    (hview : d'.node? = x.2.effect (x.1.path.below root) d.node?) :
    NoTemporary d' ∧ ∀ y, Carriable root d y → Carriable root d' y := by
  have hdir (m : Location) : d'.node? m = some .dir ↔ d.node? m = some .dir := by
    rw [hview]
    exact effect_dir_iff fun hactive => (h.slot hactive).not_dir
  refine ⟨fun m name => ?_, fun y hy => ⟨fun hactive => ?_, hy.lasting⟩⟩
  · rw [hview]
    by_cases hactive : x.2.Active
    · rw [effect_of_ne x.2 (h.lasting hactive m name), hclean m name]
    · rw [effect_of_not_active hactive, hclean m name]
  · exact (hy.slot hactive).mono (fun m => (hdir m).mpr) fun hy' => (hy.slot hactive).not_dir ((hdir _).mp hy')

/-- The plans are carried out one after the other, all of them or up to one that cannot be. -/
theorem exec_carryOutAll_cases (hclean : NoTemporary d) (h : ∀ x ∈ plans, Carriable root d x) :
    ∃ r d' done rest, (plans.mapM (carryOutEntry root)).exec d = (r, d') ∧ plans = done ++ rest ∧
      d'.node? = afterAll root done d.node? ∧
      (rest = [] ∧ r = .ok (plans.map fun x => (x.1.path, x.2.told)) ∨
        (∃ x ∈ plans, (∃ content, x.2 = .write content) ∧ ¬ TemporaryFits (root.file x.1.path)) ∧
          ∃ cause, r = .error cause) := by
  induction plans generalizing d with
  | nil => exact ⟨_, d, [], [], rfl, rfl, rfl, .inl ⟨rfl, rfl⟩⟩
  | cons x plans ih =>
    have hx := h x List.mem_cons_self
    rw [List.mapM_cons]
    rcases exec_carryOut_cases hclean hx with ⟨d₁, hfirst, hview⟩ | ⟨hunfit, cause, hfirst⟩
    · -- the plans that are left can be carried out on the disk that this one leaves
      obtain ⟨hclean₁, hstep⟩ := hx.step hclean hview
      obtain ⟨r, d', done, rest, hrest, rfl, hview', hcase⟩ :=
        ih hclean₁ fun y hy => hstep y (h y (List.mem_cons_of_mem x hy))
      have hafter : d'.node? = afterAll root (x :: done) d.node? := by rw [hview', hview]; rfl
      rw [exec_bind_ok hfirst, exec_bind, hrest]
      rcases hcase with ⟨hdone, rfl⟩ | ⟨⟨y, hy, hunfit⟩, cause, rfl⟩
      · exact ⟨_, d', x :: done, rest, rfl, rfl, hafter, .inl ⟨hdone, rfl⟩⟩
      · exact ⟨_, d', x :: done, rest, rfl, rfl, hafter, .inr ⟨⟨y, List.mem_cons_of_mem x hy, hunfit⟩, cause, rfl⟩⟩
    · rw [exec_bind_error hfirst]
      exact ⟨_, d, [], x :: plans, rfl, rfl, rfl, .inr ⟨⟨x, List.mem_cons_self, hunfit⟩, cause, rfl⟩⟩

/-! ## What plans make of a disk -/

theorem afterAll_append (root : Place) (done : List (Entry × Plan)) (x : Entry × Plan) (v : Location → Option Node) :
    afterAll root (done ++ [x]) v = x.2.effect (x.1.path.below root) (afterAll root done v) := by
  rw [afterAll, List.foldl_append]
  rfl

/-- The last plan for a file tells what has become of it. -/
theorem afterAll_cases (root : Place) (done : List (Entry × Plan)) (v : Location → Option Node) (m : Location) :
    afterAll root done v m = v m ∨ ∃ x ∈ done, m = x.1.path.below root ∧
      ((∃ content mode, x.2 = .write content ∧ afterAll root done v m = some (.file content.toUTF8 mode)) ∨
        x.2 = .remove ∧ afterAll root done v m = none) := by
  -- from the end: where the last plan is not for this location, those before it tell
  induction done using List.reverseRecOn with
  | nil => exact .inl rfl
  | append_singleton done x ih =>
    rw [afterAll_append]
    by_cases hm : m = x.1.path.below root ∧ x.2.Active
    · obtain ⟨rfl, hactive⟩ := hm
      refine .inr ⟨x, by simp, rfl, ?_⟩
      cases hplan : x.2 with
      | write content => exact .inl ⟨content, _, rfl, Function.update_self _ _ _⟩
      | remove => exact .inr ⟨rfl, Function.update_self _ _ _⟩
      | skip => exact absurd hactive (by simp [hplan, Plan.Active])
      | leave found => exact absurd hactive (by simp [hplan, Plan.Active])
    · have hsame : x.2.effect (x.1.path.below root) (afterAll root done v) m = afterAll root done v m := by
        by_cases hat : m = x.1.path.below root
        · rw [effect_of_not_active fun hactive => hm ⟨hat, hactive⟩]
        · exact effect_of_ne x.2 hat
      rw [hsame]
      rcases ih with hkept | ⟨y, hy, hrest⟩
      · exact .inl hkept
      · exact .inr ⟨y, List.mem_append_left _ hy, hrest⟩

/-! ## Restoring -/

/-- A snapshot is not restored at all if it is damaged or an entry of it is faulty; otherwise its plans are carried out,
all of them or up to a file whose name leaves no room for that of its temporary file. -/
theorem exec_restore_cases (root : Place) {s : Snapshot} (hproper : ∀ e ∈ s.files, e.path.Proper) (hclean : NoTemporary d) :
    (digestEntries s.files ≠ s.digest ∨ ∃ e ∈ s.files, Faulty root d e) ∧
        (∃ cause, (s.restore root).exec d = (.error cause, d)) ∨
      (digestEntries s.files = s.digest ∧ ∀ e ∈ s.files, ¬ Faulty root d e) ∧
        ∃ r d' plans done rest, (s.restore root).exec d = (r, d') ∧ planAll root s.cycle d s.files = .ok plans ∧
          plans.map Prod.fst = s.files ∧ (∀ x ∈ plans, Planned root d x.1 x.2) ∧ plans = done ++ rest ∧
          d'.node? = afterAll root done d.node? ∧
          (rest = [] ∧ r = .ok ⟨s.cycle, plans.map fun x => (x.1.path, x.2.told)⟩ ∨
            (∃ x ∈ plans, (∃ content, x.2 = .write content) ∧ ¬ TemporaryFits (root.file x.1.path)) ∧
              ∃ cause, r = .error cause) := by
  rw [restore_eq]
  by_cases hdigest : digestEntries s.files = s.digest
  swap
  · refine .inl ⟨.inl hdigest, _, exec_bind_error (e := .integrityMismatch s.cycle s.digest (digestEntries s.files)) ?_ _⟩
    rw [exec_query, verifyIntegrity, if_neg hdigest]
  have hverified : (Action.query fun _ => s.verifyIntegrity : DiskAction Ledger.Error Unit).exec d = (.ok (), d) := by
    rw [exec_query, verifyIntegrity, if_pos hdigest]
  rw [exec_bind_ok hverified, exec_bind, exec_query]
  rcases planAll_cases root s.cycle d s.files with ⟨⟨plans, hplans, hfst, hplanned⟩, hsound⟩ | ⟨⟨cause, hcause⟩, hfaulty⟩
  · have hcarriable : ∀ x ∈ plans, Carriable root d x := by
      intro x hx
      refine (hplanned x hx).carriable (hproper _ ?_) hclean
      rw [← hfst]
      exact List.mem_map_of_mem hx
    obtain ⟨r, d', done, rest, hrun, hsplit, hview, hcase⟩ := exec_carryOutAll_cases hclean hcarriable
    rw [hplans]
    dsimp only
    rw [exec_bind, hrun]
    refine .inr ⟨⟨hdigest, hsound⟩, ?_⟩
    rcases hcase with ⟨hdone, rfl⟩ | ⟨hunfit, cause, rfl⟩
    · exact ⟨_, d', plans, done, rest, rfl, rfl, hfst, hplanned, hsplit, hview, .inl ⟨hdone, rfl⟩⟩
    · exact ⟨_, d', plans, done, rest, rfl, rfl, hfst, hplanned, hsplit, hview, .inr ⟨hunfit, cause, rfl⟩⟩
  · rw [hcause]
    exact .inl ⟨.inr hfaulty, cause, rfl⟩

end Mend.Snapshot
