import Mend.Proofs.Ledger.Spared

/-!
# What a write may change

A write fails where a name is too long or where a directory stands in the way. Any of its steps may fail for other
reasons too, when not all bytes could be written, say. `atomicWriteAmid` is the write in which such mishaps occur, and
without them it is the write itself (`atomicWriteAmid_none`). However it ends, it may have made directories, and it has
to do with two locations only, that of the file and that of the temporary file beside it (`atomicWrite_frame`). The
temporary file's location is the write's own: what stands there is written over, and it is gone at the end.
-/

namespace Mend.Ledger

open Fs Fs.Disk
open Function (update)

/-! ## A write amid mishaps -/

/-- What fails in the course of a write although the disk would allow it. -/
structure Mishaps where
  /-- Directories are only made for so many steps of the path. -/
  directories : Option (Nat × Fs.Error) := none
  looking : Option Fs.Error := none
  opening : Option Fs.Error := none
  /-- Other bytes are written than those that should be. -/
  filling : Option (ByteArray × Fs.Error) := none
  granting : Option Fs.Error := none
  syncing : Option Fs.Error := none
  moving : Option Fs.Error := none
  clearing : Option Fs.Error := none

/-- Fails with a mishap, if there is one. -/
def failIf (p : Place) : Option Fs.Error → DiskAction Error Unit
  | some e => throw (.io p e)
  | none => pure ()

/-- The disk without the temporary file, if that can be taken away. -/
def Mishaps.clear (x : Mishaps) (t : Place) (d : Disk) : Disk :=
  match x.clearing, d.unlink t.location with
  | none, .ok d => d
  | _, _ => d

/-- Takes the temporary file away if a step fails. -/
def Mishaps.orClear (x : Mishaps) (t : Place) (step : DiskAction Error Unit) : DiskAction Error Unit :=
  Action.ofFun fun d =>
    match step.exec d with
    | (.ok (), d) => (.ok (), d)
    | (.error e, d) => (.error e, x.clear t d)

/-- Makes the directory around a place. -/
def Mishaps.makeParent (x : Mishaps) (p : Place) : DiskAction Error Unit :=
  match x.directories with
  | none => Ledger.makeParent p
  | some (n, e) => Action.ofFun fun d => (.error (.io p.parent e), (d.mkdirs (p.parent.location.take n)).2)

/-- Looks up the permissions of the file. -/
def lookUp (p : Place) : DiskAction Error (Option Nat) :=
  Action.query fun d =>
    match d.find p.location with
    | .ok (.file _ mode) => .ok (some mode)
    | .ok .dir => .ok none
    | .error .notFound => .ok none
    | .error e => .error (.io p e)

/-- Writes the temporary file. -/
def Mishaps.fill (x : Mishaps) (p : Place) (content : ByteArray) : DiskAction Error Unit :=
  match x.filling with
  | none => writeTemporary p content
  | some (part, e) => do
    writeTemporary p part
    x.orClear (temporary p) (throw (.io (temporary p) e))

/-- Gives the temporary file its permissions. -/
def Mishaps.grant (x : Mishaps) (t : Place) : Option Nat → DiskAction Error Unit
  | some mode => do
    failIf t x.granting
    Ledger.grant t (some mode)
  | none => pure ()

/-- The write of a file in which steps may fail. -/
def atomicWriteAmid (x : Mishaps) (p : Place) (content : ByteArray) : DiskAction Error Unit := do
  x.makeParent p
  failIf p x.looking
  let mode ← lookUp p
  failIf (temporary p) x.opening
  x.fill p content
  x.orClear (temporary p) do
    x.grant (temporary p) mode
    failIf (temporary p) x.syncing
  x.orClear (temporary p) do
    failIf p x.moving
    Action.update fun d => at_ p (d.rename (temporary p).location p.location)

section

variable {x : Mishaps} {p : Place} {content : ByteArray} {d d' : Disk} {r : Except Ledger.Error Unit}

theorem exec_orClear (t : Place) (step : DiskAction Error Unit) :
    (x.orClear t step).exec d = match step.exec d with
      | (.ok (), d) => (.ok (), d)
      | (.error e, d) => (.error e, x.clear t d) := rfl

theorem clear_none (t : Place) (d : Disk) :
    Mishaps.clear {} t d = match d.unlink t.location with
      | .ok d => d
      | .error _ => d := by
  unfold Mishaps.clear
  cases d.unlink t.location <;> rfl

/-- Without mishaps, the temporary file is moved to its place, or taken away. -/
theorem exec_orClear_settle (p : Place) (d : Disk) :
    (Mishaps.orClear {} (temporary p) do
      failIf p none
      Action.update fun d => at_ p (d.rename (temporary p).location p.location)).exec d = (settle p).exec d := by
  rw [exec_orClear, failIf, Action.exec_pure_bind, Action.exec_update, settle, Action.exec_ofFun]
  cases d.rename (temporary p).location p.location with
  | ok d' => rfl
  | error e =>
    dsimp only [at_]
    refine (congrArg (Prod.mk _) (clear_none (temporary p) d)).trans ?_
    cases d.unlink (temporary p).location <;> rfl

/-- The permissions of the temporary file can be changed once it is there. -/
theorem exec_grant_written {l : Location} {old : Nat} (hslot : Slot d (temporary p).location l)
    (hfile : d.node? l = some (.file content old)) (mode : Option Nat) :
    ∃ d', (grant (temporary p) mode).exec d = (.ok (), d') := by
  cases mode with
  | none => exact ⟨d, rfl⟩
  | some mode =>
    obtain ⟨d', hchmod, -⟩ := chmod_slot hslot hfile mode
    exact ⟨d', by rw [grant, Action.exec_update, hchmod]; rfl⟩

/-- Without mishaps, the write is the one that is carried out. -/
theorem atomicWriteAmid_none (p : Place) (content : ByteArray) (d : Disk) :
    (atomicWriteAmid {} p content).exec d = (atomicWrite p content).exec d := by
  show (do
    makeParent p
    let mode ← lookUp p
    writeTemporary p content
    Mishaps.orClear {} (temporary p) do
      Mishaps.grant {} (temporary p) mode
      failIf (temporary p) none
    Mishaps.orClear {} (temporary p) do
      failIf p none
      Action.update fun d => at_ p (d.rename (temporary p).location p.location) : DiskAction Error Unit).exec d = _
  rw [atomicWrite, Action.exec_bind, Action.exec_bind]
  rcases (makeParent p).exec d with ⟨e | ⟨⟩, d₁⟩
  · rfl
  dsimp only
  rw [Action.exec_bind, Action.exec_bind, lookUp]
  rcases (Action.query _).exec d₁ with ⟨e | mode, d₂⟩
  · rfl
  dsimp only
  trans (replace p content mode).exec d₂
  · show (writeTemporary p content >>= fun _ => _).exec d₂ = (writeTemporary p content >>= fun _ => _).exec d₂
    rw [Action.exec_bind, Action.exec_bind]
    rcases hwrite : (writeTemporary p content).exec d₂ with ⟨e | ⟨⟩, d₃⟩
    · rfl
    rcases writeTemporary_cases hwrite with ⟨e, he, -⟩ | ⟨l, m, -, hslot, hview⟩
    · cases he
    obtain ⟨d₄, hgrant⟩ := exec_grant_written (hslot.of_update hview) (by rw [hview, Function.update_self]) mode
    have hgranted : (Mishaps.orClear {} (temporary p) do
        Mishaps.grant {} (temporary p) mode
        failIf (temporary p) none).exec d₃ = (.ok (), d₄) := by
      have hsame : Mishaps.grant {} (temporary p) mode = grant (temporary p) mode := by cases mode <;> rfl
      rw [exec_orClear, hsame, Action.exec_bind_ok hgrant]
      rfl
    dsimp only
    rw [Action.exec_bind_ok hgranted, Action.exec_bind_ok hgrant]
    exact exec_orClear_settle p d₄
  · cases mode <;> rfl

end

/-! ## What the steps leave -/

section

variable (x : Mishaps) (p : Place) (d : Disk)

/-- Directories were made, and the temporary file holds the content. -/
def Written (content : ByteArray) (s : Disk) : Prop :=
  ∃ d₁ l mode, Grown d d₁ ∧ Slot d₁ (temporary p).location l ∧
    s.node? = update d₁.node? l (some (.file content mode))

/-- Directories were made, and the temporary file was moved to its place. -/
def Moved (content : ByteArray) (s : Disk) : Prop :=
  ∃ d₁ l k mode, Grown d d₁ ∧ Slot d₁ (temporary p).location l ∧ Slot d₁ p.location k ∧ l ≠ k ∧
    s.node? = update (update d₁.node? l none) k (some (.file content mode))

/-- Directories were made, and nothing else was, or the temporary file was taken away, unless that failed as well. -/
def Abandoned (s : Disk) : Prop :=
  Grown d s ∨ ∃ d₁ l n, Grown d d₁ ∧ Slot d₁ (temporary p).location l ∧ s.node? = update d₁.node? l n ∧
    (x.clearing = none → n = none)

end

section

variable {x : Mishaps} {p : Place} {d s : Disk} {content : ByteArray} {P : Disk → Prop}
  {E : Ledger.Error → Disk → Prop}

theorem meets_failIf (q : Place) (mishap : Option Fs.Error) (h : ∀ e s, P s → E e s) :
    Action.Meets P (failIf q mishap) (fun _ => P) E := by
  cases mishap with
  | none => exact Action.meets_pure fun _ hs => hs
  | some e => exact Action.meets_throw fun s hs => h _ s hs

theorem abandoned_clear (h : Written p d content s) : Abandoned x p d (x.clear (temporary p) s) := by
  obtain ⟨d₁, l, mode, hgrown, hslot, hview⟩ := h
  obtain ⟨s', hunlink, hview'⟩ := (hslot.of_update hview).unlink (by rw [hview, Function.update_self])
  rw [hview, Function.update_idem] at hview'
  unfold Mishaps.clear
  rw [hunlink]
  by_cases hclearing : x.clearing = none
  · rw [hclearing]
    exact .inr ⟨d₁, l, none, hgrown, hslot, hview', fun _ => rfl⟩
  · obtain ⟨e, he⟩ := Option.ne_none_iff_exists'.mp hclearing
    rw [he]
    exact .inr ⟨d₁, l, _, hgrown, hslot, hview, fun h => absurd h (by simp [he])⟩

/-- A step that leaves the temporary file when it fails is made up for. -/
theorem meets_orClear {step : DiskAction Error Unit} {Q : Unit → Disk → Prop}
    (h : Action.Meets P step Q fun _ => Written p d content) :
    Action.Meets P (x.orClear (temporary p) step) Q fun _ => Abandoned x p d := by
  constructor
  · intro s a t hs hrun
    rw [exec_orClear] at hrun
    split at hrun
    · next hstep =>
      obtain ⟨-, rfl⟩ := Prod.mk.inj hrun
      exact h.yields _ _ _ hs hstep
    · cases (Prod.mk.inj hrun).1
  · intro s e t hs hrun
    rw [exec_orClear] at hrun
    split at hrun
    · cases (Prod.mk.inj hrun).1
    · next hstep =>
      obtain ⟨-, rfl⟩ := Prod.mk.inj hrun
      exact abandoned_clear (h.throws _ _ _ hs hstep)

theorem meets_makeParent : Action.Meets (· = d) (x.makeParent p) (fun _ => Grown d) fun _ => Abandoned x p d := by
  have hmade (steps : Location) : Grown d (d.mkdirs steps).2 := grown_mkdirs d steps
  unfold Mishaps.makeParent
  cases x.directories with
  | none =>
    constructor
    · rintro s a t rfl hrun
      rw [disk_makeParent hrun]
      exact hmade _
    · rintro s e t rfl hrun
      rw [disk_makeParent hrun]
      exact .inl (hmade _)
  | some y =>
    constructor
    · rintro s a t rfl hrun
      cases (Prod.mk.inj hrun).1
    · rintro s e t rfl hrun
      obtain ⟨-, rfl⟩ := Prod.mk.inj hrun
      exact .inl (hmade _)

theorem meets_lookUp : Action.Meets (Grown d) (lookUp p) (fun _ => Grown d) fun _ => Abandoned x p d :=
  ⟨(Action.keeps_query _).yields, Action.throws_query fun _ _ hs _ => .inl hs⟩

theorem meets_writeTemporary :
    Action.Meets (Grown d) (writeTemporary p content) (fun _ => Written p d content) fun _ => Abandoned x p d := by
  constructor
  · intro s a t hs hrun
    rcases writeTemporary_cases hrun with ⟨e, he, -⟩ | ⟨l, mode, -, hslot, hview⟩
    · cases he
    · exact ⟨s, l, mode, hs, hslot, hview⟩
  · intro s e t hs hrun
    rcases writeTemporary_cases hrun with ⟨e', -, rfl⟩ | ⟨l, mode, hr, -⟩
    · exact .inl hs
    · cases hr

theorem meets_fill :
    Action.Meets (Grown d) (x.fill p content) (fun _ => Written p d content) fun _ => Abandoned x p d := by
  unfold Mishaps.fill
  cases x.filling with
  | none => exact meets_writeTemporary
  | some y =>
    exact meets_writeTemporary.bind fun _ => meets_orClear (Action.meets_throw fun _ hs => hs)

theorem meets_grant (mode : Option Nat) :
    Action.Meets (Written p d content) (x.grant (temporary p) mode) (fun _ => Written p d content)
      fun _ => Written p d content := by
  have hkeeps : Action.Keeps (Written p d content) (grant (temporary p) mode) := by
    intro s hs
    obtain ⟨d₁, l, old, hgrown, hslot, hview⟩ := hs
    rcases hrun : (Ledger.grant (temporary p) mode).exec s with ⟨r, s'⟩
    obtain ⟨new, hview'⟩ := grant_cases (hslot.of_update hview) (by rw [hview, Function.update_self]) hrun
    exact ⟨d₁, l, new, hgrown, hslot, by rw [hview', hview, Function.update_idem]⟩
  cases mode with
  | none => exact Action.meets_pure fun _ hs => hs
  | some mode =>
    refine (meets_failIf _ _ fun _ _ hs => hs).bind fun _ => ⟨hkeeps.yields, ?_⟩
    intro s e t hs hrun
    have hkept := hkeeps s hs
    rwa [hrun] at hkept

theorem meets_move :
    Action.Meets (Written p d content)
      (Action.update fun d => at_ p (d.rename (temporary p).location p.location) : DiskAction Error Unit)
      (fun _ => Moved p d content) fun _ => Written p d content := by
  constructor
  · rintro s a t ⟨d₁, l, mode, hgrown, hslot, hview⟩ hrun
    have hsettle : (settle p).exec s = (.ok (), t) := by
      rw [settle, Action.exec_ofFun]
      rw [Action.exec_update] at hrun
      cases hrename : s.rename (temporary p).location p.location with
      | ok s' =>
        rw [hrename] at hrun
        obtain ⟨-, rfl⟩ := Prod.mk.inj hrun
        rfl
      | error e =>
        rw [hrename] at hrun
        cases (Prod.mk.inj hrun).1
    rcases settle_cases (hslot.of_update hview) (by rw [hview, Function.update_self]) hsettle with
      ⟨-, k, hk, hne, hview'⟩ | ⟨⟨e, he⟩, -⟩
    · exact ⟨d₁, l, k, mode, hgrown, hslot, slot_before hview hk hne, hne, by
        rw [hview', hview, Function.update_idem]⟩
    · cases he
  · intro s e t hs hrun
    rw [Action.exec_update] at hrun
    split at hrun
    · cases (Prod.mk.inj hrun).1
    · obtain ⟨-, rfl⟩ := Prod.mk.inj hrun
      exact hs

theorem meets_atomicWriteAmid :
    Action.Meets (· = d) (atomicWriteAmid x p content) (fun _ => Moved p d content) fun _ => Abandoned x p d := by
  have hnothing (e : Ledger.Error) (s : Disk) (hs : Grown d s) : Abandoned x p d s := .inl hs
  refine meets_makeParent.bind fun _ => ?_
  refine (meets_failIf p x.looking hnothing).bind fun _ => ?_
  refine meets_lookUp.bind fun mode => ?_
  refine (meets_failIf _ x.opening hnothing).bind fun _ => ?_
  refine meets_fill.bind fun _ => ?_
  have hfailIf (q : Place) (mishap : Option Fs.Error) :
      Action.Meets (Written p d content) (failIf q mishap) (fun _ => Written p d content)
        fun _ => Written p d content := meets_failIf q mishap fun _ _ hs => hs
  refine (meets_orClear ((meets_grant mode).bind fun _ => hfailIf _ _)).bind fun _ => ?_
  exact meets_orClear ((hfailIf _ _).bind fun _ => meets_move)

theorem atomicWriteAmid_cases {r : Except Ledger.Error Unit} (h : (atomicWriteAmid x p content).exec d = (r, s)) :
    r = .ok () ∧ Moved p d content s ∨ (∃ e, r = .error e) ∧ Abandoned x p d s := by
  have hmeets : Action.Meets (· = d) (atomicWriteAmid x p content) (fun _ => Moved p d content)
      fun _ => Abandoned x p d := meets_atomicWriteAmid
  rcases r with e | ⟨⟩
  · exact .inr ⟨⟨e, rfl⟩, hmeets.throws _ _ _ rfl h⟩
  · exact .inl ⟨rfl, hmeets.yields _ _ _ rfl h⟩

end

/-! ## The frame -/

theorem settled_last (l : Location) : ∀ s ∈ (Place.settled l).getLast?, s ≠ "" ∧ s ≠ "." := by
  induction l using List.reverseRecOn with
  | nil => nofun
  | append_singleton l s ih =>
    rw [settled_concat]
    split
    · exact ih
    · next hs =>
      intro t ht
      rw [List.getLast?_concat] at ht
      obtain rfl := Option.some.inj ht
      rwa [not_or] at hs

/-- The temporary file is not where the file is. -/
theorem resolve_temporary_ne (p : Place) : resolve [] (temporary p).location ≠ resolve [] p.location := by
  unfold temporary Place.suffixed
  cases hname? : p.name? with
  | none =>
    have hsuffix := temporary_name ""
    rw [String.empty_append] at hsuffix
    dsimp only
    rw [resolve_child hsuffix]
    simp
  | some name =>
    dsimp only
    rw [resolve_child (temporary_name name), ← resolve_settled [] p.location]
    unfold Place.name? at hname?
    obtain ⟨hlast, hdots⟩ := Option.filter_eq_some_iff.mp hname?
    have hname := settled_last _ _ hlast
    obtain ⟨init, hsettled⟩ := List.getLast?_eq_some_iff.mp hlast
    have hparent : p.parent.location = Place.settled init := by
      rw [Place.parent, hsettled, List.dropLast_concat]
    have hsteps : ∀ s ∈ [name], s ≠ "" ∧ s ≠ "." ∧ s ≠ ".." := by
      intro s hs
      obtain rfl := List.mem_singleton.mp hs
      exact ⟨hname.1, hname.2, by simpa using hdots⟩
    rw [hparent, resolve_settled, hsettled, resolve_append, resolve_names hsteps]
    intro heq
    have hlast := congrArg List.getLast? heq
    rw [List.getLast?_concat, List.getLast?_concat] at hlast
    exact append_temporarySuffix_ne name (Option.some.inj hlast)

/-- What stands at a location stays, but for a directory where nothing stood. -/
def Kept (d d' : Disk) (m : Location) : Prop :=
  d'.node? m = d.node? m ∨ d.node? m = none ∧ d'.node? m = some .dir

variable {x : Mishaps} {p : Place} {d s : Disk} {content : ByteArray}

theorem Kept.fileAt {m : Location} (h : Kept d s m) : s.fileAt m = d.fileAt m := by
  rcases h with hsame | ⟨hnone, hdir⟩
  · exact fileAt_congr hsame
  · rw [fileAt_of_none hnone, Disk.fileAt, hdir]

theorem Moved.frame (h : Moved p d content s) :
    (∀ m, m ≠ resolve [] p.location → m ≠ resolve [] (temporary p).location → Kept d s m) ∧
      s.read p.location = .ok content ∧ s.find (temporary p).location = .error .notFound := by
  obtain ⟨d₁, l, k, mode, hgrown, hl, hk, hne, hview⟩ := h
  have hdirs (m : Location) (hm : d₁.node? m = some .dir) : s.node? m = some .dir :=
    dirs_of_move hl.not_dir hk.not_dir hview hm
  refine ⟨fun m hm hmt => ?_, ?_, ?_⟩
  · rw [← locate_eq_resolve hk.locate] at hm
    rw [← locate_eq_resolve hl.locate] at hmt
    unfold Kept
    rw [hview, Function.update_of_ne hm, Function.update_of_ne hmt]
    exact hgrown m
  · rw [read_of_locate (locate_mono hdirs hk.locate), hview, Function.update_self]
  · rw [find_of_locate (locate_mono hdirs hl.locate), hview, Function.update_of_ne hne, Function.update_self]

theorem Abandoned.frame (h : Abandoned x p d s) :
    (∀ m, m ≠ resolve [] (temporary p).location → Kept d s m) ∧
      (Kept d s (resolve [] (temporary p).location) ∨ s.node? (resolve [] (temporary p).location) = none ∨
        x.clearing ≠ none) := by
  rcases h with hgrown | ⟨d₁, l, n, hgrown, hl, hview, hcleared⟩
  · exact ⟨fun m _ => hgrown m, .inl (hgrown _)⟩
  rw [← locate_eq_resolve hl.locate]
  constructor
  · intro m hm
    unfold Kept
    rw [hview, Function.update_of_ne hm]
    exact hgrown m
  · by_cases hclearing : x.clearing = none
    · exact .inr (.inl (by rw [hview, Function.update_self, hcleared hclearing]))
    · exact .inr (.inr hclearing)

/-- **A write changes one file.** Whatever fails in its course, a write that succeeds leaves the content in the file and
no temporary file, and one that fails leaves the file as it is. Wherever else something stood, that is still there, and
where nothing stood there is nothing, or a directory. The one exception is the temporary file's own location: what stood
there is as it was, or gone. If the temporary file cannot be taken away, it may stay. -/
theorem atomicWrite_frame (p : Place) (content : ByteArray) (d : Disk) :
    (atomicWriteAmid {} p content).exec d = (atomicWrite p content).exec d ∧
      ∀ x r d', (atomicWriteAmid x p content).exec d = (r, d') →
        (∀ m, m ≠ resolve [] p.location → m ≠ resolve [] (temporary p).location → Kept d d' m) ∧
        match r with
        | .ok () => d'.read p.location = .ok content ∧ d'.find (temporary p).location = .error .notFound
        | .error _ => Kept d d' (resolve [] p.location) ∧
            (Kept d d' (resolve [] (temporary p).location) ∨
              d'.node? (resolve [] (temporary p).location) = none ∨ x.clearing ≠ none) := by
  refine ⟨atomicWriteAmid_none p content d, fun x r d' hrun => ?_⟩
  rcases atomicWriteAmid_cases hrun with ⟨rfl, hmoved⟩ | ⟨⟨e, rfl⟩, habandoned⟩
  · exact hmoved.frame
  · obtain ⟨hother, htemporary⟩ := habandoned.frame
    exact ⟨fun m _ => hother m, hother _ (resolve_temporary_ne p).symm, htemporary⟩

/-- A file, and another one with the name of its temporary file. -/
def siblings : Disk := ⟨[("a", .file "x".toUTF8 420), ("a.remedy-tmp", .file "k".toUTF8 420)]⟩

/-- A file in the directory of those files. -/
def inRoot (name : String) : Place := ⟨[name], "/" ++ name⟩

/-- A write whose bytes do not all arrive leaves the file, and takes the temporary file away. -/
theorem atomicWrite_frame_siblings :
    ∃ e d', (atomicWriteAmid { filling := some (ByteArray.empty, .denied) } (inRoot "a") "y".toUTF8).exec siblings =
        (.error e, d') ∧ Kept siblings d' ["a"] ∧ d'.node? ["a.remedy-tmp"] = none := by
  have hrun : (atomicWriteAmid { filling := some (ByteArray.empty, .denied) } (inRoot "a") "y".toUTF8).exec siblings =
      (.error (.io (temporary (inRoot "a")) .denied), ⟨[("a", .file "x".toUTF8 420)]⟩) := rfl
  obtain ⟨-, hkept, -⟩ := (atomicWrite_frame (inRoot "a") "y".toUTF8 siblings).2 _ _ _ hrun
  exact ⟨_, _, hrun, hkept, rfl⟩

/-- The file with the name of the temporary file is lost. -/
theorem sibling_lost :
    ¬ ∀ (p : Place) (content : ByteArray) (d d' : Disk), (atomicWrite p content).exec d = (.ok (), d') →
      ∀ m, m ≠ resolve [] p.location → ∀ c, d.fileAt m = some c → d'.fileAt m = some c := by
  intro h
  have hwrite : (atomicWrite (inRoot "a") "y".toUTF8).exec siblings = (.ok (), ⟨[("a", .file "y".toUTF8 420)]⟩) := rfl
  have hkept := h _ _ _ _ hwrite ["a.remedy-tmp"] (by decide) "k".toUTF8 rfl
  cases hkept

end Mend.Ledger
