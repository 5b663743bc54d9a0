import Mend.Ledger.Layout
import Mend.Proofs.Fs.Inversion
import Mend.Proofs.Ledger.AtomicWrite

/-!
# Writing files that may not be writable

Whatever comes of an atomic write, it changes at most the file and the temporary file beside it
(`fileAt_atomicWrite`). One that succeeds leaves the content, and no temporary file (`atomicWrite_ok`). A line
that is appended changes at most its file (`fileAt_appendLine`). So what is done to a file in a directory
touches no file elsewhere (`fileAt_atomicWrite_child`).
-/

namespace Mend.Ledger

open Fs Fs.Disk
open Function (update)

section

variable {p : Place} {content : ByteArray} {mode : Option Nat} {d d' : Disk} {r : Except Ledger.Error Unit}

/-- The parts of a computation that does not fail do not fail. -/
theorem bind_ok {ε α β : Type} {x : Except ε α} {f : α → Except ε β} {b : β} (h : x >>= f = .ok b) :
    ∃ a, x = .ok a ∧ f a = .ok b := by
  cases x with
  | error e => cases h
  | ok a => exact ⟨a, rfl, h⟩

theorem fileAt_makeParent (h : (makeParent p).exec d = (r, d')) (m : Location) : d'.fileAt m = d.fileAt m := by
  rw [disk_makeParent h]
  exact (grown_mkdirs d _).fileAt m

/-- The write of the temporary file. -/
def writeTemporary (p : Place) (content : ByteArray) : DiskAction Error Unit :=
  Action.update fun d => at_ (temporary p) (d.write (temporary p).location content)

/-- Either nothing was written, or the temporary file was. -/
theorem writeTemporary_cases (h : (writeTemporary p content).exec d = (r, d')) :
    (∃ e, r = .error e ∧ d' = d) ∨
      ∃ l mode, r = .ok () ∧ Slot d (temporary p).location l ∧
        d'.node? = update d.node? l (some (.file content mode)) := by
  rw [writeTemporary, Action.exec_update] at h
  cases hwrite : d.write (temporary p).location content with
  | error e =>
    simp only [hwrite, at_] at h
    obtain ⟨rfl, rfl⟩ := Prod.mk.inj h
    exact .inl ⟨_, rfl, rfl⟩
  | ok d₁ =>
    simp only [hwrite, at_] at h
    obtain ⟨rfl, rfl⟩ := Prod.mk.inj h
    obtain ⟨l, mode, hslot, hview⟩ := write_ok hwrite
    exact .inr ⟨l, mode, rfl, hslot, hview⟩

/-- The temporary file has its content, whether or not it could be given its permissions. -/
theorem grant_cases {l : Location} {old : Nat} (hslot : Slot d (temporary p).location l)
    (hfile : d.node? l = some (.file content old)) (h : (grant (temporary p) mode).exec d = (r, d')) :
    ∃ new, d'.node? = update d.node? l (some (.file content new)) := by
  cases mode with
  | none =>
    obtain ⟨-, rfl⟩ := Prod.mk.inj h
    exact ⟨old, by rw [← hfile, Function.update_eq_self]⟩
  | some new =>
    rw [grant, Action.exec_update] at h
    cases hchmod : d.chmod (temporary p).location new with
    | error e =>
      simp only [hchmod, at_] at h
      obtain ⟨-, rfl⟩ := Prod.mk.inj h
      exact ⟨old, by rw [← hfile, Function.update_eq_self]⟩
    | ok d₁ =>
      simp only [hchmod, at_] at h
      obtain ⟨-, rfl⟩ := Prod.mk.inj h
      exact ⟨new, chmod_ok hslot hfile hchmod⟩

/-- The temporary file is moved to its place, or stays, or is taken away. -/
theorem settle_cases {l : Location} {m : Nat} (hslot : Slot d (temporary p).location l)
    (hfile : d.node? l = some (.file content m)) (h : (settle p).exec d = (r, d')) :
    (r = .ok () ∧ ∃ k, Slot d p.location k ∧ l ≠ k ∧
        d'.node? = update (update d.node? l none) k (some (.file content m))) ∨
      (∃ e, r = .error e) ∧ (d' = d ∨ d'.node? = update d.node? l none) := by
  rw [settle, Action.exec_ofFun] at h
  cases hrename : d.rename (temporary p).location p.location with
  | ok d₁ =>
    simp only [hrename] at h
    obtain ⟨rfl, rfl⟩ := Prod.mk.inj h
    obtain ⟨k, hk⟩ := slot_of_rename hslot hfile hrename
    have hne : l ≠ k := by
      obtain ⟨base, init, name, -, rfl, -, -, htemporary, hlocate, hbase⟩ := slot_parts hk
      have hl := locate_eq_resolve hslot.locate
      rw [htemporary, resolve_append, ← locate_eq_resolve hlocate] at hl
      have hname := temporary_name name
      rw [resolve_names (by simpa using hname)] at hl
      rw [hl]
      simpa using append_temporarySuffix_ne name
    obtain ⟨d₂, hrename', hview⟩ := rename_slot hslot hk hfile hne
    rw [hrename] at hrename'
    exact .inl ⟨rfl, k, hk, hne, Except.ok.inj hrename' ▸ hview⟩
  | error e =>
    simp only [hrename] at h
    obtain ⟨rfl, rfl⟩ := Prod.mk.inj h
    refine .inr ⟨⟨_, rfl⟩, ?_⟩
    cases hunlink : d.unlink (temporary p).location with
    | error e => exact .inl rfl
    | ok d₁ =>
      obtain ⟨k, hk, hview⟩ := unlink_ok hunlink
      have hkl : k = l := Except.ok.inj (hk.locate.symm.trans hslot.locate)
      exact .inr (hkl ▸ hview)

/-- A slot was one before a file was written elsewhere. -/
theorem slot_before {steps l k : Location} {m : Nat} (hview : d'.node? = update d.node? l (some (.file content m)))
    (hk : Slot d' steps k) (hne : l ≠ k) : Slot d steps k := by
  refine ⟨locate_mono (fun j hj => ?_) hk.locate, ?_⟩
  · have hjl : j ≠ l := by
      rintro rfl
      rw [hview, Function.update_self] at hj
      cases hj
    rwa [hview, Function.update_of_ne hjl] at hj
  · have hleaf := hk.not_dir
    rwa [hview, Function.update_of_ne (Ne.symm hne)] at hleaf

/-- What becomes of a disk when a temporary file is made and moved to its place, or at least tried to. -/
theorem replace_cases (h : (replace p content mode).exec d = (r, d')) :
    (r = .ok () ∧ ∃ l k new, Slot d (temporary p).location l ∧ Slot d p.location k ∧ l ≠ k ∧
        d'.node? = update (update d.node? l none) k (some (.file content new))) ∨
      (∃ e, r = .error e) ∧ (d' = d ∨ ∃ l n, Slot d (temporary p).location l ∧ d'.node? = update d.node? l n) := by
  have hreplace : replace p content mode = (do writeTemporary p content; grant (temporary p) mode; settle p) := rfl
  rw [hreplace, Action.exec_bind] at h
  cases hwrite : (writeTemporary p content).exec d with
  | mk r₁ d₁ =>
  rw [hwrite] at h
  rcases writeTemporary_cases hwrite with ⟨e, rfl, rfl⟩ | ⟨l, m₁, rfl, hslot, hview₁⟩
  · obtain ⟨rfl, rfl⟩ := Prod.mk.inj h
    exact .inr ⟨⟨e, rfl⟩, .inl rfl⟩
  dsimp only at h
  rw [Action.exec_bind] at h
  have hslot₁ := hslot.of_update hview₁
  cases hgrant : (grant (temporary p) mode).exec d₁ with
  | mk r₂ d₂ =>
  rw [hgrant] at h
  obtain ⟨m₂, hview₂⟩ := grant_cases hslot₁ (by rw [hview₁, Function.update_self]) hgrant
  have hview : d₂.node? = update d.node? l (some (.file content m₂)) := by
    rw [hview₂, hview₁, Function.update_idem]
  cases r₂ with
  | error e =>
    obtain ⟨rfl, rfl⟩ := Prod.mk.inj h
    exact .inr ⟨⟨e, rfl⟩, .inr ⟨l, _, hslot, hview⟩⟩
  | ok =>
    dsimp only at h
    rcases settle_cases (hslot.of_update hview) (by rw [hview, Function.update_self]) h with
      ⟨rfl, k, hk, hne, hview'⟩ | ⟨herror, rfl | hview'⟩
    · exact .inl ⟨rfl, l, k, m₂, hslot, slot_before hview hk hne, hne, by rw [hview', hview, Function.update_idem]⟩
    · exact .inr ⟨herror, .inr ⟨l, _, hslot, hview⟩⟩
    · exact .inr ⟨herror, .inr ⟨l, _, hslot, by rw [hview', hview, Function.update_idem]⟩⟩

/-- An atomic write first makes directories; then it may fail, or it goes on with the temporary file. -/
theorem atomicWrite_parts (h : (atomicWrite p content).exec d = (r, d')) :
    (∃ e, r = .error e) ∧ d' = (d.mkdirs p.parent.location).2 ∨
      ∃ d₁ mode, (makeParent p).exec d = (.ok (), d₁) ∧ (replace p content mode).exec d₁ = (r, d') := by
  cases hmake : (makeParent p).exec d with
  | mk r₁ d₁ =>
  have hmade : d₁ = (d.mkdirs p.parent.location).2 := disk_makeParent hmake
  rw [atomicWrite, Action.exec_bind, hmake] at h
  cases r₁ with
  | error e =>
    obtain ⟨rfl, rfl⟩ := Prod.mk.inj h
    exact .inl ⟨⟨e, rfl⟩, hmade⟩
  | ok =>
    dsimp only at h
    rw [Action.exec_bind, Action.exec_query] at h
    split at h
    · next mode t heq =>
      obtain ⟨hmode, rfl⟩ := Prod.mk.inj heq
      refine .inr ⟨d₁, mode, rfl, ?_⟩
      rw [← h]
      cases mode <;> rfl
    · next e t heq =>
      obtain ⟨hmode, rfl⟩ := Prod.mk.inj heq
      obtain ⟨rfl, rfl⟩ := Prod.mk.inj h
      exact .inl ⟨⟨e, rfl⟩, hmade⟩

theorem atomicWrite_cases (h : (atomicWrite p content).exec d = (r, d')) :
    ∃ d₁, Grown d d₁ ∧ ((∃ e, r = .error e) ∧ d' = d₁ ∨
      (makeParent p).exec d = (.ok (), d₁) ∧ ∃ mode, (replace p content mode).exec d₁ = (r, d')) := by
  rcases atomicWrite_parts h with ⟨herror, rfl⟩ | ⟨d₁, mode, hmake, hreplace⟩
  · exact ⟨_, grown_mkdirs d _, .inl ⟨herror, rfl⟩⟩
  · refine ⟨d₁, ?_, .inr ⟨hmake, mode, hreplace⟩⟩
    rw [disk_makeParent hmake]
    exact grown_mkdirs d _

/-- Whatever comes of an atomic write, no other file is touched. -/
theorem fileAt_atomicWrite (h : (atomicWrite p content).exec d = (r, d')) {m : Location}
    (hplace : m ≠ resolve [] p.location) (htemporary : m ≠ resolve [] (temporary p).location) :
    d'.fileAt m = d.fileAt m := by
  obtain ⟨d₁, hgrown, ⟨-, rfl⟩ | ⟨-, mode, hreplace⟩⟩ := atomicWrite_cases h
  · exact hgrown.fileAt m
  rw [← hgrown.fileAt m]
  rcases replace_cases hreplace with ⟨-, l, k, new, hl, hk, -, hview⟩ | ⟨-, rfl | ⟨l, n, hl, hview⟩⟩
  · rw [← locate_eq_resolve hk.locate] at hplace
    rw [← locate_eq_resolve hl.locate] at htemporary
    exact fileAt_congr (by rw [hview, Function.update_of_ne hplace, Function.update_of_ne htemporary])
  · rfl
  · rw [← locate_eq_resolve hl.locate] at htemporary
    exact fileAt_of_update hview htemporary

/-- An atomic write that succeeds was made in a slot. The content is there, and no temporary file. -/
theorem atomicWrite_ok (h : (atomicWrite p content).exec d = (.ok (), d')) :
    ∃ d₁ l k mode, (makeParent p).exec d = (.ok (), d₁) ∧ Slot d₁ (temporary p).location l ∧
      Slot d₁ p.location k ∧ l ≠ k ∧ d'.node? = update (update d₁.node? l none) k (some (.file content mode)) := by
  obtain ⟨d₁, -, ⟨⟨e, he⟩, -⟩ | ⟨hmake, mode, hreplace⟩⟩ := atomicWrite_cases h
  · cases he
  rcases replace_cases hreplace with ⟨-, l, k, new, hl, hk, hne, hview⟩ | ⟨⟨e, he⟩, -⟩
  · exact ⟨d₁, l, k, new, hmake, hl, hk, hne, hview⟩
  · cases he

/-- Whatever comes of appending a line, no other file is touched. -/
theorem fileAt_appendLine {line : String} (h : (appendLine p line).exec d = (r, d')) {m : Location}
    (hplace : m ≠ resolve [] p.location) : d'.fileAt m = d.fileAt m := by
  rw [appendLine, Action.exec_bind] at h
  cases hmake : (makeParent p).exec d with
  | mk r₁ d₁ =>
  rw [hmake] at h
  rw [← fileAt_makeParent hmake m]
  cases r₁ with
  | error e =>
    obtain ⟨-, rfl⟩ := Prod.mk.inj h
    rfl
  | ok =>
    dsimp only at h
    rw [Action.exec_update] at h
    cases hchange : (do
        let d ← d₁.touch p.location
        let log ← d.read p.location
        d.write p.location (withLine log line)) with
    | error e =>
      rw [hchange] at h
      obtain ⟨-, rfl⟩ := Prod.mk.inj h
      rfl
    | ok d₃ =>
      rw [hchange] at h
      obtain ⟨-, rfl⟩ := Prod.mk.inj h
      obtain ⟨d₂, htouch, hrest⟩ := bind_ok hchange
      obtain ⟨log, -, hwrite⟩ := bind_ok hrest
      obtain ⟨l, mode, hl, hview⟩ := touch_ok htouch
      obtain ⟨k, mode', hk, hview'⟩ := write_ok hwrite
      rw [fileAt_of_update hview' (by rwa [← locate_eq_resolve hk.locate] at hplace),
        fileAt_of_update hview (by rwa [← locate_eq_resolve hl.locate] at hplace)]

/-- Whatever comes of opening a lock, no other file is touched. -/
theorem fileAt_openLock (h : (openLock p).exec d = (r, d')) {m : Location} (hplace : m ≠ resolve [] p.location) :
    d'.fileAt m = d.fileAt m := by
  rw [openLock, Action.exec_bind] at h
  cases hmake : (makeParent p).exec d with
  | mk r₁ d₁ =>
  rw [hmake] at h
  rw [← fileAt_makeParent hmake m]
  cases r₁ with
  | error e =>
    obtain ⟨-, rfl⟩ := Prod.mk.inj h
    rfl
  | ok =>
    dsimp only at h
    rw [Action.exec_update] at h
    cases htouch : d₁.touch p.location with
    | error e =>
      simp only [htouch, at_] at h
      obtain ⟨-, rfl⟩ := Prod.mk.inj h
      rfl
    | ok d₂ =>
      simp only [htouch, at_] at h
      obtain ⟨-, rfl⟩ := Prod.mk.inj h
      obtain ⟨l, mode, hl, hview⟩ := touch_ok htouch
      exact fileAt_of_update hview (by rwa [← locate_eq_resolve hl.locate] at hplace)

end

/-! ## Files of a directory -/

theorem resolve_settled (at_ l : Location) : resolve at_ (Place.settled l) = resolve at_ l := by
  induction l using List.reverseRecOn with
  | nil => rfl
  | append_singleton l s ih =>
    rw [settled_concat]
    split
    · next hs =>
      rw [ih, resolve_append, resolve, if_pos (by simpa using hs), resolve]
    · rfl

section

variable {dir : Place} {name : String} (hname : name ≠ "" ∧ name ≠ "." ∧ name ≠ "..")

include hname

theorem parent_child : (dir.child name).parent.location = Place.settled dir.location := by
  have hsettled : Place.settled (dir.child name).location = dir.location ++ [name] := by
    rw [Place.child, settled_concat, if_neg (by simp [hname])]
  rw [Place.parent, hsettled, List.dropLast_concat]

theorem temporary_child :
    (temporary (dir.child name)).location = Place.settled dir.location ++ [name ++ temporarySuffix] := by
  have hsettled : Place.settled (dir.child name).location = dir.location ++ [name] := by
    rw [Place.child, settled_concat, if_neg (by simp [hname])]
  have hname? : (dir.child name).name? = some name := by
    rw [Place.name?, hsettled]
    simp [Option.filter, hname.2.2]
  rw [temporary, Place.suffixed, hname?]
  show (dir.child name).parent.location ++ [name ++ temporarySuffix] = _
  rw [parent_child hname]

theorem resolve_child : resolve [] (dir.child name).location = resolve [] dir.location ++ [name] := by
  rw [Place.child, resolve_append, resolve_names (by simpa using hname)]

theorem resolve_temporary_child :
    resolve [] (temporary (dir.child name)).location = resolve [] dir.location ++ [name ++ temporarySuffix] := by
  rw [temporary_child hname, resolve_append, resolve_settled,
    resolve_names (by simpa using temporary_name name)]

omit hname in
theorem ne_child {m : Location} (hm : ¬ resolve [] dir.location <+: m) (s : String) :
    m ≠ resolve [] dir.location ++ [s] := by
  rintro rfl
  exact hm (List.prefix_append _ _)

variable {d d' : Disk} {r : Except Ledger.Error Unit} {m : Location}

/-- A write of a file in a directory touches no file elsewhere. -/
theorem fileAt_atomicWrite_child {content : ByteArray} (h : (atomicWrite (dir.child name) content).exec d = (r, d'))
    (hm : ¬ resolve [] dir.location <+: m) : d'.fileAt m = d.fileAt m := by
  apply fileAt_atomicWrite h
  · rw [resolve_child hname]
    exact ne_child hm _
  · rw [resolve_temporary_child hname]
    exact ne_child hm _

theorem fileAt_appendLine_child {line : String} (h : (appendLine (dir.child name) line).exec d = (r, d'))
    (hm : ¬ resolve [] dir.location <+: m) : d'.fileAt m = d.fileAt m := by
  apply fileAt_appendLine h
  rw [resolve_child hname]
  exact ne_child hm _

theorem fileAt_openLock_child (h : (openLock (dir.child name)).exec d = (r, d'))
    (hm : ¬ resolve [] dir.location <+: m) : d'.fileAt m = d.fileAt m := by
  apply fileAt_openLock h
  rw [resolve_child hname]
  exact ne_child hm _

end

end Mend.Ledger
