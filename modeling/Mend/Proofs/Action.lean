import Mend.Fs.Action

/-!
# Running actions

What each way of building an action does to a state: its result and the state it leaves. An action keeps
what all its parts keep (`Keeps`), and yields what its parts yield one after the other (`Yields`). It
succeeds if all its parts do (`Succeeds`), and fails as one of its parts fails (`Throws`).
-/

namespace Mend.Action

variable {σ τ ε δ α β : Type}

@[simp] theorem exec_pure (a : α) (s : σ) : (pure a : Action σ ε α).exec s = (.ok a, s) := rfl

@[simp] theorem exec_throw (e : ε) (s : σ) : (throw e : Action σ ε α).exec s = (.error e, s) := rfl

@[simp] theorem exec_get (s : σ) : (get : Action σ ε σ).exec s = (.ok s, s) := rfl

@[simp] theorem exec_set (t s : σ) : (set t : Action σ ε PUnit).exec s = (.ok ⟨⟩, t) := rfl

@[simp] theorem exec_modify (f : σ → σ) (s : σ) : (modify f : Action σ ε PUnit).exec s = (.ok ⟨⟩, f s) := rfl

theorem exec_bind (act : Action σ ε α) (f : α → Action σ ε β) (s : σ) :
    (act >>= f).exec s = match act.exec s with
      | (.ok a, t) => (f a).exec t
      | (.error e, t) => (.error e, t) := by
  show ExceptT.bindCont f (act.exec s).1 (act.exec s).2 = _
  rcases act.exec s with ⟨_ | _, _⟩ <;> rfl

theorem exec_bind_ok {act : Action σ ε α} {s t : σ} {a : α} (h : act.exec s = (.ok a, t))
    (f : α → Action σ ε β) : (act >>= f).exec s = (f a).exec t := by
  rw [exec_bind, h]

theorem exec_bind_error {act : Action σ ε α} {s t : σ} {e : ε} (h : act.exec s = (.error e, t))
    (f : α → Action σ ε β) : (act >>= f).exec s = (.error e, t) := by
  rw [exec_bind, h]

@[simp] theorem exec_pure_bind (a : α) (f : α → Action σ ε β) (s : σ) :
    ((pure a : Action σ ε α) >>= f).exec s = (f a).exec s := rfl

@[simp] theorem exec_ofFun (f : σ → Except ε α × σ) (s : σ) : (ofFun f).exec s = f s := rfl

@[simp] theorem exec_query (f : σ → Except ε α) (s : σ) : (query f).exec s = (f s, s) := rfl

theorem exec_update (f : σ → Except ε σ) (s : σ) :
    (update f).exec s = match f s with
      | .ok t => (.ok (), t)
      | .error e => (.error e, s) := rfl

@[simp] theorem exec_outcome (act : Action σ ε α) (s : σ) :
    (act.outcome : Action σ δ (Except ε α)).exec s = (.ok (act.exec s).1, (act.exec s).2) := rfl

theorem exec_mapError (f : ε → δ) (act : Action σ ε α) (s : σ) :
    (act.mapError f).exec s = ((act.exec s).1.mapError f, (act.exec s).2) := by
  show (match act.exec s with
    | (.ok a, t) => ((.ok a : Except δ α), t)
    | (.error e, t) => (.error (f e), t)) = _
  rcases act.exec s with ⟨_ | _, _⟩ <;> rfl

theorem ok_of_mapError {f : ε → δ} {r : Except ε α} {a : α} (h : r.mapError f = .ok a) : r = .ok a := by
  cases r with
  | error e => cases h
  | ok b => exact congrArg Except.ok (Except.ok.inj h)

@[simp] theorem exec_zoom (get : τ → σ) (set : σ → τ → τ) (act : Action σ ε α) (t : τ) :
    (act.zoom get set).exec t = ((act.exec (get t)).1, set (act.exec (get t)).2 t) := rfl

theorem forM_cons (f : α → Action σ ε PUnit) (a : α) (rest : List α) :
    (a :: rest).forM f = (do f a; rest.forM f) := rfl

/-! ## Invariants -/

/-- What held of the state still holds, whatever came of the action. -/
def Keeps (P : σ → Prop) (act : Action σ ε α) : Prop := ∀ s, P s → P (act.exec s).2

/-- If the action succeeds, something holds of what it returns and of the state it leaves. -/
def Yields (P : σ → Prop) (act : Action σ ε α) (Q : α → σ → Prop) : Prop :=
  ∀ s a t, P s → act.exec s = (.ok a, t) → Q a t

section

variable {P : σ → Prop} {Q : α → σ → Prop} {R : β → σ → Prop} {act : Action σ ε α}

theorem keeps_pure (a : α) : Keeps P (pure a : Action σ ε α) := fun _ h => h

theorem keeps_throw (e : ε) : Keeps P (throw e : Action σ ε α) := fun _ h => h

theorem keeps_get : Keeps P (get : Action σ ε σ) := fun _ h => h

theorem keeps_query (f : σ → Except ε α) : Keeps P (query f) := fun _ h => h

theorem Keeps.bind {f : α → Action σ ε β} (h : Keeps P act) (hf : ∀ a, Keeps P (f a)) : Keeps P (act >>= f) := by
  intro s hs
  have hact := h s hs
  rw [exec_bind]
  rcases hrun : act.exec s with ⟨r, t⟩
  rw [hrun] at hact
  cases r with
  | error e => exact hact
  | ok a => exact hf a t hact

theorem Keeps.outcome (h : Keeps P act) : Keeps P (act.outcome : Action σ δ (Except ε α)) := h

theorem Keeps.mapError (h : Keeps P act) (f : ε → δ) : Keeps P (act.mapError f) := by
  intro s hs
  rw [exec_mapError]
  exact h s hs

theorem Keeps.forM {f : β → Action σ ε PUnit} {xs : List β} (h : ∀ x ∈ xs, Keeps P (f x)) : Keeps P (xs.forM f) := by
  induction xs with
  | nil => exact keeps_pure _
  | cons x xs ih => exact (h x (by simp)).bind fun _ => ih fun y hy => h y (by simp [hy])

theorem Keeps.mapM {f : β → Action σ ε α} {xs : List β} (h : ∀ x ∈ xs, Keeps P (f x)) : Keeps P (xs.mapM f) := by
  induction xs with
  | nil => exact keeps_pure _
  | cons x xs ih =>
    rw [List.mapM_cons]
    exact (h x (by simp)).bind fun _ => (ih fun y hy => h y (by simp [hy])).bind fun _ => keeps_pure _

/-- An invariant is kept in particular by an action that succeeds. -/
theorem Keeps.yields (h : Keeps P act) : Yields P act fun _ => P := by
  intro s a t hs hrun
  have hkept := h s hs
  rwa [hrun] at hkept

theorem Yields.bind {f : α → Action σ ε β} (h : Yields P act Q) (hf : ∀ a, Yields (Q a) (f a) R) :
    Yields P (act >>= f) R := by
  intro s b t hs hrun
  rw [exec_bind] at hrun
  rcases hact : act.exec s with ⟨r, t'⟩
  rw [hact] at hrun
  cases r with
  | error e => cases (Prod.mk.inj hrun).1
  | ok a => exact hf a t' b t (h s a t' hs hact) hrun

theorem yields_pure {a : α} (h : ∀ s, P s → Q a s) : Yields P (pure a : Action σ ε α) Q := by
  intro s b t hs hrun
  obtain ⟨hb, rfl⟩ := Prod.mk.inj hrun
  obtain rfl := Except.ok.inj hb
  exact h _ hs

theorem Yields.forM {f : β → Action σ ε PUnit} {xs : List β} (h : ∀ x ∈ xs, Yields P (f x) fun _ => P) :
    Yields P (xs.forM f) fun _ => P := by
  induction xs with
  | nil => exact yields_pure fun _ hs => hs
  | cons x xs ih => exact (h x (by simp)).bind fun _ => ih fun y hy => h y (by simp [hy])

theorem Yields.mapM {f : β → Action σ ε α} {xs : List β} (h : ∀ x ∈ xs, Yields P (f x) fun _ => P) :
    Yields P (xs.mapM f) fun _ => P := by
  induction xs with
  | nil => exact yields_pure fun _ hs => hs
  | cons x xs ih =>
    rw [List.mapM_cons]
    exact (h x (by simp)).bind fun _ => (ih fun y hy => h y (by simp [hy])).bind fun _ => yields_pure fun _ hs => hs

/-- If the action fails, something holds of the failure and of the state it leaves. -/
def Throws (P : σ → Prop) (act : Action σ ε α) (E : ε → σ → Prop) : Prop :=
  ∀ s e t, P s → act.exec s = (.error e, t) → E e t

variable {E : ε → σ → Prop}

theorem throws_pure (a : α) : Throws P (pure a : Action σ ε α) E := fun _ _ _ _ hrun => nomatch (Prod.mk.inj hrun).1

theorem throws_get : Throws P (get : Action σ ε σ) E := fun _ _ _ _ hrun => nomatch (Prod.mk.inj hrun).1

theorem throws_modify (f : σ → σ) : Throws P (modify f : Action σ ε PUnit) E :=
  fun _ _ _ _ hrun => nomatch (Prod.mk.inj hrun).1

theorem throws_throw {e : ε} (h : ∀ s, P s → E e s) : Throws P (throw e : Action σ ε α) E := by
  intro s e' t hs hrun
  obtain ⟨he, rfl⟩ := Prod.mk.inj hrun
  obtain rfl := Except.error.inj he
  exact h _ hs

theorem throws_query {f : σ → Except ε α} (h : ∀ s e, P s → f s = .error e → E e s) : Throws P (query f) E := by
  intro s e t hs hrun
  obtain ⟨he, rfl⟩ := Prod.mk.inj hrun
  exact h _ _ hs he

theorem Throws.bind {f : α → Action σ ε β} (h : Throws P act E) (hy : Yields P act Q)
    (hf : ∀ a, Throws (Q a) (f a) E) : Throws P (act >>= f) E := by
  intro s e t hs hrun
  rw [exec_bind] at hrun
  rcases hact : act.exec s with ⟨err | a, t'⟩
  · rw [hact] at hrun
    obtain ⟨he, rfl⟩ := Prod.mk.inj hrun
    obtain rfl := Except.error.inj he
    exact h _ _ _ hs hact
  · rw [hact] at hrun
    exact hf a t' e t (hy _ _ _ hs hact) hrun

theorem Throws.mapM {f : β → Action σ ε α} {xs : List β} (h : ∀ x ∈ xs, Throws (fun _ => True) (f x) E) :
    Throws (fun _ => True) (xs.mapM f) E := by
  induction xs with
  | nil => exact throws_pure _
  | cons x xs ih =>
    rw [List.mapM_cons]
    refine (h x (by simp)).bind (Q := fun _ _ => True) (fun _ _ _ _ _ => trivial) fun _ => ?_
    exact (ih fun y hy => h y (by simp [hy])).bind (Q := fun _ _ => True) (fun _ _ _ _ _ => trivial) fun _ =>
      throws_pure _

/-- What an action fails with is renamed. -/
theorem throws_mapError {P : σ → Prop} {act : Action σ δ α} {f : δ → ε} (h : ∀ e s, E (f e) s) :
    Throws P (act.mapError f) E := by
  intro s e t _ hrun
  rw [exec_mapError] at hrun
  obtain ⟨he, -⟩ := Prod.mk.inj hrun
  cases hact : (act.exec s).1 with
  | error cause =>
    rw [hact] at he
    obtain rfl := Except.error.inj he
    exact h cause t
  | ok a =>
    rw [hact] at he
    cases he

/-- Whatever an action is, something trivial is known afterwards. -/
theorem yields_any : Yields P act fun _ _ => True := fun _ _ _ _ _ => trivial

/-- What holds of an action that succeeds, and of one that fails. -/
structure Meets (P : σ → Prop) (act : Action σ ε α) (Q : α → σ → Prop) (E : ε → σ → Prop) : Prop where
  yields : Yields P act Q
  throws : Throws P act E

theorem Meets.bind {f : α → Action σ ε β} (h : Meets P act Q E) (hf : ∀ a, Meets (Q a) (f a) R E) :
    Meets P (act >>= f) R E :=
  ⟨h.yields.bind fun a => (hf a).yields, h.throws.bind h.yields fun a => (hf a).throws⟩

theorem Meets.or {P' : σ → Prop} (h : Meets P act Q E) (h' : Meets P' act Q E) : Meets (fun s => P s ∨ P' s) act Q E where
  yields s a t hs hrun := hs.elim (h.yields s a t · hrun) (h'.yields s a t · hrun)
  throws s e t hs hrun := hs.elim (h.throws s e t · hrun) (h'.throws s e t · hrun)

/-- What is known from the start and does not depend on the state. -/
theorem Meets.given {φ : Prop} (h : φ → Meets P act Q E) : Meets (fun s => P s ∧ φ) act Q E where
  yields s a t hs hrun := (h hs.2).yields s a t hs.1 hrun
  throws s e t hs hrun := (h hs.2).throws s e t hs.1 hrun

theorem meets_pure {a : α} (h : ∀ s, P s → Q a s) : Meets P (pure a : Action σ ε α) Q E := ⟨yields_pure h, throws_pure a⟩

theorem Meets.forM {f : β → Action σ ε PUnit} {xs : List β} (h : ∀ x ∈ xs, Meets P (f x) (fun _ => P) E) :
    Meets P (xs.forM f) (fun _ => P) E := by
  induction xs with
  | nil => exact meets_pure fun _ hs => hs
  | cons x xs ih => exact (h x (by simp)).bind fun _ => ih fun y hy => h y (by simp [hy])

/-- What came of an action is known either way. -/
theorem Meets.outcome {D : δ → σ → Prop} (h : Meets P act Q E) :
    Meets P (act.outcome : Action σ δ (Except ε α)) (fun r s => match r with
      | .ok a => Q a s
      | .error e => E e s) D := by
  refine ⟨fun s r t hs hrun => ?_, fun s e t _ hrun => nomatch (Prod.mk.inj hrun).1⟩
  rw [exec_outcome] at hrun
  obtain ⟨hr, rfl⟩ := Prod.mk.inj hrun
  obtain rfl := Except.ok.inj hr
  cases hact : (act.exec s).1 with
  | ok a => exact h.yields s a _ hs (Prod.ext hact rfl)
  | error e => exact h.throws s e _ hs (Prod.ext hact rfl)

theorem meets_get : Meets P (get : Action σ ε σ) (fun _ => P) E := ⟨keeps_get.yields, throws_get⟩

theorem meets_modify {f : σ → σ} {S : σ → Prop} (h : ∀ s, P s → S (f s)) :
    Meets P (modify f : Action σ ε PUnit) (fun _ => S) E where
  yields := by
    intro s _ t hs hrun
    obtain ⟨-, rfl⟩ := Prod.mk.inj hrun
    exact h s hs
  throws := throws_modify f

theorem meets_throw {e : ε} (h : ∀ s, P s → E e s) : Meets P (throw e : Action σ ε α) Q E where
  yields _ _ _ _ hrun := nomatch (Prod.mk.inj hrun).1
  throws := throws_throw h

/-- The action succeeds wherever something holds, and that still holds then. -/
def Succeeds (P : σ → Prop) (act : Action σ ε α) : Prop := ∀ s, P s → ∃ a t, act.exec s = (.ok a, t) ∧ P t

theorem succeeds_pure (a : α) : Succeeds P (pure a : Action σ ε α) := fun s hs => ⟨a, s, rfl, hs⟩

theorem succeeds_get : Succeeds P (get : Action σ ε σ) := fun s hs => ⟨s, s, rfl, hs⟩

theorem Succeeds.bind {f : α → Action σ ε β} (h : Succeeds P act) (hf : ∀ a, Succeeds P (f a)) :
    Succeeds P (act >>= f) := by
  intro s hs
  obtain ⟨a, t, hact, ht⟩ := h s hs
  rw [exec_bind_ok hact]
  exact hf a t ht

theorem Succeeds.forM {f : β → Action σ ε PUnit} {xs : List β} (h : ∀ x ∈ xs, Succeeds P (f x)) :
    Succeeds P (xs.forM f) := by
  induction xs with
  | nil => exact succeeds_pure _
  | cons x xs ih => exact (h x (by simp)).bind fun _ => ih fun y hy => h y (by simp [hy])

theorem Succeeds.mapM {f : β → Action σ ε α} {xs : List β} (h : ∀ x ∈ xs, Succeeds P (f x)) :
    Succeeds P (xs.mapM f) := by
  induction xs with
  | nil => exact succeeds_pure _
  | cons x xs ih =>
    rw [List.mapM_cons]
    exact (h x (by simp)).bind fun _ => (ih fun y hy => h y (by simp [hy])).bind fun _ => succeeds_pure _

end

end Mend.Action
