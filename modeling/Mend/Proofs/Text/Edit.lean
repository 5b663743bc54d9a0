import Mathlib.Data.List.Basic
import Mathlib.Tactic.Common
import Mend.Proofs.Text

/-!
# One byte replaced

Two lists that differ in exactly one place, and what that says of their parts: where both end parts in
the same mark, the place lies in one part, unless the mark itself is what was replaced and one part begins with
the other (`OneApart.part`). Line feeds are such marks (`OneApart.lines`), and so are quotes before commas
(`OneApart.values`).
-/

namespace Mend.Text

variable {α : Type} {xs ys l m x y : List α} {t : α}

/-- Parts that lack their mark are told apart from what follows it. -/
theorem append_cons_inj (hl : t ∉ l) (hm : t ∉ m) (h : l ++ t :: x = m ++ t :: y) : l = m ∧ x = y := by
  induction l generalizing m with
  | nil =>
    cases m with
    | nil => exact ⟨rfl, (List.cons.inj h).2⟩
    | cons d m => exact absurd (List.mem_cons.mpr (.inl (List.cons.inj h).1)) hm
  | cons c l ih =>
    rw [List.mem_cons, not_or] at hl
    cases m with
    | nil => exact absurd (List.cons.inj h).1.symm hl.1
    | cons d m =>
      rw [List.mem_cons, not_or] at hm
      obtain ⟨rfl, hrest⟩ := List.cons.inj h
      obtain ⟨rfl, hxy⟩ := ih hl.2 hm.2 hrest
      exact ⟨rfl, hxy⟩

/-- Two lists that differ in exactly one place. -/
inductive OneApart : List α → List α → Prop
  | here {c d : α} (h : c ≠ d) (rest : List α) : OneApart (c :: rest) (d :: rest)
  | there (c : α) {xs ys : List α} (h : OneApart xs ys) : OneApart (c :: xs) (c :: ys)

namespace OneApart

theorem symm (h : OneApart xs ys) : OneApart ys xs := by
  induction h with
  | here h rest => exact .here h.symm rest
  | there c _ ih => exact .there c ih

theorem ne (h : OneApart xs ys) : xs ≠ ys := by
  induction h with
  | here h _ => exact fun e => h (List.cons.inj e).1
  | there _ _ ih => exact fun e => ih (List.cons.inj e).2

theorem of_set {i : Nat} (hi : i < xs.length) {c : α} (hc : c ≠ xs[i]) : OneApart xs (xs.set i c) := by
  induction xs generalizing i with
  | nil => simp at hi
  | cons d xs ih =>
    cases i with
    | zero => exact .here (Ne.symm hc) xs
    | succ i => exact .there d (ih (Nat.lt_of_succ_lt_succ hi) hc)

/-- What both begin with is dropped. -/
theorem of_append (h : OneApart (l ++ x) (l ++ y)) : OneApart x y := by
  induction l with
  | nil => exact h
  | cons c l ih =>
    generalize hx : l ++ x = x' at h
    generalize hy : l ++ y = y' at h
    rw [List.cons_append, List.cons_append, hx, hy] at h
    cases h with
    | here h _ => exact absurd rfl h
    | there _ h =>
      subst hx hy
      exact ih h

/-- The place is in the first part, or behind the mark, or it is the mark. -/
theorem part (h : OneApart (l ++ t :: x) (m ++ t :: y)) (hl : t ∉ l) (hm : t ∉ m) :
    (l = m ∧ OneApart x y) ∨ (OneApart l m ∧ x = y) ∨ (∃ c r, m = l ++ c :: r ∧ x = r ++ t :: y) ∨
      ∃ c r, l = m ++ c :: r ∧ y = r ++ t :: x := by
  induction l generalizing m with
  | nil =>
    cases m with
    | nil =>
      cases h with
      | here h _ => exact absurd rfl h
      | there _ h => exact .inl ⟨rfl, h⟩
    | cons d m =>
      cases h with
      | here _ _ => exact .inr (.inr (.inl ⟨d, m, rfl, rfl⟩))
      | there _ _ => simp at hm
  | cons c l ih =>
    rw [List.mem_cons, not_or] at hl
    cases m with
    | nil =>
      cases h with
      | here _ _ => exact .inr (.inr (.inr ⟨c, l, rfl, rfl⟩))
      | there _ _ => exact absurd rfl hl.1
    | cons d m =>
      rw [List.mem_cons, not_or] at hm
      generalize hx : l ++ t :: x = x' at h
      generalize hy : m ++ t :: y = y' at h
      rw [List.cons_append, List.cons_append, hx, hy] at h
      cases h with
      | here h _ =>
        obtain ⟨rfl, rfl⟩ := append_cons_inj hl.2 hm.2 (hx.trans hy.symm)
        exact .inr (.inl ⟨.here h l, rfl⟩)
      | there _ h =>
        subst hx hy
        rcases ih h hl.2 hm.2 with ⟨rfl, h'⟩ | ⟨h', rfl⟩ | ⟨b, r, rfl, rfl⟩ | ⟨b, r, rfl, rfl⟩
        · exact .inl ⟨rfl, h'⟩
        · exact .inr (.inl ⟨.there c h', rfl⟩)
        · exact .inr (.inr (.inl ⟨b, r, rfl, rfl⟩))
        · exact .inr (.inr (.inr ⟨b, r, rfl, rfl⟩))

/-- The place is in the first part or behind its mark if what follows the mark is in neither part. -/
theorem quoted {s : α} (h : OneApart (l ++ t :: s :: x) (m ++ t :: s :: y)) (hl : t ∉ l) (hm : t ∉ m) (hl' : s ∉ l)
    (hm' : s ∉ m) (hst : s ≠ t) : (l = m ∧ OneApart x y) ∨ (OneApart l m ∧ x = y) := by
  rcases h.part hl hm with ⟨rfl, h'⟩ | ⟨h', he⟩ | ⟨c, r, rfl, he⟩ | ⟨c, r, rfl, he⟩
  · exact .inl ⟨rfl, of_append (l := [s]) h'⟩
  · exact .inr ⟨h', (List.cons.inj he).2⟩
  · cases r with
    | nil => exact absurd (List.cons.inj he).1 hst
    | cons d r => exact absurd (by simp [(List.cons.inj he).1]) hm'
  · cases r with
    | nil => exact absurd (List.cons.inj he).1 hst
    | cons d r => exact absurd (by simp [(List.cons.inj he).1]) hl'

end OneApart

/-- Lines that lack their mark are told apart by it. -/
theorem flatMap_inj {xs ys : List (List α)} (hx : ∀ l ∈ xs, t ∉ l) (hy : ∀ l ∈ ys, t ∉ l)
    (h : (xs.flatMap fun l => l ++ [t]) = ys.flatMap fun l => l ++ [t]) : xs = ys := by
  induction xs generalizing ys with
  | nil =>
    cases ys with
    | nil => rfl
    | cons m ys => simp at h
  | cons l xs ih =>
    cases ys with
    | nil => simp at h
    | cons m ys =>
      rw [List.flatMap_cons, List.flatMap_cons, List.append_assoc, List.append_assoc, List.singleton_append,
        List.singleton_append] at h
      obtain ⟨rfl, hrest⟩ := append_cons_inj (hx l (by simp)) (hy m (by simp)) h
      rw [ih (fun k hk => hx k (by simp [hk])) (fun k hk => hy k (by simp [hk])) hrest]

/-- The place is in one of the lines, unless some line begins with another one. -/
theorem OneApart.lines {xs ys : List (List α)} (hx : ∀ l ∈ xs, t ∉ l) (hy : ∀ l ∈ ys, t ∉ l)
    (h : OneApart (xs.flatMap fun l => l ++ [t]) (ys.flatMap fun l => l ++ [t])) :
    (∃ init l m rest, xs = init ++ l :: rest ∧ ys = init ++ m :: rest ∧ OneApart l m) ∨
      ∃ l ∈ xs, ∃ m ∈ ys, ∃ c r, m = l ++ c :: r ∨ l = m ++ c :: r := by
  induction xs generalizing ys with
  | nil => cases h
  | cons l xs ih =>
    cases ys with
    | nil => cases h.symm
    | cons m ys =>
      have hx' : ∀ k ∈ xs, t ∉ k := fun k hk => hx k (by simp [hk])
      have hy' : ∀ k ∈ ys, t ∉ k := fun k hk => hy k (by simp [hk])
      rw [List.flatMap_cons, List.flatMap_cons, List.append_assoc, List.append_assoc, List.singleton_append,
        List.singleton_append] at h
      rcases h.part (hx l (by simp)) (hy m (by simp)) with ⟨rfl, h'⟩ | ⟨h', he⟩ | ⟨c, r, he, -⟩ | ⟨c, r, he, -⟩
      · rcases ih hx' hy' h' with ⟨init, k, n, rest, rfl, rfl, h''⟩ | ⟨k, hk, n, hn, h''⟩
        · exact .inl ⟨l :: init, k, n, rest, rfl, rfl, h''⟩
        · exact .inr ⟨k, by simp [hk], n, by simp [hn], h''⟩
      · exact .inl ⟨[], l, m, xs, rfl, by rw [flatMap_inj hx' hy' he]; rfl, h'⟩
      · exact .inr ⟨l, by simp, m, by simp, c, r, .inl he⟩
      · exact .inr ⟨l, by simp, m, by simp, c, r, .inr he⟩

/-! ## Quoted values -/

/-- Values between marks `t`, each after its key and before a mark `u`, and what follows them. -/
def quotedValues (t u : α) (last : List α) : List (List α × List α) → List α
  | [] => last
  | (key, value) :: rest => key ++ t :: (value ++ t :: u :: quotedValues t u last rest)

section
variable {u : α} {vs ws : List (List α × List α)}

theorem quotedValues_inj (hkeys : vs.map Prod.fst = ws.map Prod.fst) (hv : ∀ v ∈ vs, t ∉ v.2) (hw : ∀ w ∈ ws, t ∉ w.2)
    (h : quotedValues t u x vs = quotedValues t u y ws) : vs = ws ∧ x = y := by
  induction vs generalizing ws with
  | nil =>
    obtain rfl : ws = [] := by simpa using hkeys.symm
    exact ⟨rfl, h⟩
  | cons v vs ih =>
    obtain ⟨⟨key, value⟩, ws, rfl⟩ : ∃ w ws', ws = w :: ws' := by
      cases ws with
      | nil => simp at hkeys
      | cons w ws => exact ⟨w, ws, rfl⟩
    obtain ⟨key', value'⟩ := v
    obtain ⟨rfl, hkeys'⟩ : key' = key ∧ vs.map Prod.fst = ws.map Prod.fst := by simpa using hkeys
    have hrest := (List.cons.inj (List.append_cancel_left h)).2
    obtain ⟨rfl, hlater⟩ := append_cons_inj (hv (key', value') (by simp)) (hw (key', value) (by simp)) hrest
    obtain ⟨rfl, rfl⟩ := ih hkeys' (fun v hv' => hv v (by simp [hv'])) (fun w hw' => hw w (by simp [hw']))
      (List.cons.inj hlater).2
    exact ⟨rfl, rfl⟩

/-- The place is in one of the values or behind them all. -/
theorem OneApart.values (htu : u ≠ t) (hkeys : vs.map Prod.fst = ws.map Prod.fst) (hv : ∀ v ∈ vs, t ∉ v.2 ∧ u ∉ v.2)
    (hw : ∀ w ∈ ws, t ∉ w.2 ∧ u ∉ w.2) (h : OneApart (quotedValues t u x vs) (quotedValues t u y ws)) :
    vs = ws ∨ x = y ∧ ∃ i : Nat, ∀ j : Nat, j ≠ i → vs[j]? = ws[j]? := by
  induction vs generalizing ws with
  | nil =>
    obtain rfl : ws = [] := by simpa using hkeys.symm
    exact .inl rfl
  | cons v vs ih =>
    obtain ⟨⟨key, value⟩, ws, rfl⟩ : ∃ w ws', ws = w :: ws' := by
      cases ws with
      | nil => simp at hkeys
      | cons w ws => exact ⟨w, ws, rfl⟩
    obtain ⟨key', value'⟩ := v
    obtain ⟨rfl, hkeys'⟩ : key' = key ∧ vs.map Prod.fst = ws.map Prod.fst := by simpa using hkeys
    obtain ⟨hvt, hvu⟩ := hv (key', value') (by simp)
    obtain ⟨hwt, hwu⟩ := hw (key', value) (by simp)
    have hv' : ∀ v ∈ vs, t ∉ v.2 ∧ u ∉ v.2 := fun v hv' => hv v (by simp [hv'])
    have hw' : ∀ w ∈ ws, t ∉ w.2 ∧ u ∉ w.2 := fun w hw' => hw w (by simp [hw'])
    have hrest : OneApart (value' ++ t :: u :: quotedValues t u x vs) (value ++ t :: u :: quotedValues t u y ws) :=
      of_append (l := key' ++ [t]) (by simpa [quotedValues] using h)
    rcases hrest.quoted hvt hwt hvu hwu htu with ⟨rfl, hlater⟩ | ⟨-, hlater⟩
    · rcases ih hkeys' hv' hw' hlater with rfl | ⟨rfl, i, hi⟩
      · exact .inl rfl
      · refine .inr ⟨rfl, i + 1, fun j hj => ?_⟩
        cases j with
        | zero => rfl
        | succ j => exact hi j (by omega)
    · obtain ⟨rfl, rfl⟩ := quotedValues_inj hkeys' (fun v h => (hv' v h).1) (fun w h => (hw' w h).1) hlater
      refine .inr ⟨rfl, 0, fun j hj => ?_⟩
      cases j with
      | zero => exact absurd rfl hj
      | succ j => rfl

end

end Mend.Text
