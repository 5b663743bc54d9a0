import Mathlib.Tactic.Tauto
import Mend.Ordered

/-!
# Tables in key order

What a table shows under a key after an insertion (`get?_insert`), and how many keys it then has
(`length_keys_insert`). Where the keys ascend, a key shows the one entry that is there for it (`get?_eq_some_iff`),
and none once it is erased (`get?_erase`). Insertions and erasures leave them ascending.
-/

namespace Mend.Ordered

variable {κ α : Type} [Ord κ] {t : Ordered κ α} {k k' : κ} {v : α}

/-! ## Lookup -/

theorem get?_insert [Std.TransOrd κ] (t : Ordered κ α) (k : κ) (v : α) (k' : κ) :
    get? (insert t k v) k' = if compare k' k = .eq then some v else get? t k' := by
  induction t with
  | nil => cases hkk : compare k' k <;> simp [insert, get?, hkk]
  | cons e t ih =>
    obtain ⟨k₀, v₀⟩ := e
    rw [insert]
    cases hcmp : compare k k₀ with
    | eq =>
      have hsame : compare k' k = compare k' k₀ := Std.TransCmp.congr_right hcmp
      cases hkk : compare k' k <;> simp [get?, ← hsame, hkk]
    | lt =>
      cases hkk : compare k' k with
      | lt =>
        have hlt : compare k' k₀ = .lt := Std.TransCmp.lt_trans hkk hcmp
        simp [get?, hkk, hlt]
      | eq => simp [get?, hkk]
      | gt => simp [get?, hkk]
    | gt =>
      rw [get?, get?, ih]
      cases hkk : compare k' k with
      | eq =>
        have hgt : compare k' k₀ = .gt := (Std.TransCmp.congr_left hkk).trans hcmp
        simp [hgt]
      | lt => simp
      | gt => simp

theorem get?_erase_of_ne [Std.LawfulEqOrd κ] (hne : k' ≠ k) (h : get? t k = some v) :
    get? (erase t k') k = some v := by
  induction t with
  | nil => simp [get?] at h
  | cons e t ih =>
    obtain ⟨k₀, v₀⟩ := e
    rw [get?] at h
    rw [erase]
    cases hcmp : compare k k₀ with
    | lt => simp [hcmp] at h
    | eq =>
      obtain rfl := Std.LawfulEqCmp.eq_of_compare hcmp
      simp only [hcmp] at h
      cases hcmp' : compare k' k with
      | eq => exact absurd (Std.LawfulEqCmp.eq_of_compare hcmp') hne
      | lt => simpa [get?, hcmp] using h
      | gt => simpa [get?, hcmp] using h
    | gt =>
      simp only [hcmp] at h
      cases hcmp' : compare k' k₀ with
      | eq => exact h
      | lt => simpa [get?, hcmp] using h
      | gt => simpa [get?, hcmp] using ih h

theorem contains_insert [Std.TransOrd κ] (t : Ordered κ α) (k : κ) (v : α) (k' : κ) :
    contains (insert t k v) k' = (compare k' k == .eq || contains t k') := by
  rw [contains, get?_insert]
  cases hkk : compare k' k <;> simp [contains]

theorem contains_eq_false_iff : contains t k = false ↔ get? t k = none := by
  rw [contains, Option.isSome_eq_false_iff, Option.isNone_iff_eq_none]

/-! ## Entries -/

/-- What a table shows under a key is there. -/
theorem exists_of_get? (h : get? t k = some v) : ∃ e ∈ t, e.2 = v := by
  induction t with
  | nil => simp [get?] at h
  | cons e t ih =>
    rw [get?] at h
    split at h
    · exact ⟨e, List.mem_cons_self, Option.some.inj h⟩
    · cases h
    · obtain ⟨x, hx, hv⟩ := ih h
      exact ⟨x, List.mem_cons_of_mem _ hx, hv⟩

theorem mem_insert {e : κ × α} (h : e ∈ insert t k v) : e = (k, v) ∨ e ∈ t := by
  induction t with
  | nil => exact .inl (by simpa [insert] using h)
  | cons e₀ t ih =>
    rw [insert] at h
    cases hcmp : compare k e₀.1 with
    | eq =>
      simp only [hcmp, List.mem_cons] at h ⊢
      tauto
    | lt => simpa only [hcmp, List.mem_cons] using h
    | gt =>
      simp only [hcmp, List.mem_cons] at h ⊢
      rcases h with h | h
      · exact .inr (.inl h)
      · exact (ih h).imp_right .inr

theorem mem_keys_insert (h : k' ∈ keys (insert t k v)) : k' = k ∨ k' ∈ keys t := by
  obtain ⟨e, he, rfl⟩ := List.mem_map.mp h
  rcases mem_insert he with rfl | he
  · exact .inl rfl
  · exact .inr (List.mem_map_of_mem he)

theorem length_keys_insert (t : Ordered κ α) (k : κ) (v : α) :
    (keys (insert t k v)).length = (keys t).length + if contains t k then 0 else 1 := by
  induction t with
  | nil => rfl
  | cons e t ih =>
    rw [insert]
    cases hcmp : compare k e.1 with
    | eq => simp [keys, contains, get?, hcmp]
    | lt => simp [keys, contains, get?, hcmp]
    | gt =>
      have hcontains : contains (e :: t) k = contains t k := by simp [contains, get?, hcmp]
      simp only [keys, List.map_cons, List.length_cons, hcontains] at ih ⊢
      omega

/-! ## Ascending keys -/

/-- The keys ascend. -/
def Ascending (t : Ordered κ α) : Prop := (keys t).Pairwise fun a b => compare a b = .lt

theorem Ascending.insert [Std.TransOrd κ] (h : Ascending t) (k : κ) (v : α) : Ascending (insert t k v) := by
  induction t with
  | nil => simp [Ascending, Ordered.insert, keys]
  | cons e t ih =>
    obtain ⟨k₀, v₀⟩ := e
    have htail : Ascending t := (List.pairwise_cons.mp h).2
    have hhead : ∀ k' ∈ keys t, compare k₀ k' = .lt := (List.pairwise_cons.mp h).1
    rw [Ordered.insert]
    cases hcmp : compare k k₀ with
    | eq =>
      refine List.pairwise_cons.mpr ⟨?_, htail⟩
      intro k' hk'
      exact Std.TransCmp.lt_of_eq_of_lt hcmp (hhead k' hk')
    | lt =>
      refine List.pairwise_cons.mpr ⟨?_, h⟩
      intro k' hk'
      rcases List.mem_cons.mp hk' with rfl | hk'
      · exact hcmp
      · exact Std.TransCmp.lt_trans hcmp (hhead k' hk')
    | gt =>
      refine List.pairwise_cons.mpr ⟨?_, ih htail⟩
      intro k' hk'
      rcases mem_keys_insert hk' with rfl | hk'
      · exact Std.OrientedCmp.gt_iff_lt.mp hcmp
      · exact hhead k' hk'

theorem Ascending.nodup [Std.ReflOrd κ] (h : Ascending t) : (keys t).Nodup := by
  refine List.Pairwise.imp ?_ h
  rintro a b hab rfl
  have hself := @Std.ReflCmp.compare_self κ compare _ a
  rw [hself] at hab
  cases hab

/-- A key shows what is there for it under a key of the same place in the order. -/
theorem get?_eq_some_iff_exists [Std.TransOrd κ] (h : Ascending t) :
    get? t k = some v ↔ ∃ k', compare k k' = .eq ∧ (k', v) ∈ t := by
  induction t with
  | nil => simp [get?]
  | cons e t ih =>
    obtain ⟨k₀, v₀⟩ := e
    have hhead : ∀ k', (k', v) ∈ t → compare k₀ k' = .lt := fun k' hmem =>
      (List.pairwise_cons.mp h).1 k' (List.mem_map_of_mem hmem)
    rw [get?]
    cases hcmp : compare k k₀ with
    | eq =>
      rw [Option.some_inj]
      refine ⟨fun hv => ⟨k₀, hcmp, hv ▸ List.mem_cons_self⟩, fun ⟨k', hk', hmem⟩ => ?_⟩
      rcases List.mem_cons.mp hmem with heq | hmem
      · exact (Prod.mk.inj heq).2.symm
      · cases hk'.symm.trans ((Std.TransCmp.congr_left hcmp).trans (hhead k' hmem))
    | lt =>
      refine iff_of_false nofun fun ⟨k', hk', hmem⟩ => ?_
      rcases List.mem_cons.mp hmem with heq | hmem
      · cases hk'.symm.trans ((Prod.mk.inj heq).1 ▸ hcmp)
      · cases hk'.symm.trans (Std.TransCmp.lt_trans hcmp (hhead k' hmem))
    | gt =>
      refine (ih (List.pairwise_cons.mp h).2).trans (exists_congr fun k' => and_congr_right fun hk' => ?_)
      rw [List.mem_cons, or_iff_right]
      intro heq
      cases hk'.symm.trans ((Prod.mk.inj heq).1 ▸ hcmp)

theorem get?_eq_some_iff [Std.TransOrd κ] [Std.LawfulEqOrd κ] (h : Ascending t) :
    get? t k = some v ↔ (k, v) ∈ t := by
  rw [get?_eq_some_iff_exists h]
  refine ⟨fun ⟨k', hk', hmem⟩ => ?_, fun hmem => ⟨k, Std.ReflCmp.compare_self, hmem⟩⟩
  rwa [Std.LawfulEqCmp.eq_of_compare hk']

theorem mem_keys_iff [Std.TransOrd κ] [Std.LawfulEqOrd κ] (h : Ascending t) : k ∈ keys t ↔ (get? t k).isSome := by
  rw [Option.isSome_iff_exists]
  constructor
  · intro hk
    obtain ⟨⟨k, v⟩, he, rfl⟩ := List.mem_map.mp hk
    exact ⟨v, (get?_eq_some_iff h).mpr he⟩
  · rintro ⟨v, hv⟩
    exact List.mem_map_of_mem ((get?_eq_some_iff h).mp hv)

theorem erase_sublist (t : Ordered κ α) (k : κ) : List.Sublist (erase t k) t := by
  induction t with
  | nil => exact List.Sublist.refl _
  | cons e t ih =>
    rw [erase]
    cases compare k e.1 with
    | lt => exact List.Sublist.refl _
    | eq => exact List.sublist_cons_self e t
    | gt => exact ih.cons_cons e

theorem Ascending.erase (h : Ascending t) (k : κ) : Ascending (erase t k) :=
  List.Pairwise.sublist ((erase_sublist t k).map Prod.fst) h

theorem get?_erase [Std.TransOrd κ] [Std.LawfulEqOrd κ] (h : Ascending t) (k k' : κ) :
    get? (Ordered.erase t k) k' = if compare k' k = .eq then none else get? t k' := by
  induction t with
  | nil => cases hkk : compare k' k <;> simp [Ordered.erase, get?]
  | cons e t ih =>
    obtain ⟨k₀, v₀⟩ := e
    have htail : Ascending t := (List.pairwise_cons.mp h).2
    -- a key that is not above the first one is not among the later ones
    have hlater {k : κ} (hk : compare k k₀ ≠ .gt) : get? t k = none := by
      rw [← Option.not_isSome_iff_eq_none, ← mem_keys_iff htail]
      intro hmem
      exact hk (Std.OrientedCmp.gt_iff_lt.mpr ((List.pairwise_cons.mp h).1 k hmem))
    rw [Ordered.erase]
    by_cases hkk : compare k' k = .eq
    · obtain rfl := Std.LawfulEqCmp.eq_of_compare hkk
      rw [if_pos hkk]
      cases hcmp : compare k' k₀ with
      | lt => simp [get?, hcmp]
      | eq => exact hlater (by simp [hcmp])
      | gt =>
        rw [if_pos hkk] at ih
        simpa [get?, hcmp] using ih htail
    · rw [if_neg hkk]
      cases hcmp : compare k k₀ with
      | lt => rfl
      | eq =>
        obtain rfl := Std.LawfulEqCmp.eq_of_compare hcmp
        show get? t k' = get? ((k, v₀) :: t) k'
        cases hcmp' : compare k' k with
        | eq => exact absurd hcmp' hkk
        | lt => rw [hlater (by simp [hcmp']), get?, hcmp']
        | gt => rw [get?, hcmp']
      | gt =>
        rw [if_neg hkk] at ih
        simp only [get?, ih htail]

theorem ascending_ofList [Std.TransOrd κ] (es : List (κ × α)) : Ascending (ofList es) := by
  have hfold (t : Ordered κ α) (ht : Ascending t) : Ascending (es.foldl (fun t e => Ordered.insert t e.1 e.2) t) := by
    induction es generalizing t with
    | nil => exact ht
    | cons e es ih => exact ih _ (ht.insert e.1 e.2)
  exact hfold [] List.Pairwise.nil

/-- What is put behind all others stands there. -/
theorem insert_last [Std.OrientedOrd κ] {k : κ} {v : α} (h : ∀ k' ∈ keys t, compare k' k = .lt) :
    insert t k v = t ++ [(k, v)] := by
  induction t with
  | nil => rfl
  | cons e t ih =>
    have hgt : compare k e.1 = .gt := Std.OrientedCmp.gt_iff_lt.mpr (h e.1 List.mem_cons_self)
    rw [insert, hgt, List.cons_append]
    exact congrArg _ (ih fun k' hk' => h k' (List.mem_cons_of_mem _ hk'))

/-- A table is the table of its entries. -/
theorem ofList_of_ascending [Std.TransOrd κ] (h : Ascending t) : ofList t = t := by
  have hfold (xs ys : Ordered κ α) (hxs : Ascending (xs ++ ys)) :
      ys.foldl (fun t e => Ordered.insert t e.1 e.2) xs = xs ++ ys := by
    induction ys generalizing xs with
    | nil => rw [List.append_nil, List.foldl_nil]
    | cons e ys ih =>
      have hlast : ∀ k' ∈ keys xs, compare k' e.1 = .lt := by
        intro k' hk'
        rw [Ascending, keys, List.map_append, List.pairwise_append] at hxs
        exact hxs.2.2 k' hk' e.1 (by simp)
      rw [List.foldl_cons, insert_last hlast, ih _ (by simpa using hxs), List.append_assoc, List.singleton_append]
  exact hfold [] t h

/-! ## Other values under the same keys -/

variable {β : Type}

/-- The table with something made of each value. -/
def mapValues (f : α → β) (t : Ordered κ α) : Ordered κ β := t.map fun e => (e.1, f e.2)

variable (f : α → β)

theorem get?_mapValues (t : Ordered κ α) (k : κ) : get? (mapValues f t) k = (get? t k).map f := by
  induction t with
  | nil => rfl
  | cons e t ih =>
    rw [mapValues, List.map_cons, get?, get?]
    cases compare k e.1 with
    | eq => rfl
    | lt => rfl
    | gt => exact ih

theorem contains_mapValues (t : Ordered κ α) (k : κ) : contains (mapValues f t) k = contains t k := by
  rw [contains, contains, get?_mapValues, Option.isSome_map]

theorem mapValues_insert (t : Ordered κ α) (k : κ) (v : α) : mapValues f (insert t k v) = insert (mapValues f t) k (f v) := by
  induction t with
  | nil => rfl
  | cons e t ih =>
    rw [show mapValues f (e :: t) = (e.1, f e.2) :: mapValues f t from rfl, insert, insert]
    cases compare k e.1 with
    | eq => rfl
    | lt => rfl
    | gt => exact congrArg (List.cons (e.1, f e.2)) ih

theorem mapValues_ofList (es : List (κ × α)) : mapValues f (ofList es) = ofList (es.map fun e => (e.1, f e.2)) := by
  have hfold (t : Ordered κ α) : mapValues f (es.foldl (fun t e => insert t e.1 e.2) t) =
      (es.map fun e => (e.1, f e.2)).foldl (fun t e => insert t e.1 e.2) (mapValues f t) := by
    induction es generalizing t with
    | nil => rfl
    | cons e es ih =>
      rw [List.foldl_cons, ih, mapValues_insert]
      rfl
  exact hfold []

theorem Ascending.mapValues (h : Ascending t) : Ascending (mapValues f t) := by
  rw [Ascending, keys, Ordered.mapValues, List.map_map]
  exact h

end Mend.Ordered
