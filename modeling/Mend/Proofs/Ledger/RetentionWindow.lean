import Mend.Proofs.Ledger.StoreEquivalence
import Mend.Proofs.Ledger.TidyDirectory

/-!
# What retention keeps

After a snapshot was taken, the store lists it, and of those that were there before the ones that are neither past the
count nor too old (`Window`). The two limits cut the list of earlier snapshots at one place, since an identifier that is
newer was not drawn earlier (`Retention.Recent.of_le`). The new snapshot is exempt. It need not be the newest, and then
there may be one snapshot more than the count.

Both kinds of store are looked at through what they show (`Shows`): saving adds one identifier (`save_shows`), and
every removal takes one away and leaves what is loaded for the others (`Without`). Whatever comes of the calls, the store
stays one of which this can be said (`regular_takeAll`), so that the window is kept along every run (`retention_window`).
-/

namespace Mend.Snapshot

open Fs Fs.Disk Ledger

/-! ## Age and rank -/

/-- The identifier is not too old, or the calendar does not reach so far back. -/
def Retention.Recent (r : Retention) (now : Time) (id : CycleId) : Prop :=
  ∀ cutoff, now.daysBefore? r.maxAgeDays.toNat = some cutoff → id.createdAt.lt cutoff = false

/-- Fewer of the identifiers than the count are newer. -/
def Retention.Ranked (r : Retention) (ids : List CycleId) (id : CycleId) : Prop :=
  ids.countP (fun k => id.value < k.value) < r.maxCount

section

variable {r : Retention} {now : Time} {ids xs ys : List CycleId} {j k keep : CycleId}

/-- What is newer was not drawn earlier. -/
theorem createdAt_lt_of_le {cutoff : Time} (hle : k.value ≤ j.value) (h : k.createdAt.lt cutoff = false) :
    j.createdAt.lt cutoff = false := by
  have hmillis : k.value / CycleId.chanceCount ≤ j.value / CycleId.chanceCount := Nat.div_le_div_right hle
  unfold CycleId.createdAt CycleId.millis Time.ofMillis Time.lt Time.le at *
  simp only [Bool.not_eq_false', Bool.or_eq_true, Bool.and_eq_true, decide_eq_true_eq] at h ⊢
  omega

theorem Retention.Recent.of_le (hle : k.value ≤ j.value) (h : r.Recent now k) : r.Recent now j :=
  fun cutoff hcutoff => createdAt_lt_of_le hle (h cutoff hcutoff)

theorem Retention.Ranked.of_le (hle : k.value ≤ j.value) (h : r.Ranked ids k) : r.Ranked ids j := by
  refine Nat.lt_of_le_of_lt (List.countP_mono_left fun i _ hi => ?_) h
  simp only [decide_eq_true_eq] at hi ⊢
  omega

/-- As many identifiers are newer as stand before it. -/
theorem countP_newer (h : Descending ids) {i : Nat} (hk : ids[i]? = some k) :
    ids.countP (fun j => k.value < j.value) = i := by
  induction ids generalizing i with
  | nil => simp at hk
  | cons a ids ih =>
    obtain ⟨hhead, htail⟩ := List.pairwise_cons.mp h
    cases i with
    | zero =>
      obtain rfl : a = k := by simpa using hk
      refine List.countP_eq_zero.mpr fun b hb => ?_
      simp only [decide_eq_true_eq]
      rcases List.mem_cons.mp hb with rfl | hb
      · omega
      · have := hhead b hb
        omega
    | succ i =>
      rw [List.getElem?_cons_succ] at hk
      have hnewer : k.value < a.value := hhead k (List.mem_of_getElem? hk)
      rw [List.countP_cons_of_pos (by simpa using hnewer), ih htail hk]

/-- What ranks within the count stands among so many first ones. -/
theorem Retention.Ranked.mem_take (h : Descending ids) (hk : k ∈ ids) (hr : r.Ranked ids k) : k ∈ ids.take r.maxCount := by
  obtain ⟨i, hi⟩ := List.mem_iff_getElem?.mp hk
  unfold Retention.Ranked at hr
  rw [countP_newer h hi] at hr
  exact List.mem_of_getElem? (by rw [List.getElem?_take_of_lt hr, hi])

theorem ranked_of_newest (hnewest : ∀ j ∈ ids, j.value ≤ k.value) (hcount : 1 ≤ r.maxCount) : r.Ranked ids k := by
  have hzero : ids.countP (fun j => k.value < j.value) = 0 := by
    refine List.countP_eq_zero.mpr fun j hj => ?_
    have := hnewest j hj
    simp only [decide_eq_true_eq]
    omega
  unfold Retention.Ranked
  omega

theorem expired_eq (r : Retention) (ids : List CycleId) (keep : CycleId) (now : Time) :
    r.expired ids keep now = (ids.zipIdx.filter fun e => decide (e.1 ≠ keep) && (decide (r.maxCount ≤ e.2) ||
      (now.daysBefore? r.maxAgeDays.toNat).any fun c => e.1.createdAt.lt c)).map Prod.fst := by
  unfold Retention.expired
  cases now.daysBefore? r.maxAgeDays.toNat with
  | none => rfl
  | some c => rfl

/-- What expires is past the count or too old, and not what is to be kept. -/
theorem mem_expired_iff (h : Descending ids) :
    k ∈ r.expired ids keep now ↔ k ∈ ids ∧ k ≠ keep ∧ ¬ (r.Ranked ids k ∧ r.Recent now k) := by
  have hold : (now.daysBefore? r.maxAgeDays.toNat).any (fun c => k.createdAt.lt c) = true ↔ ¬ r.Recent now k := by
    unfold Retention.Recent
    cases now.daysBefore? r.maxAgeDays.toNat with
    | none => simp
    | some c => simp
  have hrank {i : Nat} (hi : ids[i]? = some k) : r.maxCount ≤ i ↔ ¬ r.Ranked ids k := by
    rw [Retention.Ranked, countP_newer h hi, Nat.not_lt]
  rw [expired_eq, List.mem_map]
  constructor
  · rintro ⟨⟨k', i⟩, hmem, rfl⟩
    obtain ⟨hi, hexpired⟩ := List.mem_filter.mp hmem
    have hget := List.mem_zipIdx_iff_getElem?.mp hi
    simp only [Bool.and_eq_true, Bool.or_eq_true, decide_eq_true_eq] at hexpired
    have hout : ¬ r.Ranked ids k' ∨ ¬ r.Recent now k' := hexpired.2.imp (hrank hget).mp hold.mp
    exact ⟨List.mem_of_getElem? hget, hexpired.1, not_and_or.mpr hout⟩
  · rintro ⟨hk, hne, hout⟩
    obtain ⟨i, hi⟩ := List.mem_iff_getElem?.mp hk
    refine ⟨(k, i), List.mem_filter.mpr ⟨List.mem_zipIdx_iff_getElem?.mpr hi, ?_⟩, rfl⟩
    simp only [Bool.and_eq_true, Bool.or_eq_true, decide_eq_true_eq]
    exact ⟨hne, (not_and_or.mp hout).imp (hrank hi).mpr hold.mpr⟩

/-! ## The window -/

/-- What is newer than something in the first list is in it if it is in the second: the first list is how the second
begins. -/
theorem prefix_of_closed (hxs : Descending xs) (hys : Descending ys) (hsub : ∀ k ∈ xs, k ∈ ys)
    (hclosed : ∀ j ∈ ys, ∀ k ∈ xs, k.value < j.value → j ∈ xs) : xs <+: ys := by
  induction ys generalizing xs with
  | nil =>
    obtain rfl : xs = [] := List.eq_nil_iff_forall_not_mem.mpr fun k hk => by simpa using hsub k hk
    exact List.nil_prefix
  | cons y ys ih =>
    cases xs with
    | nil => exact List.nil_prefix
    | cons x xs =>
      obtain ⟨hx, hxs'⟩ := List.pairwise_cons.mp hxs
      obtain ⟨hy, hys'⟩ := List.pairwise_cons.mp hys
      -- the newest of the second list is the newest of the first
      obtain rfl : x = y := by
        by_contra hne
        have hnewer : x.value < y.value := hy x ((List.mem_cons.mp (hsub x (by simp))).resolve_left hne)
        rcases List.mem_cons.mp (hclosed y (by simp) x (by simp) hnewer) with rfl | hmem
        · omega
        · have := hx y hmem
          omega
      refine List.cons_prefix_cons.mpr ⟨rfl, ih hxs' hys' (fun k hk => ?_) fun j hj k hk hlt => ?_⟩
      · refine (List.mem_cons.mp (hsub k (by simp [hk]))).resolve_left ?_
        rintro rfl
        have := hx k hk
        omega
      · refine (List.mem_cons.mp (hclosed j (by simp [hj]) k (by simp [hk]) hlt)).resolve_left ?_
        rintro rfl
        have := hy j hj
        omega

/-- What is kept of the earlier snapshots when that of a cycle is taken. -/
structure Window (r : Retention) (id : CycleId) (now : Time) (earlier kept : List CycleId) : Prop where
  descending : Descending kept
  mem : ∀ k, k ∈ kept ↔ k = id ∨ k ∈ earlier ∧ r.Ranked (id :: earlier) k ∧ r.Recent now k
  /-- No older one outlives a newer one. -/
  newest : kept.filter (· ≠ id) <+: earlier
  bound : kept.length ≤ r.maxCount + 1
  bound_newest : (∀ k ∈ earlier, k.value < id.value) → kept.length ≤ r.maxCount

theorem window_of_expired {id : CycleId} {earlier all kept : List CycleId} (hearlier : Descending earlier)
    (hall : Descending all) (hkept : Descending kept) (hnew : id ∉ earlier) (hcount : 1 ≤ r.maxCount)
    (hmem_all : ∀ k, k ∈ all ↔ k = id ∨ k ∈ earlier)
    (hmem : ∀ k, k ∈ kept ↔ k ∈ all ∧ k ∉ r.expired all id now) : Window r id now earlier kept := by
  have hranked (k : CycleId) : r.Ranked all k ↔ r.Ranked (id :: earlier) k := by
    have hperm : all.Perm (id :: earlier) := by
      refine (List.perm_ext_iff_of_nodup hall.nodup (List.nodup_cons.mpr ⟨hnew, hearlier.nodup⟩)).mpr fun k => ?_
      rw [hmem_all, List.mem_cons]
    rw [Retention.Ranked, Retention.Ranked, hperm.countP_eq]
  have hwindow (k : CycleId) : k ∈ kept ↔ k = id ∨ k ∈ earlier ∧ r.Ranked (id :: earlier) k ∧ r.Recent now k := by
    rw [hmem, mem_expired_iff hall, hmem_all, hranked]
    have hne : k ∈ earlier → k ≠ id := by
      rintro hk rfl
      exact hnew hk
    tauto
  have hother {k : CycleId} (hk : k ∈ kept.filter (· ≠ id)) :
      k ∈ earlier ∧ r.Ranked (id :: earlier) k ∧ r.Recent now k := by
    obtain ⟨hin, hne⟩ := List.mem_filter.mp hk
    exact ((hwindow k).mp hin).resolve_left (by simpa using hne)
  -- what is kept besides the new one stands among the first of all
  have hfirst (k : CycleId) (hk : k ∈ kept) (hne : k ≠ id) : k ∈ all.take r.maxCount := by
    obtain ⟨hin, hr, -⟩ := ((hwindow k).mp hk).resolve_left hne
    exact Retention.Ranked.mem_take hall ((hmem_all k).mpr (.inr hin)) ((hranked k).mpr hr)
  refine ⟨hkept, hwindow, ?_, ?_, fun hnewest => ?_⟩
  · refine prefix_of_closed (hkept.filter _) hearlier (fun k hk => (hother hk).1) fun j hj k hk hlt => ?_
    obtain ⟨-, hr, hrecent⟩ := hother hk
    have hne : j ≠ id := fun e => hnew (e ▸ hj)
    have hin : j ∈ kept := (hwindow j).mpr (.inr ⟨hj, hr.of_le hlt.le, hrecent.of_le hlt.le⟩)
    exact List.mem_filter.mpr ⟨hin, by simpa using hne⟩
  · have hsub : kept ⊆ id :: all.take r.maxCount := by
      intro k hk
      by_cases hne : k = id
      · simp [hne]
      · exact List.mem_cons_of_mem _ (hfirst k hk hne)
    have hlength := (List.subperm_of_subset hkept.nodup hsub).length_le
    rw [List.length_cons, List.length_take] at hlength
    omega
  · have hsub : kept ⊆ all.take r.maxCount := by
      intro k hk
      by_cases hne : k = id
      · have hrank : r.Ranked all k := by
          refine ranked_of_newest (fun j hj => ?_) hcount
          rcases (hmem_all j).mp hj with rfl | hj
          · exact (congrArg CycleId.value hne).ge
          · exact hne ▸ (hnewest j hj).le
        exact Retention.Ranked.mem_take hall ((hmem_all k).mpr (.inl hne)) hrank
      · exact hfirst k hk hne
    have hlength := (List.subperm_of_subset hkept.nodup hsub).length_le
    rw [List.length_take] at hlength
    omega

end

/-! ## What a store shows -/

namespace Session

/-- A table in the order of its keys, or a tidy directory. -/
def Regular (x : Session) : Prop :=
  match x.store with
  | .memory t _ => t.Ascending
  | .directory dir => Tidy dir x.disk

/-- The files of the store can be looked up. -/
def Ready (x : Session) : Prop :=
  match x.store with
  | .memory _ _ => True
  | .directory dir => Open dir x.disk

/-- Something is kept under the identifier. -/
def Shows (x : Session) (id : CycleId) : Prop :=
  match x.store with
  | .memory t _ => (Ordered.get? t id).isSome = true
  | .directory dir => x.disk.node? (locationOf dir id) ≠ none

end Session

open Session

section

variable {x y z : Session} {ids : List CycleId} {id : CycleId} {s : Snapshot}

theorem list_shows (h : x.Regular) (hlist : x.list = .ok ids) : Descending ids ∧ ∀ k, k ∈ ids ↔ x.Shows k := by
  obtain ⟨d, store⟩ := x
  cases store with
  | memory t lost =>
    obtain rfl := Except.ok.inj hlist
    refine ⟨descending_keys h, fun k => ?_⟩
    rw [List.mem_reverse]
    exact Ordered.mem_keys_iff h
  | directory dir =>
    obtain ⟨hdescending, hmem, -⟩ := Tidy.list h hlist
    exact ⟨hdescending, hmem⟩

theorem exists_list (h : x.Regular) (hready : x.Ready) : ∃ ids, x.list = .ok ids := by
  obtain ⟨d, store⟩ := x
  cases store with
  | memory t lost => exact ⟨_, rfl⟩
  | directory dir =>
    obtain ⟨ids, hids, -⟩ := Tidy.names h hready.locate hready.isDir
    exact ⟨ids, hids⟩

/-! ### Saving -/

theorem regular_save (h : x.Regular) (s : Snapshot) : ((save s).exec x).2.Regular := by
  obtain ⟨d, store⟩ := x
  cases store with
  | memory t lost =>
    rw [exec_save_memory]
    exact ascending_put h s
  | directory dir =>
    rcases hrun : (save s).exec ⟨d, .directory dir⟩ with ⟨r, y⟩
    obtain ⟨d', rfl, htouched, -⟩ := touched_save h s hrun
    exact htouched.tidy

/-- A store that saved a new snapshot shows it, and what it showed before. -/
theorem save_shows (h : x.Regular) (hnew : ¬ x.Shows s.cycle) (hrun : (save s).exec x = (.ok (), y)) :
    y.Regular ∧ y.Ready ∧ (∀ k, y.Shows k ↔ k = s.cycle ∨ x.Shows k) ∧
      ∀ ids, x.list = .ok ids → ∀ k ∈ ids, k ≠ s.cycle → y.load k = x.load k := by
  have hregular : y.Regular := by
    have hsaved := regular_save h s
    rwa [hrun] at hsaved
  refine ⟨hregular, ?_⟩
  obtain ⟨d, store⟩ := x
  cases store with
  | memory t lost =>
    rw [exec_save_memory] at hrun
    obtain rfl := (Prod.mk.inj hrun).2
    have hfree : Ordered.contains t s.cycle = false := by
      rw [Ordered.contains, Bool.eq_false_iff]
      exact hnew
    refine ⟨trivial, fun k => ?_, fun ids _ k _ hk => ?_⟩
    · show (Ordered.get? (put t s) k).isSome = true ↔ k = s.cycle ∨ (Ordered.get? t k).isSome = true
      rw [get?_put]
      by_cases hk : k = s.cycle
      · simp [hk, hfree]
      · simp [hk]
    · have hget : Ordered.get? (put t s) k = Ordered.get? t k := by rw [get?_put, if_neg fun hput => hk hput.1]
      cases lost with
      | true => rfl
      | false => rw [load_memory, load_memory, hget]
  | directory dir =>
    obtain ⟨d', rfl, htouched, hsaved⟩ := touched_save h s hrun
    have hnone : d.node? (locationOf dir s.cycle) = none := not_not.mp hnew
    obtain ⟨hopen, hfile⟩ := hsaved rfl hnone
    refine ⟨hopen, fun k => ?_, fun ids hlist k hk hne => ?_⟩
    · show d'.node? (locationOf dir k) ≠ none ↔ k = s.cycle ∨ d.node? (locationOf dir k) ≠ none
      by_cases hk : k = s.cycle
      · simp [hk, hfile]
      · rw [htouched.other k hk]
        simp [hk]
    · -- something was listed, so the directory was there
      obtain ⟨hfollow, hdir⟩ := (Tidy.list h hlist).2.2 (List.ne_nil_of_mem hk)
      exact (open_of_dir (hopen.acceptable k) hfollow hdir).load_congr hopen (htouched.other k hne)

/-! ### Removing -/

theorem regular_remove (h : x.Regular) (id : CycleId) : ((remove id).exec x).2.Regular := by
  obtain ⟨d, store⟩ := x
  cases store with
  | memory t lost => exact Ordered.Ascending.erase h id
  | directory dir =>
    rcases hrun : (remove id).exec ⟨d, .directory dir⟩ with ⟨r, y⟩
    obtain ⟨d', rfl, htouched, -⟩ := touched_remove h id hrun
    exact htouched.tidy

/-- The second store is the first without some snapshots. -/
structure Without (gone : List CycleId) (x y : Session) : Prop where
  regular : y.Regular
  ready : y.Ready
  shows : ∀ k, y.Shows k ↔ x.Shows k ∧ k ∉ gone
  load : ∀ k ∉ gone, y.load k = x.load k

theorem without_remove (h : x.Regular) (hready : x.Ready) (hrun : (remove id).exec x = (.ok (), y)) :
    Without [id] x y := by
  have hregular : y.Regular := by
    have hremoved := regular_remove h id
    rwa [hrun] at hremoved
  obtain ⟨d, store⟩ := x
  cases store with
  | memory t lost =>
    obtain rfl := (Prod.mk.inj hrun).2
    refine ⟨hregular, trivial, fun k => ?_, fun k hk => ?_⟩
    · show (Ordered.get? (Ordered.erase t id) k).isSome = true ↔ (Ordered.get? t k).isSome = true ∧ k ∉ [id]
      rw [get?_erase_of h]
      by_cases hk : k = id
      · simp [hk]
      · simp [hk]
    · have hget : Ordered.get? (Ordered.erase t id) k = Ordered.get? t k := by
        rw [get?_erase_of h, if_neg (by simpa using hk)]
      cases lost with
      | true => rfl
      | false => rw [load_memory, load_memory, hget]
  | directory dir =>
    obtain ⟨d', rfl, htouched, hremoved⟩ := touched_remove h id hrun
    have hgone := hremoved rfl hready
    have hopen : Open dir d' := Open.mono hready htouched.dirs
    refine ⟨hregular, hopen, fun k => ?_, fun k hk => ?_⟩
    · show d'.node? (locationOf dir k) ≠ none ↔ d.node? (locationOf dir k) ≠ none ∧ k ∉ [id]
      by_cases hk : k = id
      · simp [hk, hgone]
      · rw [htouched.other k hk]
        simp [hk]
    · exact Open.load_congr hready hopen (htouched.other k (by simpa using hk))

/-- Every one of the snapshots can be deleted, one after the other. -/
def Deletable : List CycleId → Session → Prop
  | [], _ => True
  | id :: ids, x => ((remove id).exec x).1 = .ok () ∧ Deletable ids ((remove id).exec x).2

theorem without_discardAll (h : x.Regular) (hready : x.Ready) (hids : Deletable ids x) :
    ∃ y, (ids.forM discard).exec x = (.ok (), y) ∧ Without ids x y := by
  induction ids generalizing x with
  | nil => exact ⟨x, rfl, h, hready, fun k => by simp, fun k _ => rfl⟩
  | cons id ids ih =>
    obtain ⟨hremove, hrest⟩ := hids
    have hone := without_remove h hready (Prod.ext hremove rfl)
    obtain ⟨y, hrun, hall⟩ := ih hone.regular hone.ready hrest
    have hdiscard : (discard id).exec x = (.ok (), ((remove id).exec x).2) := rfl
    refine ⟨y, (Action.exec_bind_ok hdiscard _).trans hrun, hall.regular, hall.ready, fun k => ?_, fun k hk => ?_⟩
    · rw [hall.shows, hone.shows, List.mem_singleton, List.mem_cons]
      tauto
    · rw [List.mem_cons, not_or] at hk
      rw [hall.load k hk.2, hone.load k (by simpa using hk.1)]

/-! ## Taking snapshots -/

/-- The call that takes a snapshot. -/
structure Taking where
  cycle : CycleId
  captures : List Capture
  retention : Retention
  now : Time

namespace Taking

/-- What is saved. -/
def snapshot (c : Taking) : Snapshot := capture c.cycle c.captures c.now

/-- Makes the call. -/
def run (c : Taking) : Action Session Ledger.Error Unit := take c.cycle c.captures c.retention c.now

/-- The call takes a new snapshot of what is listed, to keep at least one, and deletes what has expired by then. -/
structure Succeeds (c : Taking) (x y : Session) (earlier : List CycleId) : Prop where
  listed : x.list = .ok earlier
  new : c.cycle ∉ earlier
  some : 1 ≤ c.retention.maxCount
  done : c.run.exec x = (.ok (), y)
  deleted : ∀ z ids, (save c.snapshot).exec x = (.ok (), z) → z.list = .ok ids →
    Deletable (c.retention.expired ids c.cycle c.now) z

end Taking

/-- What calls make of a store, whether or not they fail. -/
def takeAll (calls : List Taking) (x : Session) : Session := calls.foldl (fun x c => (c.run.exec x).2) x

theorem regular_run (h : x.Regular) (c : Taking) : (c.run.exec x).2.Regular := by
  have hsaved := regular_save h c.snapshot
  unfold Taking.run take
  rw [Action.exec_bind]
  rcases hsave : (save (capture c.cycle c.captures c.now)).exec x with ⟨e | ⟨⟩, z⟩
  · show z.Regular
    rwa [Taking.snapshot, hsave] at hsaved
  · rw [Taking.snapshot, hsave] at hsaved
    obtain ⟨y, hprune, hy⟩ := exec_prune (R := Regular) c.retention c.now
      (fun id (_ : id ≠ c.cycle) z hz => regular_remove hz id) hsaved
    dsimp only
    rwa [hprune]

theorem regular_takeAll (h : x.Regular) (calls : List Taking) : (takeAll calls x).Regular := by
  induction calls generalizing x with
  | nil => exact h
  | cons c calls ih => exact ih (regular_run h c)

/-- What one call keeps. -/
theorem window_of_succeeds {c : Taking} {earlier : List CycleId} (h : x.Regular) (hc : c.Succeeds x y earlier) :
    ∃ kept, y.list = .ok kept ∧ Window c.retention c.cycle c.now earlier kept ∧
      ∀ k ∈ kept, k ≠ c.cycle → y.load k = x.load k := by
  obtain ⟨hearlier, hmem_earlier⟩ := list_shows h hc.listed
  have hnew : ¬ x.Shows c.snapshot.cycle := fun hshows => hc.new ((hmem_earlier _).mpr hshows)
  have hdone := hc.done
  change (save c.snapshot >>= fun _ => prune c.retention c.cycle c.now).exec x = (.ok (), y) at hdone
  rcases hsave : (save c.snapshot).exec x with ⟨e | ⟨⟩, z⟩
  · rw [Action.exec_bind_error hsave] at hdone
    cases (Prod.mk.inj hdone).1
  obtain ⟨hregular, hready, hshows, hload⟩ := save_shows h hnew hsave
  obtain ⟨all, hall⟩ := exists_list hregular hready
  obtain ⟨hdescending, hmem⟩ := list_shows hregular hall
  obtain ⟨y', hdiscard, hwithout⟩ := without_discardAll hregular hready (hc.deleted z all hsave hall)
  -- the listed snapshots that have expired are the ones that are gone
  have hprune : (prune c.retention c.cycle c.now).exec z = (.ok (), y') := by
    rw [prune, Action.exec_bind_ok (Action.exec_get _), hall]
    exact hdiscard
  rw [Action.exec_bind_ok hsave, hprune] at hdone
  obtain rfl := (Prod.mk.inj hdone).2
  obtain ⟨kept, hkept⟩ := exists_list hwithout.regular hwithout.ready
  obtain ⟨hdescending', hmem'⟩ := list_shows hwithout.regular hkept
  have hmem_all (k : CycleId) : k ∈ all ↔ k = c.cycle ∨ k ∈ earlier := by
    rw [hmem, hshows, hmem_earlier]
    rfl
  have hmem_kept (k : CycleId) : k ∈ kept ↔ k ∈ all ∧ k ∉ c.retention.expired all c.cycle c.now := by
    rw [hmem', hwithout.shows, hmem]
  refine ⟨kept, hkept, window_of_expired hearlier hdescending hdescending' hc.new hc.some hmem_all hmem_kept, ?_⟩
  intro k hk hne
  obtain ⟨hin, hout⟩ := (hmem_kept k).mp hk
  rw [hwithout.load k hout]
  exact hload earlier hc.listed k (((hmem_all k).mp hin).resolve_left hne) hne

/-- **Retention keeps the newest recent snapshots and the new one.** Whatever calls there were before, and whichever of
them failed, a call that takes a new snapshot and can delete what has expired leaves the new one and those of the earlier
ones that are not too old and than which fewer snapshots than the count are newer. They are listed with the newest first,
no older one outlives a newer one, and they are loaded as before. There are at most as many as the count if the new one is
the newest, and at most one more otherwise. -/
theorem retention_window {c : Taking} {earlier : List CycleId} (h : x.Regular) (calls : List Taking)
    (hc : c.Succeeds (takeAll calls x) y earlier) :
    ∃ kept, y.list = .ok kept ∧ Window c.retention c.cycle c.now earlier kept ∧
      ∀ k ∈ kept, k ≠ c.cycle → y.load k = (takeAll calls x).load k :=
  window_of_succeeds (regular_takeAll h calls) hc

/-! ### When the clock was set back -/

/-- Two snapshots of which the older one expires, while a third comes between them. -/
def between : Taking := ⟨⟨2, by decide⟩, [], { maxCount := 1 }, default⟩

/-- The store that holds the two. -/
def oldAndNew : Session :=
  ⟨.empty, .memory [(⟨1, by decide⟩, capture ⟨1, by decide⟩ [] default),
    (⟨3, by decide⟩, capture ⟨3, by decide⟩ [] default)] false⟩

/-- Two are kept where one is allowed. -/
theorem retention_window_between :
    ∃ y kept, between.Succeeds oldAndNew y [⟨3, by decide⟩, ⟨1, by decide⟩] ∧ y.list = .ok kept ∧
      Window between.retention between.cycle between.now [⟨3, by decide⟩, ⟨1, by decide⟩] kept ∧
      kept = [⟨3, by decide⟩, ⟨2, by decide⟩] := by
  have hregular : oldAndNew.Regular := by
    show Ordered.Ascending (κ := CycleId) [_, _]
    simp [Ordered.Ascending, Ordered.keys, compare]
  have hsucceeds : between.Succeeds oldAndNew (between.run.exec oldAndNew).2 [⟨3, by decide⟩, ⟨1, by decide⟩] := by
    refine ⟨rfl, by decide, by decide, rfl, fun z ids hsave hlist => ?_⟩
    obtain rfl := (Prod.mk.inj hsave).2
    obtain rfl := Except.ok.inj hlist
    exact ⟨rfl, trivial⟩
  obtain ⟨kept, hkept, hwindow, -⟩ := retention_window hregular [] hsucceeds
  obtain rfl := Except.ok.inj hkept
  exact ⟨_, _, hsucceeds, rfl, hwindow, rfl⟩

/-! ### Other names and other ways -/

/-- A call that lets nothing expire only saves. -/
theorem succeeds_of_save {c : Taking} {earlier : List CycleId} (hlisted : x.list = .ok earlier)
    (hnew : c.cycle ∉ earlier) (hsave : (save c.snapshot).exec x = (.ok (), z)) (hids : z.list = .ok ids)
    (hlength : 1 ≤ c.retention.maxCount ∧ ids.length ≤ c.retention.maxCount)
    (hrecent : ∀ k ∈ ids, c.retention.Recent c.now k) : c.Succeeds x z earlier := by
  have hnothing : c.retention.expired ids c.cycle c.now = [] := by
    unfold Retention.expired
    rw [List.map_eq_nil_iff, List.filter_eq_nil_iff]
    rintro ⟨k, i⟩ hi hexpired
    have hget := List.mem_zipIdx_iff_getElem?.mp hi
    have hk := hrecent k (List.mem_of_getElem? hget)
    have hlt : i < ids.length := (List.getElem?_eq_some_iff.mp hget).1
    simp only [Bool.and_eq_true, Bool.or_eq_true, decide_eq_true_eq] at hexpired
    rcases hexpired.2 with hrank | hold
    · omega
    · unfold Retention.Recent at hk
      split at hold
      · next cutoff hcutoff =>
        rw [hk cutoff hcutoff] at hold
        cases hold
      · cases hold
  refine ⟨hlisted, hnew, hlength.1, ?_, fun z' ids' hsave' hids' => ?_⟩
  · show (save c.snapshot >>= fun _ => prune c.retention c.cycle c.now).exec x = (.ok (), z)
    rw [Action.exec_bind_ok hsave, prune, Action.exec_bind_ok (Action.exec_get _), hids]
    dsimp only
    rw [hnothing]
    rfl
  · rw [hsave] at hsave'
    obtain rfl := (Prod.mk.inj hsave').2
    rw [hids] at hids'
    obtain rfl := Except.ok.inj hids'
    rw [hnothing]
    trivial

/-- Two files that are read as that of one snapshot. -/
def spellings : Session :=
  ⟨folder [("0000000000000000000000000A.json", ""), ("0000000000000000000000000a.json", "")], .directory folderRoot⟩

/-- A file in a directory that is only found once the way to it was made. -/
def detour : Session :=
  ⟨⟨[("s", .dir [("0000000000000000000000000A.json", .file ByteArray.empty newMode)])]⟩,
    .directory ⟨["t", "..", "s"], "/t/../s"⟩⟩

/-- A call that takes an empty snapshot. -/
def plain : Taking := ⟨default, [], {}, default⟩

theorem names_spellings : ((save plain.snapshot).exec spellings).2.disk.names folderRoot.location =
    .ok ["0000000000000000000000000A.json", "0000000000000000000000000a.json", "00000000000000000000000000.json"] := rfl

/-- A snapshot is listed twice if its name is there in two spellings, and an earlier one may only be listed when the way to
the directory was made. -/
theorem window_irregular :
    (∃ c y earlier kept, Taking.Succeeds c spellings y earlier ∧ y.list = .ok kept ∧ ¬ Descending kept) ∧
      ∃ c y earlier kept, Taking.Succeeds c detour y earlier ∧ y.list = .ok kept ∧
        ∃ k ∈ kept, k ≠ c.cycle ∧ k ∉ earlier := by
  have hrecent (ids : List CycleId) : ∀ k ∈ ids, Retention.Recent {} default k := by
    intro k _
    have hzero : (⟨0, by decide⟩ : CycleId).value ≤ k.value := Nat.zero_le _
    refine Retention.Recent.of_le hzero fun cutoff hcutoff => ?_
    obtain rfl := Option.some.inj hcutoff
    decide
  constructor
  · have hlist := list_of_names names_spellings
    have hearlier := list_of_names (show spellings.disk.names folderRoot.location =
      .ok ["0000000000000000000000000A.json", "0000000000000000000000000a.json"] from rfl)
    refine ⟨plain, _, _, _, succeeds_of_save hearlier ?_ rfl hlist ?_ (hrecent _), hlist, fun hdescending => ?_⟩
    · rw [List.mem_mergeSort]
      decide +kernel
    · rw [List.length_mergeSort]
      decide +kernel
    · have hnodup := (List.mergeSort_perm _ _).nodup_iff.mp hdescending.nodup
      exact absurd hnodup (by decide +kernel)
  · have hnames : ((save plain.snapshot).exec detour).2.disk.names ["t", "..", "s"] =
        .ok ["0000000000000000000000000A.json", "00000000000000000000000000.json"] := rfl
    have hlist : ((save plain.snapshot).exec detour).2.list = _ := list_of_names hnames
    refine ⟨plain, _, [], _, succeeds_of_save rfl (by simp) rfl hlist ?_ (hrecent _), hlist, ⟨10, by decide⟩, ?_, ?_,
      by simp⟩
    · rw [List.length_mergeSort]
      decide +kernel
    · rw [List.mem_mergeSort]
      decide +kernel
    · decide

end

end Mend.Snapshot
