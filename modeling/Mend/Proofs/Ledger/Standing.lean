import Mend.Ledger.Trust
import Mend.Proofs.Action
import Mend.Proofs.Json.Numeral
import Mend.Proofs.Json.Record
import Mend.Proofs.Ordered

/-!
# Counters and flags of recipes

What the file of trust says of the counters of a recipe and of its flag does not depend on how scores are written and
read back: whatever the scores are, the counters and flags of a table that is written are those of the table
(`standings?_page`), and a table that is read has those that stand in its file (`standings?_of_ofBytes?`). An update
of a table is one of its counters and flags (`standings_apply`).
-/

namespace Mend.Trust

/-- The counters of a recipe, and whether it is disabled. -/
structure Standing where
  successes : Count := 0
  partials : Count := 0
  failures : Count := 0
  disabled : Bool := false
  deriving DecidableEq, Repr

/-- The standings by recipe. -/
abbrev Standings := Ordered String Standing

/-- The counters and the flag of a record. -/
def Record.standing (r : Record) : Standing := ⟨r.successes, r.partials, r.failures, r.disabled⟩

/-- The counters and flags of a table. -/
def Table.standings (t : Table) : Standings := Ordered.mapValues Record.standing t

/-! ## What a file says -/

/-- Reads the counters and the flag of a record. The score and the moment are not looked at. -/
def Standing.ofJson? (j : Json) : Option Standing := do
  match ← Json.slots ["score", "successes", "partials", "failures", "disabled", "updated_at"] false j with
  | [_, successes, partials, failures, disabled, _] =>
    let successes ← successes.withDefault Json.count? 0
    let partials ← partials.withDefault Json.count? 0
    let failures ← failures.withDefault Json.count? 0
    let disabled ← disabled.withDefault Json.bool? false
    some ⟨successes, partials, failures, disabled⟩
  | _ => none

/-- Reads the counters and flags of a table. -/
def Standings.ofJson? : Json → Option Standings
  | .obj fields => (fields.mapM fun f => (Standing.ofJson? f.2).map fun s => (f.1, s)).map Ordered.ofList
  | _ => none

/-- What the bytes of a file of trust say of counters and flags. There is no table yet if there are none. -/
def standings? (content : ByteArray) : Option Standings :=
  if content.size = 0 then some [] else (Json.parseBytes content).bind Standings.ofJson?

theorem standing_of_slots {j : Json} {score successes partials failures disabled updated : Json.Slot} {r : Standing}
    (h : Json.slots ["score", "successes", "partials", "failures", "disabled", "updated_at"] false j =
      some [score, successes, partials, failures, disabled, updated])
    (hsuccesses : successes.withDefault Json.count? 0 = some r.successes)
    (hpartials : partials.withDefault Json.count? 0 = some r.partials)
    (hfailures : failures.withDefault Json.count? 0 = some r.failures)
    (hdisabled : disabled.withDefault Json.bool? false = some r.disabled) : Standing.ofJson? j = some r := by
  simp only [Standing.ofJson?, h, Option.bind_eq_bind, Option.bind_some, hsuccesses, hpartials, hfailures, hdisabled]

/-- What is read of a record is what is read of its counters and flag. -/
theorem standing_of_ofJson? {j : Json} {r : Record} (h : Record.ofJson? j = some r) :
    Standing.ofJson? j = some r.standing := by
  rw [Record.ofJson?] at h
  cases hslots : Json.slots ["score", "successes", "partials", "failures", "disabled", "updated_at"] false j with
  | none => rw [hslots] at h; cases h
  | some slots =>
  rw [hslots] at h
  simp only [Option.bind_eq_bind, Option.bind_some] at h
  split at h
  · next score successes partials failures disabled updated =>
    simp only [Option.bind_eq_some_iff] at h
    obtain ⟨x, -, s, hs, p, hp, f, hf, d, hd, moment, -, hr⟩ := h
    obtain rfl := Option.some.inj hr
    exact standing_of_slots hslots hs hp hf hd
  · cases h

theorem standings_of_records {fields : List (String × Json)} {es : List (String × Record)}
    (h : (fields.mapM fun f => (Record.ofJson? f.2).map fun r => (f.1, r)) = some es) :
    (fields.mapM fun f => (Standing.ofJson? f.2).map fun s => (f.1, s)) =
      some (es.map fun e => (e.1, e.2.standing)) := by
  induction fields generalizing es with
  | nil =>
    obtain rfl := Option.some.inj h
    rfl
  | cons f fields ih =>
    rw [List.mapM_cons] at h ⊢
    simp only [Option.bind_eq_bind, Option.bind_eq_some_iff, Option.map_eq_some_iff] at h
    obtain ⟨e, ⟨r, hr, rfl⟩, es', hes', hcons⟩ := h
    obtain rfl := Option.some.inj hcons
    rw [standing_of_ofJson? hr, ih hes']
    rfl

theorem standings_of_ofJson? {j : Json} {t : Table} (h : Table.ofJson? j = some t) :
    Standings.ofJson? j = some t.standings := by
  cases j with
  | obj fields =>
    rw [Table.ofJson?, Option.map_eq_some_iff] at h
    obtain ⟨es, hes, rfl⟩ := h
    rw [Standings.ofJson?, standings_of_records hes, Table.standings, Ordered.mapValues_ofList]
    rfl
  | _ => cases h

/-- A table that is read has the counters and flags that its file says. -/
theorem standings?_of_ofBytes? {content : ByteArray} {t : Table} (hsize : content.size ≠ 0)
    (h : Stored.ofBytes? content = some t) : standings? content = some t.standings := by
  rw [Stored.ofBytes?, Option.bind_eq_some_iff] at h
  obtain ⟨j, hj, ht⟩ := h
  rw [standings?, if_neg hsize, hj, Option.bind_some]
  exact standings_of_ofJson? ht

/-- Reading a table leaves its keys in their order. -/
theorem ascending_of_ofBytes? {content : ByteArray} {t : Table} (h : Stored.ofBytes? content = some t) :
    Ordered.Ascending t := by
  rw [Stored.ofBytes?, Option.bind_eq_some_iff] at h
  obtain ⟨j, -, ht⟩ := h
  cases j with
  | obj fields =>
    obtain ⟨es, -, rfl⟩ := Option.map_eq_some_iff.mp ht
    exact Ordered.ascending_ofList es
  | _ => cases ht

/-! ## What is written -/

/-- What is read of a field of a record. -/
def fieldReread : Json → Json
  | .real x => Json.reread x
  | v => v

/-- What is read of a record. -/
def recordReread : Json → Json
  | .obj fields => .obj (fields.map fun f => (f.1, fieldReread f.2))
  | v => v

/-- A field of a record is a real number or is read as it is. -/
theorem record_field {r : Record} {fields : List (String × Json)} (hr : r.toJson = .obj fields) :
    ∀ f ∈ fields, f.2 = .real r.score ∨ fieldReread f.2 = f.2 ∧ Json.Plain f.2 := by
  obtain rfl := Json.obj.inj hr
  intro f hf
  rw [List.mem_append] at hf
  rcases hf with hf | hf
  · simp only [List.mem_cons, List.not_mem_nil, or_false] at hf
    rcases hf with rfl | rfl | rfl | rfl | rfl
    · exact .inl rfl
    · exact .inr ⟨rfl, Json.plain_count _⟩
    · exact .inr ⟨rfl, Json.plain_count _⟩
    · exact .inr ⟨rfl, Json.plain_count _⟩
    · exact .inr ⟨rfl, .bool _⟩
  · split at hf
    · obtain rfl := List.mem_singleton.mp hf
      exact .inr ⟨rfl, .str _⟩
    · cases hf

theorem readsAs_record (r : Record) : Json.ReadsAs r.toJson (recordReread r.toJson) := by
  intro b depth fuel rest _ hfuel
  obtain ⟨fields, hr⟩ : ∃ fields, r.toJson = .obj fields := ⟨_, rfl⟩
  rw [hr] at hfuel ⊢
  refine Json.json?_spell_obj_as b depth (fun f hf => ?_) fuel rest hfuel
  rcases record_field hr f hf with hreal | ⟨hsame, hplain⟩
  · rw [hreal]
    exact Json.readsAs_real _
  · rw [hsame]
    exact Json.json?_spell hplain

/-- The page of a table is read, whatever the scores are. -/
theorem parseBytes_page (t : Table) :
    Json.parseBytes (Stored.page t) = some (.obj (t.map fun e => (e.1, recordReread e.2.toJson))) := by
  let fields : List (String × Json) := t.map fun e => (e.1, e.2.toJson)
  have hreads : ∀ f ∈ fields, Json.ReadsAs f.2 (recordReread f.2) := by
    intro f hf
    obtain ⟨e, -, rfl⟩ := List.mem_map.mp hf
    exact readsAs_record e.2
  have hclean : ∀ c ∈ Json.spell .lines 0 (.obj fields), Json.Clean c := by
    refine Json.spell_obj_printable .lines Json.Blanks.lines.clean_line Json.Blanks.lines.clean_gap
      Json.clean_of_printable fun f hf => ?_
    obtain ⟨e, -, rfl⟩ := List.mem_map.mp hf
    obtain ⟨fs, hfs⟩ : ∃ fs, e.2.toJson = .obj fs := ⟨_, rfl⟩
    rw [hfs]
    refine Json.spell_obj_printable .lines Json.Blanks.lines.clean_line Json.Blanks.lines.clean_gap
      Json.clean_of_printable fun g hg => ?_
    rcases record_field hfs g hg with hreal | ⟨-, hplain⟩
    · rw [hreal, Json.spell]
      exact fun c hc => Json.clean_of_printable c (Json.real_printable _ c hc)
    · exact Json.spell_printable .lines Json.Blanks.lines.clean_line Json.Blanks.lines.clean_gap
        Json.clean_of_printable hplain 2
  have hread : Json.ReadsAs (.obj fields) (.obj (fields.map fun f => (f.1, recordReread f.2))) :=
    fun b depth fuel rest _ hfuel => Json.json?_spell_obj_as b depth hreads fuel rest hfuel
  have hparse : Json.parse (Json.pretty (.obj fields)) = some (.obj (fields.map fun f => (f.1, recordReread f.2))) :=
    Json.parse_of_spell .lines hread hclean (Json.toList_prettyAt 0 _)
  have hpage := Json.parseBytes_of_pretty hparse
  rw [List.map_map] at hpage
  exact hpage

/-- A record is read field by field. There is no moment if it was never updated. -/
theorem slots_record (r : Record) :
    Json.slots ["score", "successes", "partials", "failures", "disabled", "updated_at"] false (recordReread r.toJson) =
      some [.given (Json.reread r.score), .given (Json.ofCount r.successes), .given (Json.ofCount r.partials),
        .given (Json.ofCount r.failures), .given (.bool r.disabled),
        (r.updatedAt.map fun t => Json.Slot.given (Json.ofTime t)).getD .absent] := by
  obtain ⟨score, successes, partials, failures, disabled, updated⟩ := r
  cases updated with
  | none => simp [Record.toJson, recordReread, fieldReread, Json.slots, Json.ofCount]
  | some moment => simp [Record.toJson, recordReread, fieldReread, Json.slots, Json.ofCount, Json.ofTime]

theorem standing_recordReread (r : Record) : Standing.ofJson? (recordReread r.toJson) = some r.standing := by
  have hcount (c : Count) : (Json.Slot.given (Json.ofCount c)).withDefault Json.count? 0 = some c := by
    rw [Json.Slot.withDefault, Json.count?_ofCount]
  exact standing_of_slots (slots_record r) (hcount r.successes) (hcount r.partials) (hcount r.failures) rfl

theorem size_page (t : Table) : (Stored.page t).size ≠ 0 := by
  intro hempty
  have hparse := parseBytes_page t
  have hnone : Json.parseBytes ByteArray.empty = none := by
    have hdecode : Text.decode? ByteArray.empty = some "" := rfl
    rw [Json.parseBytes, hdecode]
    dsimp only
    rw [Json.parse]
    split <;> rfl
  rw [ByteArray.size_eq_zero_iff.mp hempty, hnone] at hparse
  cases hparse

/-- **A table that is written stands in its file with its counters and flags**, whatever its scores are. -/
theorem standings?_page {t : Table} (h : Ordered.Ascending t) : standings? (Stored.page t) = some t.standings := by
  have hall (t : Table) : ((t.map fun e => (e.1, recordReread e.2.toJson)).mapM fun f =>
      (Standing.ofJson? f.2).map fun s => (f.1, s)) = some (t.map fun e => (e.1, e.2.standing)) := by
    induction t with
    | nil => rfl
    | cons e t ih =>
      rw [List.map_cons, List.mapM_cons, standing_recordReread, ih]
      rfl
  rw [standings?, if_neg (size_page t), parseBytes_page, Option.bind_some, Standings.ofJson?, hall, Option.map_some]
  exact congrArg some (Ordered.ofList_of_ascending (h.mapValues Record.standing))

/-! ## Updates -/

/-- What the store of a process does to the table. -/
inductive Update where
  | ensure (recipe : String)
  | observe (recipe : String) (outcome : Outcome) (rate : Float) (now : Time)
  | setDisabled (recipe : String) (disabled : Bool)

namespace Standing

/-- One more outcome. -/
def observe (s : Standing) : Outcome → Standing
  | .success => { s with successes := Count.add s.successes 1 }
  | .partly => { s with partials := Count.add s.partials 1 }
  | .failure => { s with failures := Count.add s.failures 1 }

/-- How often an outcome was counted. -/
def tally (s : Standing) : Outcome → Count
  | .success => s.successes
  | .partly => s.partials
  | .failure => s.failures

end Standing

/-- The standing of a recipe. One that was never seen has no outcomes and is enabled. -/
def Standings.standing (s : Standings) (recipe : String) : Standing := (Ordered.get? s recipe).getD {}

namespace Update

/-- The table afterwards. -/
def apply (t : Table) : Update → Table
  | ensure recipe => t.ensure recipe
  | observe recipe o rate now => t.observe recipe o rate now
  | setDisabled recipe disabled => t.setDisabled recipe disabled

/-- The update of a store. -/
def write : Update → Action Session Ledger.Error Unit
  | ensure recipe => Trust.ensure recipe
  | observe recipe o rate now => do let _ ← recordOutcome recipe o rate now
  | setDisabled recipe disabled => Trust.setDisabled recipe disabled

/-- What becomes of counters and flags. -/
def count (s : Standings) : Update → Standings
  | ensure recipe => if Ordered.contains s recipe then s else Ordered.insert s recipe {}
  | observe recipe o _ _ => Ordered.insert s recipe ((s.standing recipe).observe o)
  | setDisabled recipe disabled => Ordered.insert s recipe { s.standing recipe with disabled := disabled }

end Update

theorem standing_record (t : Table) (recipe : String) : (t.record recipe).standing = t.standings.standing recipe := by
  rw [Table.record, Standings.standing, Table.standings, Ordered.get?_mapValues]
  cases Ordered.get? t recipe with
  | none => rfl
  | some r => rfl

theorem standing_observe (r : Record) (o : Outcome) (rate : Float) (now : Time) :
    (r.observe o rate now).standing = r.standing.observe o := by
  cases o <;> rfl

/-- Counters and flags do not depend on scores. -/
theorem standings_apply (t : Table) (u : Update) : (u.apply t).standings = u.count t.standings := by
  cases u with
  | ensure recipe =>
    have hknown : Ordered.contains t.standings recipe = Ordered.contains t recipe := Ordered.contains_mapValues _ t recipe
    rw [Update.apply, Update.count, Table.ensure, hknown]
    split
    · rfl
    · exact Ordered.mapValues_insert Record.standing t recipe Record.neutral
  | observe recipe o rate now =>
    rw [Update.apply, Update.count, ← standing_record, ← standing_observe _ o rate now]
    exact Ordered.mapValues_insert Record.standing t recipe _
  | setDisabled recipe disabled =>
    rw [Update.apply, Update.count, ← standing_record]
    exact Ordered.mapValues_insert Record.standing t recipe _

theorem ascending_apply {t : Table} (h : Ordered.Ascending t) (u : Update) : Ordered.Ascending (u.apply t) := by
  cases u with
  | ensure recipe =>
    rw [Update.apply, Table.ensure]
    split
    · exact h
    · exact h.insert _ _
  | observe recipe o rate now => exact h.insert _ _
  | setDisabled recipe disabled => exact h.insert _ _

/-! ## Many updates -/

namespace Update

/-- The update counts an outcome of a recipe. -/
def Counts (recipe : String) (o : Outcome) : Update → Bool
  | observe r x _ _ => r = recipe ∧ x = o
  | _ => false

/-- What the update makes of the flag of a recipe. -/
def flag? (recipe : String) : Update → Option Bool
  | setDisabled r disabled => if r = recipe then some disabled else none
  | _ => none

end Update

theorem standing_insert (s : Standings) (k : String) (v : Standing) (q : String) :
    Standings.standing (Ordered.insert s k v) q = if q = k then v else s.standing q := by
  rw [Standings.standing, Ordered.get?_insert, Standings.standing]
  by_cases hq : q = k
  · rw [if_pos hq, if_pos (by rw [hq]; exact Std.ReflCmp.compare_self), Option.getD_some]
  · rw [if_neg hq, if_neg fun h => hq (Std.LawfulEqCmp.eq_of_compare h)]

theorem standing_ensure (s : Standings) (k q : String) :
    Standings.standing (Update.count s (.ensure k)) q = s.standing q := by
  rw [Update.count]
  split
  · rfl
  next hnew =>
  rw [standing_insert]
  split
  · next hq =>
    rw [Ordered.contains, Option.not_isSome_iff_eq_none] at hnew
    rw [hq, Standings.standing, hnew, Option.getD_none]
  · rfl

theorem Standing.tally_observe (s : Standing) (o x : Outcome) :
    (s.observe o).tally x = if o = x then Count.add (s.tally x) 1 else s.tally x := by
  cases o <;> cases x <;> rfl

theorem tally_count (s : Standings) (u : Update) (recipe : String) (o : Outcome) :
    ((Update.count s u).standing recipe).tally o =
      if u.Counts recipe o then Count.add ((s.standing recipe).tally o) 1 else (s.standing recipe).tally o := by
  cases u with
  | ensure k =>
    rw [standing_ensure]
    rfl
  | observe k x rate now =>
    rw [Update.count, standing_insert]
    by_cases hk : recipe = k
    · subst hk
      rw [if_pos rfl, Standing.tally_observe]
      simp only [Update.Counts, true_and, decide_eq_true_eq]
    · simp [Update.Counts, hk, Ne.symm hk]
  | setDisabled k disabled =>
    rw [Update.count, standing_insert]
    by_cases hk : recipe = k
    · subst hk
      rw [if_pos rfl]
      cases o <;> rfl
    · rw [if_neg hk]
      rfl

theorem disabled_count (s : Standings) (u : Update) (recipe : String) :
    ((Update.count s u).standing recipe).disabled = (u.flag? recipe).getD (s.standing recipe).disabled := by
  cases u with
  | ensure k =>
    rw [standing_ensure]
    rfl
  | observe k x rate now =>
    rw [Update.count, standing_insert]
    by_cases hk : recipe = k
    · subst hk
      rw [if_pos rfl]
      cases x <;> rfl
    · rw [if_neg hk]
      rfl
  | setDisabled k disabled =>
    rw [Update.count, standing_insert]
    by_cases hk : recipe = k
    · subst hk
      simp [Update.flag?]
    · simp [Update.flag?, hk, Ne.symm hk]

/-- **Every outcome counts once**, until a counter is full. -/
theorem tally_foldl (us : List Update) (s : Standings) (recipe : String) (o : Outcome) :
    (((us.foldl Update.count s).standing recipe).tally o).toNat =
      min (((s.standing recipe).tally o).toNat + us.countP (Update.Counts recipe o)) (UInt32.size - 1) := by
  induction us generalizing s with
  | nil =>
    have hfull : ((s.standing recipe).tally o).toNat < UInt32.size := UInt32.toNat_lt_size _
    simp only [List.foldl_nil, List.countP_nil]
    omega
  | cons u us ih =>
    rw [List.foldl_cons, ih, tally_count, List.countP_cons]
    split
    · rw [Count.toNat_add, show (1 : Count).toNat = 1 from rfl]
      omega
    · rfl

/-- **The last toggle decides.** -/
theorem disabled_foldl (us : List Update) (s : Standings) (recipe : String) :
    ((us.foldl Update.count s).standing recipe).disabled =
      ((us.filterMap (Update.flag? recipe)).getLast?).getD (s.standing recipe).disabled := by
  induction us generalizing s with
  | nil => rfl
  | cons u us ih =>
    rw [List.foldl_cons, ih, disabled_count]
    cases hflag : u.flag? recipe with
    | none => rw [List.filterMap_cons_none hflag, Option.getD_none]
    | some flag =>
      rw [List.filterMap_cons_some hflag, List.getLast?_cons, Option.getD_some, Option.getD_some]

/-- An update is written through, unless there is nothing to change. -/
theorem exec_write {u : Update} {s x : Session} {r : Except Ledger.Error Unit} (h : u.write.exec s = (r, x)) :
    r = .ok () ∧ x = s ∧ u.apply s.store.table = s.store.table ∨ (commit fun t => u.apply t).exec s = (r, x) := by
  cases u with
  | ensure recipe =>
    rw [Update.write, Trust.ensure, Action.exec_bind_ok (Action.exec_get _)] at h
    split at h
    · next hknown =>
      obtain ⟨rfl, rfl⟩ := Prod.mk.inj h
      exact .inl ⟨rfl, rfl, if_pos hknown⟩
    · exact .inr h
  | observe recipe o rate now =>
    right
    rw [Update.write, recordOutcome, Action.exec_bind, Action.exec_bind] at h
    rcases hrun : (commit fun t => t.observe recipe o rate now).exec s with ⟨cause | ⟨⟩, y⟩
    · rw [hrun] at h
      rw [← h]
      exact hrun
    · rw [hrun] at h
      rw [← h]
      exact hrun
  | setDisabled recipe disabled => exact .inr h

end Mend.Trust
