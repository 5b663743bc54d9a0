import Mend.Ledger.History
import Mend.Ledger.Trust
import Mend.Proofs.Ledger.DamagedLog
import Mend.Proofs.Ordered

/-!
# Histories and counters that grow

An entry is read back from its line, so that a history whose lines are whole is read as before, with the entries of
further lines after those that it had (`History.parse?_withLines`). An outcome adds one to one counter of one recipe
(`Trust.Table.tally_observe`), and a recipe that gets a record is counted as before (`Trust.Table.record_ensure`).
-/

namespace Mend.History

open Ledger

/-! ## Entries -/

theorem plain_delta (d : Delta) : Json.Plain d.toJson := by
  refine .obj fun f hf => ?_
  simp only [List.mem_cons, List.not_mem_nil, or_false] at hf
  rcases hf with rfl | rfl | rfl | rfl
  · exact Json.plain_count _
  · exact Json.plain_count _
  · exact Json.plain_count _
  · cases d.buildPassed with
    | none => exact .null
    | some passed => exact .bool passed

/-- An effect is read from slots that its fields are read from. -/
theorem delta_of_slots {d : Delta} {j a b c k : Json}
    (hslots : Json.slots ["issues_before", "issues_after", "files_changed", "build_passed"] false j =
      some [.given a, .given b, .given c, .given k])
    (ha : Json.count? a = some d.issuesBefore) (hb : Json.count? b = some d.issuesAfter)
    (hc : Json.count? c = some d.filesChanged) (hk : (Json.Slot.given k).optional Json.bool? = some d.buildPassed) :
    Delta.ofJson? j = some d := by
  simp only [Delta.ofJson?, hslots, Json.Slot.required, ha, hb, hc, hk, Option.bind_eq_bind, Option.bind_some]

theorem ofJson?_delta (d : Delta) : Delta.ofJson? d.toJson = some d := by
  have hbuild : (Json.Slot.given (Json.ofOption .bool d.buildPassed)).optional Json.bool? = some d.buildPassed := by
    cases d.buildPassed <;> rfl
  have hslots : Json.slots ["issues_before", "issues_after", "files_changed", "build_passed"] false d.toJson =
      some [.given (Json.ofCount d.issuesBefore), .given (Json.ofCount d.issuesAfter),
        .given (Json.ofCount d.filesChanged), .given (Json.ofOption .bool d.buildPassed)] := by
    rw [Delta.toJson]
    refine (Json.slots_obj ?_ ?_ false).trans ?_
    · rfl
    · simp
    · rfl
  exact delta_of_slots hslots (Json.count?_ofCount _) (Json.count?_ofCount _) (Json.count?_ofCount _) hbuild

theorem plain_entry (e : Entry) : Json.Plain e.toJson := by
  refine .obj fun f hf => ?_
  simp only [List.mem_cons, List.not_mem_nil, or_false] at hf
  rcases hf with rfl | rfl | rfl | rfl | rfl
  · exact .str _
  · exact .str _
  · exact .str _
  · exact plain_delta _
  · exact .str _

theorem ofJson?_entry {e : Entry} (h : e.recordedAt.Storable) : Entry.ofJson? e.toJson = some e := by
  have houtcome : Outcome.ofJson? (.str e.outcome.name) = some e.outcome := by
    cases e.outcome <;> decide
  have hrecipe : Json.text? (.str e.recipe) = some e.recipe := rfl
  have hslots : Json.slots ["cycle_id", "recipe_id", "outcome", "metrics_delta", "recorded_at"] false e.toJson =
      some [.given (Json.ofCycleId e.cycle), .given (.str e.recipe), .given (.str e.outcome.name),
        .given e.delta.toJson, .given (Json.ofTime e.recordedAt)] := by
    rw [Entry.toJson]
    refine (Json.slots_obj ?_ ?_ false).trans ?_
    · rfl
    · simp
    · rfl
  simp only [Entry.ofJson?, hslots, Json.Slot.required, Json.cycleId?_ofCycleId, hrecipe, houtcome, ofJson?_delta,
    Json.time?_ofTime h, Option.bind_eq_bind, Option.bind_some]

theorem ofText?_line {e : Entry} (h : e.recordedAt.Storable) : Stored.ofText? (Stored.line e) = some e := by
  show (Json.parse e.toJson.compact).bind Entry.ofJson? = some e
  rw [Json.parse_compact (plain_entry e), Option.bind_some, ofJson?_entry h]

/-! ## Lines -/

theorem line_eq (e : Entry) : ∃ cs, (Stored.line e).toList = '\x7b' :: cs ++ ['\x7d'] :=
  ⟨(Json.compactFields _).toList, by
    have htext : (Stored.line e).toList = ("\x7b" ++ Json.compactFields _).toList ++ ['\x7d'] := String.toList_append
    rw [htext, String.toList_append]
    rfl⟩

theorem trimmed_line (e : Entry) : (Text.trimmed (Stored.line e)).isEmpty = false := by
  obtain ⟨cs, hcs⟩ := line_eq e
  have hstart : Text.trimStart (Stored.line e).toList = '\x7b' :: (cs ++ ['\x7d']) := by
    rw [hcs, Text.trimStart, List.cons_append, List.dropWhile_cons, if_neg (by decide)]
  have hend : Text.trim (Stored.line e).toList ≠ [] := by
    rw [Text.trim, hstart, Text.dropEndWhile, ne_eq, List.reverse_eq_nil_iff, List.dropWhile_eq_nil_iff]
    intro hall
    exact absurd (hall '\x7b' (by simp)) (by decide)
  rw [Text.trimmed, Bool.eq_false_iff, ne_eq, String.isEmpty_iff]
  intro hempty
  exact hend (by simpa using congrArg String.toList hempty)

/-- The history with a line for each entry. -/
def withLines (log : ByteArray) (es : List Entry) : ByteArray :=
  es.foldl (fun log e => withLine log (Stored.line e)) log

/-- An entry is read after those that are there. -/
theorem parse?_withLine {log : ByteArray} (hwhole : terminated log = log) {e : Entry} (he : e.recordedAt.Storable) :
    parse? (withLine log (Stored.line e)) = (parse? log).map (· ++ [e]) := by
  obtain ⟨s, hs, hbefore, hafter⟩ := Attestation.decodeLossy_withLine log (Stored.line e)
  obtain ⟨cs, hcs⟩ := line_eq e
  have hreturn : (Stored.line e).toList.getLast? ≠ some '\r' := by
    rw [hcs, List.getLast?_concat]
    decide
  have hfeed : '\n' ∉ (Stored.line e).toList := Json.newline_not_mem_compact (plain_entry e)
  rw [hwhole] at hbefore
  rw [parse?, parse?, hafter, hbefore, Text.bodies_append_line hs hfeed hreturn, List.filter_append,
    List.filter_cons_of_pos (by rw [trimmed_line]; rfl), List.filter_nil, List.mapM_append]
  cases ((Text.bodies s).filter fun l => !(Text.trimmed l).isEmpty).mapM (Stored.ofText? : String → Option Entry) with
  | none => rfl
  | some old => simp [ofText?_line he]

/-- Entries are read in their order, after those that are there. -/
theorem parse?_withLines {log : ByteArray} (hwhole : terminated log = log) {es : List Entry}
    (hes : ∀ e ∈ es, e.recordedAt.Storable) : parse? (withLines log es) = (parse? log).map (· ++ es) := by
  induction es generalizing log with
  | nil => simp [withLines]
  | cons e es ih =>
    have hone := parse?_withLine hwhole (hes e (by simp))
    have hrest := ih (Attestation.terminated_withLine log (Stored.line e)) fun x hx => hes x (by simp [hx])
    rw [withLines, List.foldl_cons]
    refine hrest.trans ?_
    rw [hone, Option.map_map]
    simp [Function.comp_def]

end Mend.History

namespace Mend.Trust

/-! ## Counters -/

/-- How often an outcome was counted. -/
def Record.tally (r : Record) : Outcome → Count
  | .success => r.successes
  | .partly => r.partials
  | .failure => r.failures

theorem Record.tally_observe (r : Record) (o : Outcome) (rate : Float) (now : Time) (x : Outcome) :
    (r.observe o rate now).tally x = if x = o then Count.add (r.tally x) 1 else r.tally x := by
  cases o <;> cases x <;> rfl

namespace Table

variable (t : Table) (id : String) (o : Outcome) (rate : Float) (now : Time)

theorem record_insert (r : Record) (q : String) :
    record (Ordered.insert t id r) q = if q = id then r else t.record q := by
  rw [record, Ordered.get?_insert, record]
  by_cases hq : q = id
  · rw [if_pos hq, if_pos (by rw [hq]; exact Std.ReflCmp.compare_self), Option.getD_some]
  · rw [if_neg hq, if_neg fun h => hq (Std.LawfulEqCmp.eq_of_compare h)]

/-- A recipe that was never seen has the record already that it gets. -/
theorem record_ensure (q : String) : (t.ensure id).record q = t.record q := by
  rw [ensure]
  split
  · rfl
  next hnew =>
  rw [record_insert]
  split
  · next hq =>
    rw [hq, record]
    rw [Ordered.contains, Option.not_isSome_iff_eq_none] at hnew
    rw [hnew, Option.getD_none]
  · rfl

theorem tally_observe (q : String) (x : Outcome) : ((t.observe id o rate now).record q).tally x =
    if q = id ∧ x = o then Count.add ((t.record q).tally x) 1 else (t.record q).tally x := by
  rw [observe, record_insert]
  by_cases hq : q = id
  · subst hq
    rw [if_pos rfl, Record.tally_observe]
    by_cases hx : x = o
    · rw [if_pos hx, if_pos ⟨rfl, hx⟩]
    · rw [if_neg hx, if_neg fun h => hx h.2]
  · rw [if_neg hq, if_neg fun h => hq h.1]

end Table
end Mend.Trust
