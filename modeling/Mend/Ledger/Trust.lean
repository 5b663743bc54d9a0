import Mend.Count
import Mend.Ledger.Files
import Mend.Ledger.Outcome
import Mend.Ordered

/-!
# Trust

The trust in a recipe is a moving average of its outcomes. Each outcome moves the score by a fixed
part of its distance to the outcome's own score, and the score stays between zero and one. A recipe
that was never seen has a neutral score. Records are never deleted; a recipe can be disabled.
-/

namespace Mend.Trust

open Fs (Disk Place)

/-! ## Scores -/

section Score

variable {α : Type} [Add α] [Sub α] [Mul α] [LT α] [DecidableLT α] [OfNat α 0] [OfNat α 1]

/-- The nearest number between zero and one. -/
def clampUnit (x : α) : α := if x < 0 then 0 else if 1 < x then 1 else x

/-- The score after an outcome: moved towards its signal by the part `rate` of the distance. -/
def blend (score rate signal : α) : α := clampUnit (score + clampUnit rate * (signal - score))

end Score

/-! ## Records -/

/-- What is known of a recipe. -/
structure Record where
  score : Float
  successes : Count := 0
  partials : Count := 0
  failures : Count := 0
  disabled : Bool := false
  updatedAt : Option Time := none

/-- The score of a recipe that was never seen. -/
def neutralScore : Float := 0.5

/-- The record of a recipe that was never seen. -/
def Record.neutral : Record := { score := neutralScore }

instance : Inhabited Record := ⟨Record.neutral⟩

/-- Folds an outcome into a record. -/
def Record.observe (r : Record) (o : Outcome) (rate : Float) (now : Time) : Record :=
  { r with
    score := blend r.score rate o.signal
    successes := if o = .success then Count.add r.successes 1 else r.successes
    partials := if o = .partly then Count.add r.partials 1 else r.partials
    failures := if o = .failure then Count.add r.failures 1 else r.failures
    updatedAt := some now }

/-- How often the recipe was applied. -/
def Record.attempts (r : Record) : Count :=
  Count.add (Count.add r.successes r.partials) r.failures

/-- The part of the applications that succeeded, if there were any. -/
def Record.successRate? (r : Record) : Option Float :=
  if r.attempts = 0 then none
  else some (r.successes.toNat.toFloat / r.attempts.toNat.toFloat)

/-- The stored form of a record. -/
def Record.toJson (r : Record) : Json :=
  .obj ([("score", .real r.score), ("successes", Json.ofCount r.successes),
      ("partials", Json.ofCount r.partials), ("failures", Json.ofCount r.failures),
      ("disabled", .bool r.disabled)] ++
    match r.updatedAt with
    | some t => [("updated_at", Json.ofTime t)]
    | none => [])

/-- Reads a record. Only the score must be there. -/
def Record.ofJson? (j : Json) : Option Record := do
  match ← Json.slots ["score", "successes", "partials", "failures", "disabled", "updated_at"] false j with
  | [score, successes, partials, failures, disabled, updated] =>
    let score ← score.required Json.float?
    let successes ← successes.withDefault Json.count? 0
    let partials ← partials.withDefault Json.count? 0
    let failures ← failures.withDefault Json.count? 0
    let disabled ← disabled.withDefault Json.bool? false
    let updated ← updated.optionalAtEnd Json.time?
    some ⟨score, successes, partials, failures, disabled, updated⟩
  | _ => none

instance : Stored Record := ⟨Record.toJson, Record.ofJson?⟩

/-! ## Tables -/

/-- The records by recipe. -/
abbrev Table := Ordered String Record

/-- The record of a recipe, neutral if it was never seen. -/
def Table.record (t : Table) (id : String) : Record := (Ordered.get? t id).getD Record.neutral

/-- The table with a record if there was none. -/
def Table.ensure (t : Table) (id : String) : Table :=
  if Ordered.contains t id then t else Ordered.insert t id Record.neutral

/-- The table after an outcome. -/
def Table.observe (t : Table) (id : String) (o : Outcome) (rate : Float) (now : Time) : Table :=
  Ordered.insert t id ((Table.record t id).observe o rate now)

/-- The table with a recipe disabled or enabled. -/
def Table.setDisabled (t : Table) (id : String) (disabled : Bool) : Table :=
  Ordered.insert t id { Table.record t id with disabled := disabled }

/-- The stored form of a table. -/
def Table.toJson (t : Table) : Json := .obj (List.map (fun e => (e.1, e.2.toJson)) t)

/-- Reads a table. Of two records of a recipe the later one counts. -/
def Table.ofJson? : Json → Option Table
  | .obj fields => (fields.mapM fun f => (Record.ofJson? f.2).map fun r => (f.1, r)).map Ordered.ofList
  | _ => none

instance : Stored Table := ⟨Table.toJson, Table.ofJson?⟩

/-! ## Stores -/

/-- Where the table is kept: only here, or also in a file that every change is written through to. -/
structure Store where
  file : Option Place
  table : Table
  deriving Inhabited

/-- A disk and a store of trust. -/
structure Session where
  disk : Disk
  store : Store

/-- A store without a file. -/
def Store.memory (seed : List (String × Float)) : Store :=
  ⟨none, Ordered.ofList (seed.map fun e => (e.1, { Record.neutral with score := clampUnit e.2 }))⟩

/-- Reads the table of a file; there is none yet if there is no file, or an empty one. -/
def Store.open (p : Place) (d : Disk) : Except Ledger.Error Store :=
  match Ledger.readOrEmpty p d with
  | .error e => .error e
  | .ok content =>
    if content.size = 0 then .ok ⟨some p, []⟩
    else match (Stored.ofBytes? content : Option Table) with
      | some t => .ok ⟨some p, t⟩
      | none => .error (.damaged p)

/-- Changes the table, and writes it through. -/
def commit (change : Table → Table) : Action Session Ledger.Error Unit :=
  Action.ofFun fun s =>
    let table := change s.store.table
    let store := { s.store with table := table }
    match s.store.file with
    | none => (.ok (), { s with store := store })
    | some p =>
      let (r, disk) := (Ledger.atomicWrite p (Stored.page table)).exec s.disk
      (r, ⟨disk, store⟩)

/-- Makes sure that a recipe has a record. -/
def ensure (id : String) : Action Session Ledger.Error Unit := do
  let s ← get
  if Ordered.contains s.store.table id then pure () else commit fun t => t.ensure id

/-- Folds an outcome into the record of a recipe, which is returned. -/
def recordOutcome (id : String) (o : Outcome) (rate : Float) (now : Time) :
    Action Session Ledger.Error Record := do
  commit fun t => t.observe id o rate now
  return (← get).store.table.record id

/-- Disables or enables a recipe. -/
def setDisabled (id : String) (disabled : Bool) : Action Session Ledger.Error Unit :=
  commit fun t => t.setDisabled id disabled

end Mend.Trust
