import Mend.Count
import Mend.Json.Stored

/-!
# Issues

An issue is a finding of an analyzer: a category of problem on a line of a file. Only an issue that
the analyzer marks as eligible is ever acted on.
-/

namespace Mend

/-- How much an issue matters. -/
inductive Severity where
  | low
  | medium
  | high
  | critical
  deriving DecidableEq, Repr, Inhabited

namespace Severity

/-- The stored name. -/
def name : Severity → String
  | .low => "low"
  | .medium => "medium"
  | .high => "high"
  | .critical => "critical"

/-- Reads a stored name. -/
def ofName? (s : String) : Option Severity :=
  if s == "low" then some .low
  else if s == "medium" then some .medium
  else if s == "high" then some .high
  else if s == "critical" then some .critical
  else none

/-- Reads a severity from a document. -/
def ofJson? : Json → Option Severity := Json.name? ofName?

instance : Stored Severity := ⟨fun s => .str s.name, ofJson?⟩

instance : ToString Severity := ⟨name⟩

/-- The place in the order, from zero for the least severe. -/
def rank : Severity → Nat
  | .low => 0
  | .medium => 1
  | .high => 2
  | .critical => 3

/-- What an issue adds to the weight of a set of issues. -/
def weight (s : Severity) : Count := UInt32.ofNat (Nat.pow 2 s.rank)

/-- The place in the order as a part of one. -/
def normalized (s : Severity) : Float := s.rank.toFloat / 3

instance : Ord Severity := ⟨fun a b => compare a.rank b.rank⟩

end Severity

/-- A finding of an analyzer. -/
structure Issue where
  id : String
  file : RelPath
  /-- Counted from one. -/
  line : Count
  column : Option Count := none
  severity : Severity
  category : String
  message : String := ""
  /-- The analyzer allows that the issue is acted on without a person. -/
  eligible : Bool := false
  /-- The recipe that the analyzer asks for. -/
  hint : Option String := none
  deriving DecidableEq, Repr, Inhabited

namespace Issue

/-- A field that is written only if there is something in it. -/
def optionalField (name : String) (write : α → Json) : Option α → List (String × Json)
  | some a => [(name, write a)]
  | none => []

/-- The stored form of an issue. -/
def toJson (i : Issue) : Json :=
  .obj ([("id", .str i.id), ("file", Json.ofPath i.file), ("line", Json.ofCount i.line)] ++
    optionalField "column" Json.ofCount i.column ++
    [("severity", .str i.severity.name), ("category", .str i.category), ("message", .str i.message),
      ("handoffEligible", .bool i.eligible)] ++
    optionalField "recipeHint" .str i.hint)

/-- Reads an issue. -/
def ofJson? (j : Json) : Option Issue := do
  match ← Json.slots ["id", "file", "line", "column", "severity", "category", "message",
      "handoffEligible", "recipeHint"] false j with
  | [id, file, line, column, severity, category, message, eligible, hint] =>
    some ⟨← id.required Json.text?, ← file.required Json.path?, ← line.required Json.count?,
      ← column.optionalAtEnd Json.count?, ← severity.required Severity.ofJson?,
      ← category.required Json.text?, ← message.required Json.text?,
      ← eligible.withDefault Json.bool? false, ← hint.optionalAtEnd Json.text?⟩
  | _ => none

instance : Stored Issue := ⟨toJson, ofJson?⟩

end Issue
end Mend
