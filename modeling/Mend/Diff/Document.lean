import Mend.Diff
import Mend.Json.Stored

/-!
# Diffs in documents

A diff is stored as a record with the list of its steps, each a record whose only field names the
step.
-/

namespace Mend.Diff

/-- The stored form of a step. -/
def Op.toJson : Op → Json
  | .keep n => .obj [("keep", .int n)]
  | .delete n => .obj [("delete", .int n)]
  | .insert ls => .obj [("insert", .arr (ls.map .str))]

/-- Reads a step. -/
def Op.ofJson? : Json → Option Op
  | .obj [("keep", v)] => (v.nat? 64).map .keep
  | .obj [("delete", v)] => (v.nat? 64).map .delete
  | .obj [("insert", v)] => (Json.list? Json.text? v).map .insert
  | _ => none

/-- The stored form of a diff. -/
def toJson (d : Diff) : Json := .obj [("ops", .arr (d.ops.map Op.toJson))]

/-- Reads a diff. -/
def ofJson? (j : Json) : Option Diff := do
  match ← Json.slots ["ops"] false j with
  | [ops] => (ops.required (Json.list? Op.ofJson?)).map (⟨·⟩)
  | _ => none

instance : Stored Diff := ⟨toJson, ofJson?⟩

end Mend.Diff
