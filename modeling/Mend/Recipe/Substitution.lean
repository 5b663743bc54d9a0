import Mend.Issue
import Mend.Recipe.Patch
import Mend.Regex.Pattern
import Mend.Text.Blank

/-!
# Substitutions

A substitution puts a replacement where a pattern matches, on the line of an issue or in its whole file.
It is declared as a record of texts; its pattern has to be one.
-/

namespace Mend

/-- Where a substitution looks for its pattern. -/
inductive Scope where
  | line
  | file
  deriving DecidableEq, Repr, Inhabited

namespace Scope

/-- The stored name. -/
def name : Scope → String
  | .line => "line"
  | .file => "file"

/-- The scope with a stored name. -/
def ofName? (s : String) : Option Scope :=
  if s == "line" then some .line else if s == "file" then some .file else none

/-- How many lines a substitution is expected to change if its declaration does not say. -/
def estimate : Scope → Count
  | .line => 1
  | .file => 10

end Scope

/-- A substitution of what matches a pattern. -/
structure Substitution where
  id : String
  category : String
  pattern : Pattern
  replacement : String
  scope : Scope
  /-- The extensions of the files that it applies to; any if there is none. -/
  extensions : List String
  /-- How many lines it is expected to change. -/
  estimate : Count

namespace Substitution

/-- The file is of a kind that the substitution is for. -/
def allows (r : Substitution) (file : RelPath) : Bool :=
  r.extensions.isEmpty ||
    match file.extension? with
    | some e => r.extensions.contains e
    | none => false

/-- The text with every match replaced. -/
def run (r : Substitution) (text : String) : String := r.pattern.replaceAll text r.replacement

/-- A substitution as it is declared. -/
structure Declared where
  id : String
  category : String
  pattern : String
  replacement : String
  scope : Scope := .line
  extensions : List String := []
  estimate : Option Count := none
  deriving DecidableEq, Inhabited

/-- The stored form of a declaration. -/
def Declared.toJson (d : Declared) : Json :=
  .obj [("id", .str d.id), ("category", .str d.category), ("pattern", .str d.pattern),
    ("replacement", .str d.replacement), ("scope", .str d.scope.name),
    ("extensions", .arr (d.extensions.map .str)),
    ("estimated_loc", Json.ofOption Json.ofCount d.estimate)]

/-- Reads a declaration in a kind of document, given which values say nothing in it. -/
def Declared.read? (isNothing : Json → Bool) (j : Json) : Option Declared := do
  match ← Json.slots ["id", "category", "pattern", "replacement", "scope", "extensions",
      "estimated_loc"] false j with
  | [id, category, pattern, replacement, scope, extensions, estimate] =>
    some ⟨← id.required Json.text?, ← category.required Json.text?, ← pattern.required Json.text?,
      ← replacement.required Json.text?, ← scope.withDefault (Json.variant? isNothing Scope.ofName?) .line,
      ← extensions.withDefault (Json.list? Json.text?) [], ← estimate.optionalAtEnd Json.count?⟩
  | _ => none

/-- Reads a declaration in a JSON text. -/
def Declared.ofJson? : Json → Option Declared := Declared.read? Json.isNull

instance : Stored Declared := ⟨Declared.toJson, Declared.ofJson?⟩

/-- The substitution that a declaration describes. -/
def ofDeclared (d : Declared) : Except Patch.Error Substitution :=
  match Pattern.compile d.pattern with
  | none => .error (.invalidRecipe d.id .pattern)
  | some p =>
    if (Text.trim d.id.toList).isEmpty then .error (.invalidRecipe d.id .emptyId)
    else .ok ⟨d.id, d.category, p, d.replacement, d.scope, d.extensions,
      d.estimate.getD d.scope.estimate⟩

end Substitution
end Mend
