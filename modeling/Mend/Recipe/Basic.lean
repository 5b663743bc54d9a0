import Mend.Recipe.Substitution
import Mend.Recipe.Span

/-!
# Recipes

A recipe repairs the issues of a category. It says which issues it applies to, which lines it may
touch and how many it expects to change, and makes a patch from the content of the issue's file.
-/

namespace Mend

/-- A way to repair the issues of a category. -/
inductive Recipe where
  /-- Takes blanks off the end of a line. -/
  | trimBlanks
  /-- Deletes a line that matches a pattern. -/
  | removeLine (id category : String) (guard : Pattern)
  | substitution (r : Substitution)

namespace Recipe

/-- The content of files by their paths. -/
abbrev Files := RelPath → Except Fs.Error String

/-- The name that trust is kept under. -/
def id : Recipe → String
  | .trimBlanks => "trailing-whitespace"
  | .removeLine id _ _ => id
  | .substitution r => r.id

/-- The category of issues that it is for. -/
def category : Recipe → String
  | .trimBlanks => "whitespace"
  | .removeLine _ category _ => category
  | .substitution r => r.category

/-- Whether it is for an issue. -/
def appliesTo (r : Recipe) (i : Issue) : Bool :=
  match r with
  | .trimBlanks => i.category == "whitespace" || i.category == "trailing-whitespace"
  | .removeLine _ category _ => i.category == category
  | .substitution r => i.category == r.category && r.allows i.file

/-- The lines of the issue's file that it may touch. -/
def span (r : Recipe) (i : Issue) : Span :=
  match r with
  | .substitution r => if r.scope = .file then .wholeFile else .line i.line
  | _ => .line i.line

/-- How many lines it is expected to change. -/
def estimate : Recipe → Count
  | .substitution r => r.estimate
  | _ => 1

/-- A space or a tab. -/
def isLineBlank (c : Char) : Bool := c = ' ' || c = '\t'

/-- The line that the recipe makes of a line, or none to delete it. -/
def editBody (r : Recipe) (i : Issue) (body : String) : Except Patch.Error (Option String) :=
  match r with
  | .trimBlanks => .ok (some (String.ofList (Text.dropEndWhile isLineBlank body.toList)))
  | .removeLine _ _ guard =>
    if guard.isMatch body then .ok none
    else .error (.mismatch i.file i.line ("expected line matching '" ++ guard.source ++ "'"))
  | .substitution r =>
    if r.pattern.isMatch body then .ok (some (r.run body))
    else .error (.mismatch i.file i.line ("pattern '" ++ r.pattern.source ++ "' not found"))

/-- The whole file is changed at once. -/
def wholeFile? : Recipe → Option Substitution
  | .substitution r => if r.scope = .file then some r else none
  | _ => none

/-- The content that the recipe makes of a content. -/
def newContent (r : Recipe) (i : Issue) (content : String) : Except Patch.Error String :=
  match r.wholeFile? with
  | some w => .ok (w.run content)
  | none => editLine i.file content i.line (r.editBody i)

/-- The patch for an issue. -/
def patch (r : Recipe) (i : Issue) (files : Files) : Except Patch.Error Patch :=
  match files i.file with
  | .error e => .error (.read i.file e)
  | .ok content =>
    match r.newContent i content with
    | .error e => .error e
    | .ok after => Patch.replace i.file content after

/-! ## Making recipes -/

/-- A recipe that deletes lines. -/
def ofGuard (id category guard : String) : Except Patch.Error Recipe :=
  match Pattern.compile guard with
  | some p => .ok (.removeLine id category p)
  | none => .error (.invalidRecipe id .pattern)

/-- The recipe that a declaration describes. -/
def ofDeclared (d : Substitution.Declared) : Except Patch.Error Recipe :=
  match Substitution.ofDeclared d with
  | .ok r => .ok (.substitution r)
  | .error e => .error e

/-! ## The usual recipes -/

/-- Deletes statements that print while debugging. -/
def removeDebugStatement : Recipe :=
  .removeLine "remove-debug-statement" "debug-statement"
    (Pattern.fixed "^\\s*(console\\.log\\(|dbg!\\(|print\\()")

/-- Deletes an import on a line of its own. -/
def removeUnusedImport : Recipe :=
  .removeLine "remove-unused-import" "unused-import"
    (Pattern.fixed "^\\s*(import\\s|from\\s+\\S+\\s+import\\s|use\\s+[\\w:\x7b\x7d, *]+;)")

/-- Makes the last of two member accesses safe against null. -/
def nullSafeAccess : Recipe :=
  .substitution ⟨"null-safe-member-access", "null-safety",
    Pattern.fixed "\\b([A-Za-z_$][\\w$]*)\\.([A-Za-z_$][\\w$]*)\\.([A-Za-z_$][\\w$]*)",
    "$1.$2?.$3", .line, ["ts", "tsx", "js", "jsx", "mjs"], 1⟩

/-- The recipes that are always there. -/
def usual : List Recipe := [.trimBlanks, removeDebugStatement, removeUnusedImport, nullSafeAccess]

end Recipe
end Mend
