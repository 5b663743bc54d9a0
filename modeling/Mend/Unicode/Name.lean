import Mend.Unicode.Age
import Mend.Unicode.Break

/-!
# Names of sets of characters

A set is named by a property, a category or a script alone, or by a property and its value. Names are
compared without case, blanks, hyphens and underscores, and an `is` at the start is dropped.
-/

namespace Mend.Unicode

/-- The set that a single name stands for: a property, a category or a script. -/
def named? (name : String) : Option CharSet :=
  let n := looseName name
  let property := if n == "cf" || n == "sc" || n == "lc" then none else propertyNamed? n
  property <|> categoryNamed? n <|> scriptNamed? n

/-- The properties that have more values than two: their names, and the set of a value by its name. -/
def valuedTable : List (List String × (String → Option CharSet)) := [
  (["gc", "General_Category"], categoryNamed?),
  (["sc", "Script"], scriptNamed?),
  (["scx", "Script_Extensions"], scriptExtensionNamed?),
  (["age"], ageNamed?),
  (["GCB", "Grapheme_Cluster_Break"], clusterClasses.named?),
  (["WB", "Word_Break"], wordClasses.named?),
  (["SB", "Sentence_Break"], sentenceClasses.named?)]

/-- The set of the characters whose property has a value. -/
def valued? (property value : String) : Option CharSet := do
  let e ← valuedTable.find? fun e => isNamed e.1 (looseName property)
  e.2 (looseName value)

end Mend.Unicode
