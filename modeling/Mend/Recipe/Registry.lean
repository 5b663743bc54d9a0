import Mend.Ordered
import Mend.Recipe.Basic

/-!
# Registries

A registry holds recipes by their names, in the order of the names. No name is taken twice.
-/

namespace Mend

/-- Recipes by their names. -/
abbrev Registry := Ordered String Recipe

namespace Registry

/-- Why a recipe is not taken into a registry. -/
inductive Error where
  | duplicate (id : String)
  deriving DecidableEq, Repr

/-- The words for a failure. -/
def Error.message : Error → String
  | .duplicate id => "recipe '" ++ id ++ "' already registered"

instance : ToString Error := ⟨Error.message⟩

/-- The registry with one recipe more. -/
def register (g : Registry) (r : Recipe) : Except Error Registry :=
  if Ordered.contains g r.id then .error (.duplicate r.id) else .ok (Ordered.insert g r.id r)

/-- The registry of the usual recipes. -/
def usual : Registry := Ordered.ofList (Recipe.usual.map fun r => (r.id, r))

/-- The recipes, in the order of their names. -/
def recipes (g : Registry) : List Recipe := List.map Prod.snd g

/-- The recipe of a name. -/
def find? (g : Registry) (id : String) : Option Recipe := Ordered.get? g id

/-- The recipes that are for an issue. -/
def applicable (g : Registry) (i : Issue) : List Recipe := (recipes g).filter fun r => r.appliesTo i

end Registry
end Mend
