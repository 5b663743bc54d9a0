import Mend.Json.Basic

/-!
# Tables of a configuration document

The statements of a document fill tables that are nested in each other. A table comes into being by a
header, by a header of a table in it, or by a dotted key. `Node.within` follows a path of keys to
the table that a statement speaks of; a table that has had its header gets no second one, and one
that stands in a header is not added to by dotted keys from outside.
-/

namespace Mend.Toml

/-- What stands under a key. -/
inductive Node where
  | value (v : Json)
  /-- A table. It is `implicit` as long as it has no header of its own, and `dotted` if a dotted key
  made it. -/
  | table (implicit dotted : Bool) (fields : List (String × Node))
  /-- The tables of a repeated header. -/
  | tables (items : List (List (String × Node)))

/-- The fields of a table. -/
abbrev Fields := List (String × Node)

/-- Puts a node under a key, in the place of an earlier one. -/
def Fields.put (fields : Fields) (key : String) (n : Node) : Fields :=
  if (fields.lookup key).isSome then fields.map fun f => if f.1 = key then (key, n) else f
  else fields ++ [(key, n)]

/-- Changes the table at the end of a path; `change` is told whether a dotted key made it. Tables on
the way are made as they are needed. Through a repeated header the way leads into the last table. -/
def Fields.within (byDots : Bool) (change : Bool → Fields → Option Fields) :
    Bool → List String → Fields → Option Fields
  | dotted, [], fields => change dotted fields
  | _, k :: ks, fields =>
    match fields.lookup k with
    | none => do
      let sub ← within byDots change byDots ks []
      some (fields.put k (.table true byDots sub))
    | some (.value _) => none
    | some (.tables items) =>
      match items.getLast? with
      | none => none
      | some last => do
        let sub ← within byDots change false ks last
        some (fields.put k (.tables (items.dropLast ++ [sub])))
    | some (.table implicit dotted sub) =>
      if byDots && !implicit then none
      else do
        let sub ← within byDots change dotted ks sub
        some (fields.put k (.table implicit dotted sub))

/-- Sets a key of a table. `path` holds the keys before the last one of a dotted key. -/
def Fields.set (path : List String) (key : String) (v : Json) (fields : Fields) : Option Fields :=
  fields.within true
    (fun dotted fields =>
      if dotted = path.isEmpty || (fields.lookup key).isSome then none
      else some (fields.put key (.value v)))
    false path

/-- Gives a table its header. -/
def Fields.openTable (path : List String) (key : String) (fields : Fields) : Option Fields :=
  fields.within false
    (fun _ fields =>
      match fields.lookup key with
      | none => some (fields.put key (.table false false []))
      | some (.table true false sub) => some (fields.put key (.table false false sub))
      | some _ => none)
    false path

/-- Adds a table under a repeated header. -/
def Fields.addTable (path : List String) (key : String) (fields : Fields) : Option Fields :=
  fields.within false
    (fun _ fields =>
      match fields.lookup key with
      | none => some (fields.put key (.tables [[]]))
      | some (.tables items) => some (fields.put key (.tables (items ++ [[]])))
      | some _ => none)
    false path

mutual

/-- A node as a value. -/
def Node.toJson : Node → Json
  | .value v => v
  | .table _ _ fields => .obj (fieldsToJson fields)
  | .tables items => .arr (tablesToJson items)

/-- The fields of a table as values. -/
def fieldsToJson : List (String × Node) → List (String × Json)
  | [] => []
  | (k, n) :: rest => (k, n.toJson) :: fieldsToJson rest

/-- The tables of a repeated header as values. -/
def tablesToJson : List (List (String × Node)) → List Json
  | [] => []
  | fields :: rest => .obj (fieldsToJson fields) :: tablesToJson rest

end

/-- Whether a value says nothing in a document: an empty list, or a table without fields. -/
def isNothing : Json → Bool
  | .arr [] => true
  | .obj [] => true
  | _ => false

end Mend.Toml
