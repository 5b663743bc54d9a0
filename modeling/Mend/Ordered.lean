/-!
# Tables in key order

A table is a list of keys and values with the keys ascending, so that walking it gives the order in
which it is shown. An insertion under a key that is there replaces the value.
-/

namespace Mend

/-- Keys with their values, in the order of the keys. -/
abbrev Ordered (κ α : Type) := List (κ × α)

namespace Ordered

variable {κ α : Type} [Ord κ]

/-- The value under a key. -/
def get? (t : Ordered κ α) (k : κ) : Option α :=
  match t with
  | [] => none
  | (k', v) :: rest =>
    match compare k k' with
    | .eq => some v
    | .lt => none
    | .gt => get? rest k

/-- The table with a value under a key. -/
def insert (t : Ordered κ α) (k : κ) (v : α) : Ordered κ α :=
  match t with
  | [] => [(k, v)]
  | (k', v') :: rest =>
    match compare k k' with
    | .eq => (k, v) :: rest
    | .lt => (k, v) :: (k', v') :: rest
    | .gt => (k', v') :: insert rest k v

/-- The table without a key. -/
def erase (t : Ordered κ α) (k : κ) : Ordered κ α :=
  match t with
  | [] => []
  | (k', v') :: rest =>
    match compare k k' with
    | .eq => rest
    | .lt => (k', v') :: rest
    | .gt => (k', v') :: erase rest k

/-- Whether a key has a value. -/
def contains (t : Ordered κ α) (k : κ) : Bool := (get? t k).isSome

/-- The keys, ascending. -/
def keys (t : Ordered κ α) : List κ := t.map Prod.fst

/-- The table of a list of entries, later ones replacing earlier ones. -/
def ofList (entries : List (κ × α)) : Ordered κ α := entries.foldl (fun t e => insert t e.1 e.2) []

end Ordered
end Mend
