import Mend.Toml.Scalar
import Mend.Toml.Table

/-!
# Reading a configuration document

`Toml.parse` reads a document into the fields of its outermost table. Lists and tables between braces
may be nested up to a fixed depth.
-/

namespace Mend.Toml

/-- How deep values may be nested, and how many keys a dotted key may have. -/
def maxDepth : Nat := 80

/-- Reads a comment up to the end of its line. -/
def comment? (cs : List Char) : Option (List Char) :=
  match cs with
  | '#' :: r => some (r.dropWhile isPlain)
  | r => some r

/-- The end of a line, or of the document. -/
def lineEnd? (cs : List Char) : Option (List Char) :=
  match cs with
  | [] => some []
  | _ => newline? cs

/-- What may follow a statement: blanks, a comment, and the end of the line. -/
def trailing? (cs : List Char) : Option (List Char) := do lineEnd? (← comment? (skip cs))

/-- Drops blanks, comments and line ends. -/
def skipLines : Nat → List Char → List Char
  | 0, cs => cs
  | fuel + 1, cs =>
    match skip cs with
    | '#' :: r =>
      match newline? (r.dropWhile isPlain) with
      | some r => skipLines fuel r
      | none => '#' :: r
    | r =>
      match newline? r with
      | some r => skipLines fuel r
      | none => r

/-- Drops blanks, comments and line ends. -/
def skipAll (cs : List Char) : List Char := skipLines (cs.length + 1) cs

/-! ## Keys -/

/-- A character of a key without quotes. -/
def isKeyChar (c : Char) : Bool := c.isAlphanum || c = '_' || c = '-'

/-- Reads one key. -/
def key? (cs : List Char) : Option (String × List Char) :=
  match text? cs with
  | some r => some r
  | none =>
    let (k, rest) := cs.span isKeyChar
    if k.isEmpty then none else some (String.ofList k, rest)

/-- Reads keys with points between them. -/
def keysTo : Nat → List Char → Option (List String × List Char)
  | 0, _ => none
  | fuel + 1, cs => do
    let (k, rest) ← key? (skip cs)
    match skip rest with
    | '.' :: r => do
      let (ks, rest) ← keysTo fuel r
      some (k :: ks, rest)
    | r => some ([k], r)

/-- Reads a dotted key: the keys before the last one, and the last one. -/
def dottedKey? (cs : List Char) : Option (List String × String × List Char) := do
  let (ks, rest) ← keysTo (maxDepth - 1) cs
  some (ks.dropLast, ← ks.getLast?, rest)

/-! ## Values -/

mutual

/-- Reads a value. -/
def value? (depth : Nat) : Nat → List Char → Option (Json × List Char)
  | 0, _ => none
  | fuel + 1, cs =>
    match cs with
    | '[' :: r =>
      if depth + 1 < maxDepth then do
        let (items, rest) ← items? (depth + 1) fuel r
        some (.arr items, rest)
      else none
    | '\x7b' :: r =>
      if depth + 1 < maxDepth then do
        let (fields, rest) ← pairs? (depth + 1) fuel [] true r
        some ((Node.table false false fields).toJson, rest)
      else none
    | '"' :: _ => (anyText? cs).map fun (s, rest) => (.str s, rest)
    | '\'' :: _ => (anyText? cs).map fun (s, rest) => (.str s, rest)
    | _ => word? cs

/-- Reads the items of a list up to its end. -/
def items? (depth : Nat) : Nat → List Char → Option (List Json × List Char)
  | 0, _ => none
  | fuel + 1, cs =>
    match skipAll cs with
    | ']' :: r => some ([], r)
    | r => do
      let (v, rest) ← value? depth fuel r
      match skipAll rest with
      | ',' :: r => do
        let (vs, rest) ← items? depth fuel r
        some (v :: vs, rest)
      | ']' :: r => some ([v], r)
      | _ => none

/-- Reads the keys and values of a table between braces up to its end. -/
def pairs? (depth : Nat) : Nat → Fields → Bool → List Char → Option (Fields × List Char)
  | 0, _, _, _ => none
  | fuel + 1, fields, first, cs =>
    match skip cs, first with
    | '\x7d' :: r, true => some (fields, r)
    | r, _ => do
      let (path, key, rest) ← dottedKey? r
      let rest ← take? '=' (skip rest)
      let (v, rest) ← value? depth fuel (skip rest)
      let fields ← fields.set path key v
      match skip rest with
      | ',' :: r => pairs? depth fuel fields false r
      | '\x7d' :: r => some (fields, r)
      | _ => none

end

/-! ## Statements -/

/-- The tables that have been read, and the one that keys are set in. -/
structure Reading where
  root : Fields
  /-- The keys of the last header. -/
  current : List String

/-- Reads a header up to the end of its line. -/
def header? (s : Reading) (cs : List Char) : Option (Reading × List Char) :=
  match cs with
  | '[' :: r => do
    let (path, key, rest) ← dottedKey? r
    let rest ← take? ']' (skip rest)
    let rest ← take? ']' rest
    let root ← s.root.addTable path key
    some (⟨root, path ++ [key]⟩, ← trailing? rest)
  | r => do
    let (path, key, rest) ← dottedKey? r
    let rest ← take? ']' (skip rest)
    let root ← s.root.openTable path key
    some (⟨root, path ++ [key]⟩, ← trailing? rest)

/-- Reads a key and its value up to the end of the line. -/
def assignment? (s : Reading) (cs : List Char) : Option (Reading × List Char) := do
  let (path, key, rest) ← dottedKey? cs
  let rest ← take? '=' (skip rest)
  let r := skip rest
  let (v, rest) ← value? 0 (r.length + 1) r
  let root ← s.root.within false (fun _ fields => fields.set path key v) false s.current
  some ({ s with root := root }, ← trailing? rest)

/-- Reads statements; `fuel` is above the number of lines. -/
def statements? : Nat → Reading → List Char → Option Fields
  | 0, _, _ => none
  | fuel + 1, s, cs =>
    match skip cs with
    | [] => some s.root
    | '#' :: r => do statements? fuel s (← trailing? ('#' :: r))
    | '[' :: r => do
      let (s, rest) ← header? s r
      statements? fuel s rest
    | r =>
      match newline? r with
      | some r => statements? fuel s r
      | none => do
        let (s, rest) ← assignment? s r
        statements? fuel s rest

/-- The value of a document. -/
def parse (text : String) : Option Json :=
  let cs := match text.toList with
    | '\ufeff' :: r => r
    | cs => cs
  (statements? (cs.length + 2) ⟨[], []⟩ cs).map fun fields => .obj (fieldsToJson fields)

end Mend.Toml
