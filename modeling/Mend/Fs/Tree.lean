import Mend.Fs.Error
import Mend.Fs.Place

/-!
# Trees of files

A directory holds files and directories under their names. Trees are looked into and changed at a list
of names, which leads through directories.
-/

namespace Mend.Fs

/-- What stands at a location. -/
inductive Node where
  | file (content : ByteArray) (mode : Nat)
  | dir
  deriving Inhabited

/-- Files with the same bytes and the same mode are the same. -/
instance : DecidableEq Node
  | .dir, .dir => .isTrue rfl
  | .dir, .file _ _ => .isFalse nofun
  | .file _ _, .dir => .isFalse nofun
  | .file ⟨c⟩ m, .file ⟨c'⟩ m' =>
    if h : c = c' ∧ m = m' then .isTrue (h.1 ▸ h.2 ▸ rfl)
    else .isFalse fun e => h (by injection e with e₁ e₂; injection e₁ with e₁; exact ⟨e₁, e₂⟩)

/-- A file, or a directory with what stands in it. -/
inductive Tree where
  | file (content : ByteArray) (mode : Nat)
  | dir (children : List (String × Tree))
  deriving Inhabited

namespace Tree

/-- What stands at the root of a tree. -/
def node : Tree → Node
  | .file content mode => .file content mode
  | .dir _ => .dir

/-- What stands in a directory; nothing stands in a file. -/
def children : Tree → List (String × Tree)
  | .file _ _ => []
  | .dir cs => cs

/-- A tree for a node that stands where `old` stood. A directory keeps what stands in it. -/
def ofNode (n : Node) (old : Option Tree) : Tree :=
  match n with
  | .file content mode => .file content mode
  | .dir => .dir ((old.map children).getD [])

/-- What stands in a directory after a name has got another tree, or none. -/
def setChild (cs : List (String × Tree)) (name : String) : Option Tree → List (String × Tree)
  | none => cs.filter fun c => c.1 ≠ name
  | some t =>
    if (cs.lookup name).isSome then cs.map fun c => if c.1 = name then (name, t) else c
    else cs ++ [(name, t)]

/-- The tree at a list of names. -/
def at? : Tree → List String → Option Tree
  | t, [] => some t
  | t, s :: rest =>
    match t.children.lookup s with
    | some sub => sub.at? rest
    | none => none

/-- Changes what stands at a list of names. The names before the last one lead to directories; where
they do not, nothing changes. -/
def alter (f : Option Tree → Option Tree) : List String → Tree → Tree
  | [], t => t
  | _, .file content mode => .file content mode
  | [s], .dir cs => .dir (setChild cs s (f (cs.lookup s)))
  | s :: rest, .dir cs =>
    match cs.lookup s with
    | some sub => .dir (setChild cs s (some (sub.alter f rest)))
    | none => .dir cs

mutual

/-- What stands in a tree, directories before what is in them; `back` holds the names that lead to the
tree, the last first. -/
def entries (back : List String) : Tree → List (Location × Node)
  | .file content mode => [(back.reverse, .file content mode)]
  | .dir cs => (back.reverse, .dir) :: entriesOf back cs

/-- What stands in trees with names. -/
def entriesOf (back : List String) : List (String × Tree) → List (Location × Node)
  | [] => []
  | (s, t) :: rest => entries (s :: back) t ++ entriesOf back rest

end

end Tree
end Mend.Fs
