import Mend.Path

/-!
# Places

A place is where a file is or would be: the steps from the root of the file system, and the text that
names it in messages. A step is a name, or `..` for the directory above, or `.` for a directory
itself. An empty step stands last where the text ends in a slash.
-/

namespace Mend.Fs

/-- Steps from the root of the file system. -/
abbrev Location := List String

/-- A location and the text that names it. -/
structure Place where
  location : Location
  shown : String
  deriving DecidableEq, Repr, Inhabited

namespace Place

/-- The steps of a path text. A slash at the end asks for a directory. -/
def steps (path : String) : Location :=
  let ps := HostPath.pieces path
  let named := ps.filter (· ≠ "")
  if ps.getLast? = some "" && !named.isEmpty then named ++ [""] else named

/-- The place that a path text names from `p`. An absolute one is taken from the root. -/
def join (p : Place) (path : String) : Place :=
  if HostPath.isAbsolute path then ⟨steps path, path⟩
  else ⟨p.location ++ steps path, HostPath.join p.shown path⟩

/-- The place of a name in a directory. -/
def child (p : Place) (name : String) : Place := ⟨p.location ++ [name], HostPath.join p.shown name⟩

/-- The place of a workspace path. -/
def file (p : Place) (path : RelPath) : Place := ⟨p.location ++ path.segments, path.resolve p.shown⟩

/-- Drops slashes, and dots between slashes, from a reversed text. -/
def dropSlashes : List Char → List Char
  | '/' :: cs => if cs.isEmpty then ['/'] else dropSlashes cs
  | '.' :: '/' :: cs => if cs.isEmpty then ['/'] else dropSlashes cs
  | cs => cs

/-- The text of the directory around a place. -/
def parentText (path : String) : String :=
  let back := dropSlashes path.toList.reverse
  let above := back.dropWhile (· ≠ '/')
  String.ofList (dropSlashes above).reverse

/-- Steps without those at the end that stay in a directory. -/
def settled (l : Location) : Location := (l.reverse.dropWhile fun s => s = "" || s = ".").reverse

/-- The directory around a place. -/
def parent (p : Place) : Place := ⟨settled (settled p.location).dropLast, parentText p.shown⟩

/-- The last step that is not a dot, if it is a name. -/
def name? (p : Place) : Option String := (settled p.location).getLast?.filter (· ≠ "..")

/-- The place with `suffix` after its name: beside `p`, or in the directory that `p` is if it has no
name. -/
def suffixed (p : Place) (suffix : String) : Place :=
  match p.name? with
  | some name => p.parent.child (name ++ suffix)
  | none => p.child suffix

end Place
end Mend.Fs
