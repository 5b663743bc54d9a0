/-!
# Paths

A path text is a list of components between slashes. `HostPath` reads and joins such texts as they
stand, absolute or not. A `RelPath` is one or more ordinary names below a workspace: it can be
neither absolute nor climb, so that it never leaves the workspace it is resolved in.
-/

namespace Mend

/-! ## Path texts -/

namespace HostPath

/-- A component of a path text. -/
inductive Component where
  | root
  /-- A single dot at the start; elsewhere it is dropped. -/
  | current
  | parent
  | name (text : String)
  deriving DecidableEq, Repr

/-- The pieces between slashes. -/
def pieces (path : String) : List String :=
  (path.toList.splitOn '/').map String.ofList

/-- Starts at the root of the file system. -/
def isAbsolute (path : String) : Bool := path.toList.head? = some '/'

/-- The component of a piece that is not the first. -/
def component? (piece : String) : Option Component :=
  if piece = "" || piece = "." then none
  else if piece = ".." then some .parent
  else some (.name piece)

/-- The components of a path text. Repeated slashes and inner dots vanish. -/
def components (path : String) : List Component :=
  if isAbsolute path then .root :: (pieces path).filterMap component?
  else match pieces path with
    | "." :: rest => .current :: rest.filterMap component?
    | ps => ps.filterMap component?

/-- Appends a path text to a base; an absolute one replaces it. -/
def join (base path : String) : String :=
  if isAbsolute path then path
  else if base = "" || base.toList.getLast? = some '/' then base ++ path
  else base ++ "/" ++ path

/-- Drops the components of `root` from those of a path below it. -/
def strip? : List Component → List Component → Option (List Component)
  | [], rest => some rest
  | c :: cs, d :: ds => if c = d then strip? cs ds else none
  | _ :: _, [] => none

end HostPath

/-! ## Paths in a workspace -/

/-- A file's place below a workspace: names from the outermost directory to the file. -/
structure RelPath where
  segments : List String
  deriving DecidableEq, Repr, Inhabited

namespace RelPath

/-- Why a text names no place below a workspace. -/
inductive Error where
  | empty
  | absolute (raw : String)
  | traversal (raw : String)
  | outside (path : String)
  | nul
  deriving DecidableEq, Repr

/-- What is wrong with the text. -/
def Error.message : Error → String
  | .empty => "empty path"
  | .absolute raw => "absolute path not allowed: " ++ raw
  | .traversal raw => "path traversal not allowed: " ++ raw
  | .outside path => "path outside workspace: " ++ path
  | .nul => "path contains NUL byte"

instance : ToString Error := ⟨Error.message⟩

/-- The path with slashes between its names. -/
def text (p : RelPath) : String := String.intercalate "/" p.segments

instance : ToString RelPath := ⟨text⟩

/-- A letter and a colon at the start. -/
def hasDrive : List Char → Bool
  | c :: ':' :: _ => c.isAlpha
  | _ => false

/-- The names of a path; a name that climbs is refused. -/
def names (raw : String) : List String → Except Error (List String)
  | [] => .ok []
  | s :: rest =>
    if s = "" || s = "." then names raw rest
    else if s = ".." then .error (.traversal raw)
    else (names raw rest).map (s :: ·)

/-- Reads a relative path. Backslashes count as slashes, empty names and dots vanish, and a path that
is absolute, climbs, is empty or has a NUL in it is refused. -/
def parse (raw : String) : Except Error RelPath :=
  let cs := raw.toList
  if cs.contains '\x00' then .error .nul
  else
    let unified := cs.map fun c => if c = '\\' then '/' else c
    if unified.head? = some '/' || hasDrive unified then .error (.absolute raw)
    else match names raw ((unified.splitOn '/').map String.ofList) with
      | .error e => .error e
      | .ok [] => .error .empty
      | .ok segments => .ok ⟨segments⟩

/-- The components of a path below a workspace as names. -/
def relativeNames (path : String) : List HostPath.Component → Except Error (List String)
  | [] => .ok []
  | .name s :: rest => (relativeNames path rest).map (s :: ·)
  | .current :: rest => relativeNames path rest
  | _ :: _ => .error (.traversal path)

/-- The place of `path` below `root`. -/
def relativeTo (root path : String) : Except Error RelPath :=
  match HostPath.strip? (HostPath.components root) (HostPath.components path) with
  | none => .error (.outside path)
  | some rest =>
    match relativeNames path rest with
    | .error e => .error e
    | .ok parts => parse (String.intercalate "/" parts)

/-- The path text below `root`. -/
def resolve (p : RelPath) (root : String) : String := p.segments.foldl HostPath.join root

/-- What follows the last dot of the last name, unless nothing stands before that dot. -/
def extension? (p : RelPath) : Option String :=
  match p.segments.getLast? with
  | none => none
  | some name =>
    let back := name.toList.reverse
    let ext := back.takeWhile (· ≠ '.')
    let stem := (back.dropWhile (· ≠ '.')).drop 1
    if stem.isEmpty then none else some (String.ofList ext.reverse)

instance : Ord RelPath := ⟨fun a b => compare a.text b.text⟩

/-- Paths are ordered by their text. -/
def le (a b : RelPath) : Bool := decide (a.text ≤ b.text)

end RelPath
end Mend
