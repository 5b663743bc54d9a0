import Mend.Fs.Tree
import Mend.Text.Utf8

/-!
# Disks

A disk holds files and directories below its root. Every operation first walks to its location: each
step but the last must lead to a directory. An operation that fails leaves the disk as it was.
-/

namespace Mend.Fs

/-- The files and directories below the root. -/
structure Disk where
  root : List (String × Tree)
  deriving Inhabited

namespace Disk

/-- A disk with nothing on it. -/
def empty : Disk := ⟨[]⟩

/-- The root directory. -/
def tree (d : Disk) : Tree := .dir d.root

/-- What stands at a location without dots. The root is a directory. -/
def node? (d : Disk) (l : Location) : Option Node := (d.tree.at? l).map Tree.node

/-- Changes what stands at a location without dots, if there is a directory around it. -/
def alter (d : Disk) (l : Location) (f : Option Tree → Option Tree) : Disk := ⟨(d.tree.alter f l).children⟩

/-- Puts a node at a location. -/
def put (d : Disk) (l : Location) (n : Node) : Disk := d.alter l fun old => some (.ofNode n old)

/-- Takes away what stands at a location. -/
def drop (d : Disk) (l : Location) : Disk := d.alter l fun _ => none

/-- What stands on a disk below its root, directories before what is in them. -/
def entries (d : Disk) : List (Location × Node) := Tree.entriesOf [] d.root

/-! ## Walking -/

/-- The longest name of a file, in bytes. -/
def maxName : Nat := 255

/-- The longest path, in bytes, with a byte that ends it. -/
def maxPath : Nat := 4096

/-- Where a walk has led: a location without dots, and what stands there. -/
structure Spot where
  location : Location
  tree : Option Tree

/-- The spot that names lead to, the last first, each with what stands under it. -/
def spotOf (root : Tree) (back : List (String × Tree)) : Spot :=
  ⟨back.reverse.map Prod.fst, some ((back.head?.map Prod.snd).getD root)⟩

/-- Walks steps from where `back` leads. Every step starts in a directory; the last may lead to
nothing. -/
def walk (root : Tree) : List (String × Tree) → Location → Except Error Spot
  | back, [] => .ok (spotOf root back)
  | back, s :: rest =>
    match (back.head?.map Prod.snd).getD root with
    | .file _ _ => .error .notDirectory
    | .dir cs =>
      if s = "" || s = "." then walk root back rest
      else if s = ".." then walk root back.tail rest
      else if maxName < s.utf8ByteSize then .error .nameTooLong
      else match cs.lookup s with
        | some t => walk root ((s, t) :: back) rest
        | none => if rest.isEmpty then .ok ⟨(spotOf root back).location ++ [s], none⟩ else .error .notFound

/-- The bytes of a path. -/
def pathLength (steps : Location) : Nat := steps.foldl (fun n s => n + s.utf8ByteSize + 1) 0

/-- Where steps lead. -/
def reach (d : Disk) (steps : Location) : Except Error Spot :=
  if steps.any fun s => s.toList.contains '\x00' then .error .nulInName
  else if maxPath ≤ pathLength steps then .error .nameTooLong
  else walk d.tree [] steps

/-- The location that steps lead to. -/
def locate (d : Disk) (steps : Location) : Except Error Location :=
  match d.reach steps with
  | .error e => .error e
  | .ok spot => .ok spot.location

/-! ## Reading -/

/-- What stands where steps lead. -/
def find (d : Disk) (steps : Location) : Except Error Node :=
  match d.reach steps with
  | .error e => .error e
  | .ok ⟨_, none⟩ => .error .notFound
  | .ok ⟨_, some t⟩ => .ok t.node

/-- The bytes of a file. -/
def read (d : Disk) (steps : Location) : Except Error ByteArray :=
  match d.find steps with
  | .error e => .error e
  | .ok .dir => .error .isDirectory
  | .ok (.file content _) => .ok content

/-- The text of a file. -/
def readText (d : Disk) (steps : Location) : Except Error String :=
  match d.read steps with
  | .error e => .error e
  | .ok content =>
    match Text.decode? content with
    | some s => .ok s
    | none => .error .notUtf8

/-- Something stands where steps lead. -/
def «exists» (d : Disk) (steps : Location) : Bool :=
  match d.find steps with
  | .ok _ => true
  | .error _ => false

/-- A directory stands where steps lead. -/
def isDir (d : Disk) (steps : Location) : Bool :=
  match d.find steps with
  | .ok .dir => true
  | _ => false

/-- The names in a directory. -/
def names (d : Disk) (steps : Location) : Except Error (List String) :=
  match d.reach steps with
  | .error e => .error e
  | .ok ⟨_, none⟩ => .error .notFound
  | .ok ⟨_, some (.file _ _)⟩ => .error .notDirectory
  | .ok ⟨_, some (.dir cs)⟩ => .ok (cs.map Prod.fst)

/-- The files strictly below a directory without dots, by their steps from it. -/
def filesBelow (d : Disk) (l : Location) : List (Location × ByteArray) :=
  let below := Tree.entriesOf [] (((d.tree.at? l).map Tree.children).getD [])
  below.filterMap fun e =>
    match e.2 with
    | .file content _ => some (e.1, content)
    | .dir => none

/-! ## Changing -/

/-- The mode of a new file. -/
def newMode : Nat := 0o644

/-- Steps without a slash at their end. -/
def unslashed (steps : Location) : Location := if steps.getLast? = some "" then steps.dropLast else steps

/-- Makes a directory. -/
def mkdir (d : Disk) (steps : Location) : Except Error Disk :=
  match d.reach (unslashed steps) with
  | .error e => .error e
  | .ok ⟨_, some _⟩ => .error .exists
  | .ok ⟨l, none⟩ => .ok (d.put l .dir)

/-- Makes a directory and those around it, given its steps with the last first. -/
def mkdirsBack (d : Disk) : List String → Except Error Unit × Disk
  | [] => (.ok (), d)
  | s :: back =>
    let steps := (s :: back).reverse
    if d.isDir steps then (.ok (), d)
    else match d.mkdir steps with
    | .ok d => (.ok (), d)
    | .error .notFound =>
      match mkdirsBack d back with
      | (.error e, d) => (.error e, d)
      | (.ok (), d) =>
        match d.mkdir steps with
        | .ok d => (.ok (), d)
        | .error e => if d.isDir steps then (.ok (), d) else (.error e, d)
    | .error e => (.error e, d)

/-- Makes a directory and those around it. What stands there as a directory may stay. The directories
that could be made before a failure stay too. -/
def mkdirs (d : Disk) (steps : Location) : Except Error Unit × Disk := d.mkdirsBack steps.reverse

/-- Where a file is opened that may be a new one: no directory, and no path with a slash at its end. -/
def reachFile (d : Disk) (steps : Location) : Except Error Spot :=
  match d.reach (unslashed steps) with
  | .error e => .error e
  | .ok spot =>
    if steps.getLast? = some "" || (spot.tree.map Tree.node) = some .dir then .error .isDirectory
    else .ok spot

/-- Writes a file, a new one with the usual mode. -/
def write (d : Disk) (steps : Location) (content : ByteArray) : Except Error Disk :=
  match d.reachFile steps with
  | .error e => .error e
  | .ok ⟨l, some (.file _ mode)⟩ => .ok (d.put l (.file content mode))
  | .ok ⟨l, _⟩ => .ok (d.put l (.file content newMode))

/-- Makes an empty file, unless there is one. -/
def touch (d : Disk) (steps : Location) : Except Error Disk :=
  match d.reachFile steps with
  | .error e => .error e
  | .ok ⟨_, some _⟩ => .ok d
  | .ok ⟨l, none⟩ => .ok (d.put l (.file ByteArray.empty newMode))

/-- Writes a file, making the directories around it, or makes a directory if there is no content. What
stands in the way of a directory is left, and then nothing changes. -/
def install (d : Disk) (steps : Location) (content : Option ByteArray) : Disk :=
  match content with
  | some bytes =>
    match (d.mkdirs steps.dropLast).2.write steps bytes with
    | .ok d => d
    | .error _ => d
  | none => (d.mkdirs steps).2

/-- Takes away what stands where steps lead, with all that is below it. -/
def removeAll (d : Disk) (steps : Location) : Disk :=
  match d.locate steps with
  | .ok l => d.drop l
  | .error _ => d

/-- Gives a file other permissions. -/
def chmod (d : Disk) (steps : Location) (mode : Nat) : Except Error Disk :=
  match d.reach steps with
  | .error e => .error e
  | .ok ⟨_, none⟩ => .error .notFound
  | .ok ⟨_, some (.dir _)⟩ => .ok d
  | .ok ⟨l, some (.file content _)⟩ => .ok (d.put l (.file content mode))

/-- Removes a file. -/
def unlink (d : Disk) (steps : Location) : Except Error Disk :=
  match d.reach steps with
  | .error e => .error e
  | .ok ⟨_, none⟩ => .error .notFound
  | .ok ⟨_, some (.dir _)⟩ => .error .isDirectory
  | .ok ⟨l, some (.file _ _)⟩ => .ok (d.drop l)

/-- Removes a directory without anything in it. -/
def rmdir (d : Disk) (steps : Location) : Except Error Disk :=
  match d.reach steps with
  | .error e => .error e
  | .ok ⟨_, none⟩ => .error .notFound
  | .ok ⟨_, some (.file _ _)⟩ => .error .notDirectory
  | .ok ⟨l, some (.dir cs)⟩ => if cs.isEmpty then .ok (d.drop l) else .error .notEmpty

/-- Whether a tree may be moved to where another one stands, if any: a file over a file, and a directory
over an empty one. -/
def mayReplace : Tree → Option Tree → Except Error Unit
  | _, none => .ok ()
  | .file _ _, some (.file _ _) => .ok ()
  | .file _ _, some (.dir _) => .error .isDirectory
  | .dir _, some (.file _ _) => .error .notDirectory
  | .dir _, some (.dir cs) => if cs.isEmpty then .ok () else .error .notEmpty

/-- Moves a file or a directory. Its new path ends in a name, and a file's in no slash. -/
def rename (d : Disk) (source target : Location) : Except Error Disk :=
  match d.reach source, d.reach (unslashed target) with
  | .error e, _ => .error e
  | _, .error e => .error e
  | .ok ⟨_, none⟩, _ => .error .notFound
  | .ok ⟨s, some t⟩, .ok spot =>
    let last := (unslashed target).getLast?
    if last = some "." || last = some ".." then .error .busy
    else if target.getLast? = some "" && t.node ≠ .dir then .error .notDirectory
    else if s = spot.location then .ok d
    else match mayReplace t spot.tree with
      | .error e => .error e
      | .ok () => .ok ((d.drop s).alter spot.location fun _ => some t)

end Disk
end Mend.Fs
