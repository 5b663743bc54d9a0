import Mend.Text.Lines

/-!
# Line diffs

A diff turns one text into another by keeping, deleting and inserting whole lines. `Diff.between`
strips the lines that two texts share at their ends and, as long as the table of common
subsequences stays within bounds, keeps a longest common subsequence of what lies between.
`Diff.apply` replays a diff on its source.
-/

namespace Mend

/-- A step of a diff. Lines carry their terminators. -/
inductive Diff.Op where
  /-- Copies the next lines of the source. -/
  | keep (count : Nat)
  /-- Skips the next lines of the source. -/
  | delete (count : Nat)
  /-- Writes these lines. -/
  | insert (lines : List String)
  deriving DecidableEq, Repr, Inhabited

/-- Steps that rebuild one text from another. -/
structure Diff where
  ops : List Diff.Op
  deriving DecidableEq, Repr, Inhabited

namespace Diff

/-- Why a diff does not fit a source. -/
inductive Error where
  | sourceTooShort (needed available : Nat)
  | trailingLines (consumed total : Nat)
  deriving DecidableEq, Repr

/-- How a diff and a source disagree. -/
def Error.message : Error → String
  | .sourceTooShort n a =>
    "source too short: diff needs " ++ toString n ++ " lines, source has " ++ toString a
  | .trailingLines c t =>
    "source has trailing lines: consumed " ++ toString c ++ " of " ++ toString t

instance : ToString Error := ⟨Error.message⟩

/-! ## Common subsequences -/

/-- The length of a longest common subsequence. -/
def lcsLength [DecidableEq α] : List α → List α → Nat
  | [], _ => 0
  | _ :: _, [] => 0
  | x :: xs, y :: ys =>
    if x = y then lcsLength xs ys + 1
    else max (lcsLength xs (y :: ys)) (lcsLength (x :: xs) ys)
termination_by xs ys => xs.length + ys.length

/-- The row of the table for `x`, from the row below it. Entry `j` is the length for the lines
from `x` on and the lines of `ys` from `j` on. -/
def row [DecidableEq α] (x : α) (ys : List α) (below : List Nat) : List Nat :=
  ((ys.zip (below.zip below.tail)).foldr
    (fun (y, down, diagonal) (right : List Nat) =>
      (if x = y then diagonal + 1 else max down (right.headD 0)) :: right)
    [0])

/-- The table of lengths for all pairs of suffixes, a row for each suffix of `xs`. -/
def table [DecidableEq α] (xs ys : List α) : List (List Nat) :=
  xs.foldr (fun x rows => row x ys (rows.headD []) :: rows) [List.replicate (ys.length + 1) 0]

/-! ## Building -/

/-- Adds a step after the last one of a reversed list, joining it with one of its kind and dropping
it when it does nothing. -/
def push : List Op → Op → List Op
  | ops, .keep 0 => ops
  | ops, .delete 0 => ops
  | ops, .insert [] => ops
  | .keep k :: ops, .keep n => .keep (k + n) :: ops
  | .delete k :: ops, .delete n => .delete (k + n) :: ops
  | .insert ls :: ops, .insert ms => .insert (ls ++ ms) :: ops
  | ops, op => op :: ops

/-- Walks two lists with the table of their suffixes: keeps equal lines, and otherwise deletes as
long as this loses no common subsequence, preferring deletion to insertion. -/
def walk : List String → List String → List (List Nat) → List Op → List Op
  | [], ys, _, acc => push acc (.insert ys)
  | x :: xs, [], _, acc => push acc (.delete (x :: xs).length)
  | x :: xs, y :: ys, rows, acc =>
    if x = y then walk xs ys (rows.tail.map List.tail) (push acc (.keep 1))
    else
      let down := (rows.tail.headD []).headD 0
      let right := (rows.headD []).tail.headD 0
      if right ≤ down then walk xs (y :: ys) rows.tail (push acc (.delete 1))
      else walk (x :: xs) ys (rows.map List.tail) (push acc (.insert [y]))
termination_by xs ys => xs.length + ys.length

/-- The largest table that is built. -/
def maxCells : Nat := 4000000

/-- The steps for two lists of lines that differ at both ends: one replacement when a list is empty
or the table would be too large. -/
def middle (xs ys : List String) (acc : List Op) : List Op :=
  if xs.isEmpty || ys.isEmpty || (xs.length + 1) * (ys.length + 1) > maxCells then
    push (push acc (.delete xs.length)) (.insert ys)
  else walk xs ys (table xs ys) acc

/-- How many leading elements two lists share. -/
def sharedPrefix [DecidableEq α] : List α → List α → Nat
  | x :: xs, y :: ys => if x = y then sharedPrefix xs ys + 1 else 0
  | _, _ => 0

/-- The diff between two lists of lines. -/
def ofLines (xs ys : List String) : Diff :=
  let front := sharedPrefix xs ys
  let xs' := xs.drop front
  let ys' := ys.drop front
  let back := sharedPrefix xs'.reverse ys'.reverse
  let ops := middle (xs'.take (xs'.length - back)) (ys'.take (ys'.length - back))
    (push [] (.keep front))
  ⟨(push ops (.keep back)).reverse⟩

/-- The diff that turns `source` into `target`. -/
def between (source target : String) : Diff := ofLines (Text.lines source) (Text.lines target)

/-! ## Replaying -/

/-- Replays the steps on the lines that are left, `cursor` of them being consumed. -/
def replay (total : Nat) : List Op → Nat → List String → List String → Except Error (List String)
  | [], cursor, rest, acc =>
    if rest.isEmpty then .ok acc.reverse else .error (.trailingLines cursor total)
  | .keep n :: ops, cursor, rest, acc =>
    if cursor + n > total then .error (.sourceTooShort (cursor + n) total)
    else replay total ops (cursor + n) (rest.drop n) ((rest.take n).reverse ++ acc)
  | .delete n :: ops, cursor, rest, acc =>
    if cursor + n > total then .error (.sourceTooShort (cursor + n) total)
    else replay total ops (cursor + n) (rest.drop n) acc
  | .insert ls :: ops, cursor, rest, acc => replay total ops cursor rest (ls.reverse ++ acc)

/-- The text that the diff makes of `source`. -/
def apply (d : Diff) (source : String) : Except Error String :=
  let ls := Text.lines source
  (replay ls.length d.ops 0 ls []).map String.join

/-! ## Counting -/

/-- The diff only copies. -/
def isIdentity (d : Diff) : Bool :=
  d.ops.all fun
    | .keep _ => true
    | _ => false

/-- How many source lines a step deletes. -/
def Op.deleted : Op → Nat
  | .delete n => n
  | _ => 0

/-- How many lines a step inserts. -/
def Op.inserted : Op → Nat
  | .insert ls => ls.length
  | _ => 0

/-- How many source lines are gone. -/
def deletedLines (d : Diff) : Nat := (d.ops.map Op.deleted).foldr (· + ·) 0

/-- How many lines are new. -/
def insertedLines (d : Diff) : Nat := (d.ops.map Op.inserted).foldr (· + ·) 0

/-- Sums the larger of the deletions and the insertions of each stretch between kept lines. -/
def countChanged : List Op → Nat → Nat → Nat
  | [], deleted, inserted => max deleted inserted
  | .keep _ :: ops, deleted, inserted => max deleted inserted + countChanged ops 0 0
  | .delete n :: ops, deleted, inserted => countChanged ops (deleted + n) inserted
  | .insert ls :: ops, deleted, inserted => countChanged ops deleted (inserted + ls.length)

/-- How many lines changed; a line that only changed counts once. -/
def changedLines (d : Diff) : Nat := countChanged d.ops 0 0

end Diff
end Mend
