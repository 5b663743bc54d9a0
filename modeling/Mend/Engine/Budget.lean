import Mend.Count
import Mend.Ordered
import Mend.Path

/-!
# Budgets

A cycle may touch so many files, and change so many lines in each of them. Repairs are admitted one
by one; one that would break a limit is refused and leaves the budget as it is.
-/

namespace Mend.Budget

/-- What a cycle may change. -/
structure Limits where
  maxFiles : Nat
  /-- The lines of one file. -/
  maxLines : Count
  deriving DecidableEq, Repr, Inhabited

/-- The limit that a repair would break. -/
inductive Refusal where
  | tooManyFiles (limit : Nat)
  | tooManyLines (file : RelPath) (total limit : Count)
  deriving DecidableEq

/-- The lines that have been admitted, by files. -/
structure Guard where
  limits : Limits
  used : Ordered RelPath Count
  deriving DecidableEq

namespace Guard

/-- A budget of which nothing is used. -/
def start (limits : Limits) : Guard := ⟨limits, []⟩

/-- The lines that are admitted for a file. -/
def linesUsed (g : Guard) (file : RelPath) : Count := (Ordered.get? g.used file).getD 0

/-- The number of files for which lines are admitted. -/
def filesUsed (g : Guard) : Nat := (Ordered.keys g.used).length

/-- The limit that so many lines more would break, if there is one. -/
def refusal? (g : Guard) (file : RelPath) (lines : Count) : Option Refusal :=
  if !Ordered.contains g.used file && g.limits.maxFiles ≤ g.filesUsed then
    some (.tooManyFiles g.limits.maxFiles)
  else
    let total := Count.add (g.linesUsed file) lines
    if g.limits.maxLines < total then some (.tooManyLines file total g.limits.maxLines) else none

/-- The budget after lines were admitted. -/
def accept (g : Guard) (file : RelPath) (lines : Count) : Except Refusal Guard :=
  match g.refusal? file lines with
  | some r => .error r
  | none => .ok { g with used := Ordered.insert g.used file (g.linesUsed file + lines) }

end Guard
end Mend.Budget
