import Mend.Engine.Workspace

/-!
# Learning

After a cycle every recipe that was applied gets an entry in the history. Its trust moves only if the
outcome says something about the recipe itself. The history is written first, so that a failure of
the trust store loses no entry.
-/

namespace Mend

/-- What a recipe's part in a cycle came to. -/
structure Lesson where
  recipe : String
  outcome : Outcome
  /-- The outcome moves the trust in the recipe. -/
  scored : Bool
  deriving DecidableEq, Repr, Inhabited

namespace Lesson

/-- The history entry of a lesson. -/
def entry (cycle : CycleId) (delta : History.Delta) (now : Time) (l : Lesson) : History.Entry :=
  ⟨cycle, l.recipe, l.outcome, delta, now⟩

/-- Moves the trust in a recipe. -/
def score (rate : Float) (now : Time) (l : Lesson) : Workspace.Step (String × Trust.Record) := do
  return (l.recipe, ← Workspace.onTrust (Trust.recordOutcome l.recipe l.outcome rate now))

/-- Records the lessons of a cycle and tells the records that moved. -/
def learn (cycle : CycleId) (lessons : List Lesson) (delta : History.Delta) (rate : Float) (now : Time) :
    Workspace.Step (List (String × Trust.Record)) := do
  Workspace.onHistory (History.append (lessons.map (entry cycle delta now)))
  (lessons.filter Lesson.scored).mapM (score rate now)

end Lesson
end Mend
