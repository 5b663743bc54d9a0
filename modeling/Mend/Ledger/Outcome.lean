import Mend.Json.Stored

/-!
# Verdicts and outcomes

A cycle ends with a verdict. Every verdict but the one of a cycle that did nothing is also an outcome
for each recipe that was applied.
-/

namespace Mend

/-- How the application of a recipe went. -/
inductive Outcome where
  | success
  | partly
  | failure
  deriving DecidableEq, Repr, Inhabited

namespace Outcome

/-- The stored name. -/
def name : Outcome → String
  | .success => "success"
  | .partly => "partial"
  | .failure => "failure"

/-- Reads a stored name. -/
def ofName? (s : String) : Option Outcome :=
  if s == "success" then some .success
  else if s == "partial" then some .partly
  else if s == "failure" then some .failure
  else none

/-- Reads an outcome from a document. -/
def ofJson? : Json → Option Outcome := Json.name? ofName?

instance : Stored Outcome := ⟨fun o => .str o.name, ofJson?⟩

/-- The score that an outcome pulls towards, on a scale of halves. -/
def halves : Outcome → Nat
  | .success => 2
  | .partly => 1
  | .failure => 0

/-- The score that an outcome pulls towards. -/
def signal (o : Outcome) : Float := o.halves.toFloat / 2

end Outcome

/-- How a cycle ended. -/
inductive Verdict where
  | success
  | partly
  | failure
  /-- Nothing was worth doing, and nothing was touched. -/
  | noop
  deriving DecidableEq, Repr, Inhabited

namespace Verdict

/-- The stored name. -/
def name : Verdict → String
  | .success => "success"
  | .partly => "partial"
  | .failure => "failure"
  | .noop => "noop"

/-- Reads a stored name. -/
def ofName? (s : String) : Option Verdict :=
  if s == "success" then some .success
  else if s == "partial" then some .partly
  else if s == "failure" then some .failure
  else if s == "noop" then some .noop
  else none

/-- Reads a verdict from a document. -/
def ofJson? : Json → Option Verdict := Json.name? ofName?

instance : Stored Verdict := ⟨fun v => .str v.name, ofJson?⟩

/-- The outcome for the recipes that were applied. -/
def outcome? : Verdict → Option Outcome
  | .success => some .success
  | .partly => some .partly
  | .failure => some .failure
  | .noop => none

instance : ToString Verdict := ⟨name⟩

end Verdict
end Mend
