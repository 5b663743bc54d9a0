import Mend.Json.Stored

/-!
# Phases of a cycle

A cycle observes, decides, acts, verifies and learns, in this order. It is done early if there is
nothing to do, and rolled back if acting or verifying fails. `Walk` tells the phases that a cycle
has entered; it only ever takes an allowed step.
-/

namespace Mend

/-- A phase of a cycle. -/
inductive Phase where
  | observe
  | decide
  | act
  | verify
  | learn
  | done
  | rolledBack
  deriving DecidableEq, Repr, Inhabited

namespace Phase

/-- All phases. -/
def all : List Phase := [.observe, .decide, .act, .verify, .learn, .done, .rolledBack]

/-- The word for a phase. -/
def word : Phase → String
  | .observe => "observe"
  | .decide => "decide"
  | .act => "act"
  | .verify => "verify"
  | .learn => "learn"
  | .done => "done"
  | .rolledBack => "rolled_back"

instance : ToString Phase := ⟨word⟩

/-- The stored name. -/
def name : Phase → String
  | .observe => "Observe"
  | .decide => "Decide"
  | .act => "Act"
  | .verify => "Verify"
  | .learn => "Learn"
  | .done => "Done"
  | .rolledBack => "RolledBack"

/-- Reads a phase from a document. -/
def ofJson? : Json → Option Phase := Json.name? fun s => all.find? fun p => p.name == s

instance : Stored Phase := ⟨fun p => .str p.name, ofJson?⟩

/-- No phase follows. -/
def isTerminal (p : Phase) : Bool := p = .done || p = .rolledBack

/-- The phases that may follow. -/
def next : Phase → List Phase
  | .observe => [.decide]
  | .decide => [.act, .done]
  | .act => [.verify, .rolledBack]
  | .verify => [.learn, .rolledBack]
  | .learn => [.done]
  | .done => []
  | .rolledBack => []

/-- One phase may follow the other. -/
def leadsTo (p q : Phase) : Bool := p.next.contains q

end Phase

/-- The phases that a cycle has entered. -/
structure Walk where
  current : Phase
  visited : List Phase
  deriving DecidableEq, Repr, Inhabited

namespace Walk

/-- A cycle that has just begun. -/
def start : Walk := ⟨.observe, [.observe]⟩

/-- The walk with one phase more, if it may follow. -/
def advance? (w : Walk) (p : Phase) : Option Walk :=
  if w.current.leadsTo p then some ⟨p, w.visited ++ [p]⟩ else none

end Walk
end Mend
