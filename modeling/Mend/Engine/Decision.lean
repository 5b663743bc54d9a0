import Mend.Config.Basic
import Mend.Engine.Budget
import Mend.Engine.Scoring
import Mend.Ledger.Trust
import Mend.Recipe.Registry

/-!
# Decisions

Every eligible issue is paired with each recipe for it. The pairs with a sufficient score are ranked,
and from the best on those are selected that neither conflict with one selected before nor break the
budget. The order is total up to pairs that are alike in everything that it looks at, so that equal
input gives an equal decision.
-/

namespace Mend

/-- An issue and the recipe that is to repair it. -/
structure Fix (σ : Type) where
  issue : Issue
  recipe : String
  score : σ
  /-- The lines of the issue's file that the recipe may touch. -/
  span : Span
  /-- How many lines the recipe is expected to change. -/
  estimate : Count
  deriving DecidableEq, Inhabited

namespace Fix

variable {σ : Type}

/-- Both cannot be in one batch: they are for the same issue, or may touch the same line. -/
def conflicts (a b : Fix σ) : Bool :=
  (a.issue.id == b.issue.id && a.issue.file = b.issue.file) ||
    (a.issue.file = b.issue.file && a.span.overlaps b.span)

/-- The order of selection: the higher score first, then the more severe issue, then by recipe, issue,
file and line. -/
def rank [Ord σ] (a b : Fix σ) : Ordering :=
  (compare b.score a.score).then <|
    (compare b.issue.severity a.issue.severity).then <|
      (compare a.recipe b.recipe).then <|
        (compare a.issue.id b.issue.id).then <|
          (compare a.issue.file b.issue.file).then (compare a.issue.line b.issue.line)

/-- Not after the other in the order of selection. -/
def before [Ord σ] (a b : Fix σ) : Bool := a.rank b != .gt

end Fix

/-- What is to be done, and what was passed over. -/
structure Decision (σ : Type) where
  /-- The best first. -/
  selected : List (Fix σ)
  /-- The number of eligible issues. -/
  eligible : Nat
  /-- The number of pairs that were scored. -/
  considered : Nat
  belowThreshold : Nat
  conflicts : Nat
  overBudget : Nat
  deriving DecidableEq

namespace Decision

variable {σ : Type}

/-- The texts in their order, each of them once. -/
def distinct (xs : List String) : List String :=
  let sorted := xs.mergeSort fun a b => decide (a ≤ b)
  sorted.foldr (fun x rest => if rest.head? = some x then rest else x :: rest) []

/-- The recipes of the selected pairs. -/
def recipes (d : Decision σ) : List String := distinct (d.selected.map Fix.recipe)

/-- The enabled recipes for an issue. A hint that names a recipe leaves no other. -/
def candidates (g : Registry) (disabled : String → Bool) (i : Issue) : List Recipe :=
  let fitting (rs : List Recipe) := rs.filter fun r => r.appliesTo i && !disabled r.id
  match i.hint.bind (Registry.find? g) with
  | some r => fitting [r]
  | none => fitting (Registry.recipes g)

/-- All pairs of eligible issues and enabled recipes for them. -/
def pairs (g : Registry) (disabled : String → Bool) (score : Recipe → Issue → σ) (issues : List Issue) :
    List (Fix σ) :=
  (issues.filter Issue.eligible).flatMap fun i =>
    (candidates g disabled i).map fun r => ⟨i, r.id, score r i, r.span i, r.estimate⟩

/-- What has been selected so far, and how many pairs were passed over. -/
structure Progress (σ : Type) where
  selected : List (Fix σ)
  guard : Budget.Guard
  conflicts : Nat
  overBudget : Nat

/-- Takes one more pair into account. -/
def Progress.step (p : Progress σ) (f : Fix σ) : Progress σ :=
  if p.selected.any fun s => s.conflicts f then { p with conflicts := p.conflicts + 1 }
  else match p.guard.accept f.issue.file f.estimate with
    | .error _ => { p with overBudget := p.overBudget + 1 }
    | .ok guard => { p with selected := p.selected ++ [f], guard := guard }

/-- Selects from ranked pairs. -/
def select (limits : Budget.Limits) (ranked : List (Fix σ)) : Progress σ :=
  ranked.foldl Progress.step ⟨[], .start limits, 0, 0⟩

/-- Decides what is to be done about issues. -/
def decide [LT σ] [DecidableLT σ] [Ord σ] (g : Registry) (disabled : String → Bool)
    (score : Recipe → Issue → σ) (minScore : σ) (limits : Budget.Limits) (issues : List Issue) :
    Decision σ :=
  let all := pairs g disabled score issues
  let (below, sufficient) := all.partition fun f => f.score < minScore
  let p := select limits (sufficient.mergeSort Fix.before)
  ⟨p.selected, (issues.filter Issue.eligible).length, all.length, below.length, p.conflicts,
    p.overBudget⟩

/-- The pairs that fit a budget, taken in their order. -/
def withinBudget (limits : Budget.Limits) (fixes : List (Fix σ)) : List (Fix σ) :=
  let step (acc : List (Fix σ) × Budget.Guard) (f : Fix σ) :=
    match acc.2.accept f.issue.file f.estimate with
    | .error _ => acc
    | .ok guard => (acc.1 ++ [f], guard)
  (fixes.foldl step ([], .start limits)).1

/-! ## Scoring by trust -/

/-- The part of the applications of recipes of a category that succeeded, if there were any. -/
def categoryRate (g : Registry) (trust : Trust.Table) (category : String) : Option Float :=
  let records := ((Registry.recipes g).filter fun r => r.category == category).filterMap fun r =>
    Ordered.get? trust r.id
  let successes := (records.map Trust.Record.successes).foldl Count.add 0
  let attempts := (records.map Trust.Record.attempts).foldl Count.add 0
  if attempts = 0 then none else some (successes.toNat.toFloat / attempts.toNat.toFloat)

/-- The trust in a recipe times the confidence that it repairs an issue. -/
def scoreOf (g : Registry) (trust : Trust.Table) (scorer : Scorer) (sizes : RelPath → UInt64)
    (r : Recipe) (i : Issue) : Score :=
  let record := Trust.Table.record trust r.id
  let confidence := scorer.confidence
    ⟨i.category, r.category, i.severity, sizes i.file, categoryRate g trust r.category, record.attempts⟩
  ⟨clampProbability record.score * clampProbability confidence⟩

/-- The limits that a configuration sets. -/
def limitsOf (c : Config) : Budget.Limits := ⟨c.maxFiles, c.maxLines⟩

/-- A person has disabled the recipe. -/
def isDisabled (trust : Trust.Table) (id : String) : Bool :=
  match Ordered.get? trust id with
  | some r => r.disabled
  | none => false

/-- Decides by the trust in the recipes. -/
def byTrust (g : Registry) (c : Config) (trust : Trust.Table) (scorer : Scorer)
    (sizes : RelPath → UInt64) (issues : List Issue) : Decision Score :=
  decide g (isDisabled trust) (scoreOf g trust scorer sizes) ⟨c.minScore⟩ (limitsOf c) issues

end Decision
end Mend
