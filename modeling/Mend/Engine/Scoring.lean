import Mend.Issue

/-!
# Scores

The confidence that a recipe repairs an issue is a number between zero and one, computed from a fixed
set of features. `Weights.confidence` puts a weighted sum of them through the logistic function. The
score of a repair is the trust in its recipe times the confidence.
-/

namespace Mend

/-- What is known of an issue and a recipe for it. -/
structure Features where
  issueCategory : String
  recipeCategory : String
  severity : Severity
  fileSize : UInt64
  /-- The part of the applications of recipes of this category that succeeded, if there were any. -/
  successRate : Option Float
  attempts : Count

/-- Reads features from a document. -/
def Features.ofJson? (j : Json) : Option Features := do
  match ← Json.slots ["issue_category", "recipe_category", "severity", "file_size_bytes",
      "category_success_rate", "recipe_attempts"] false j with
  | [issue, recipe, severity, size, rate, attempts] =>
    some ⟨← issue.required Json.text?, ← recipe.required Json.text?, ← severity.required Severity.ofJson?,
      UInt64.ofNat (← size.required (Json.nat? 64)), ← rate.optional Json.float?,
      ← attempts.required Json.count?⟩
  | _ => none

/-- The nearest number between zero and one; zero for what is no number. -/
def clampProbability (x : Float) : Float :=
  if x.isNaN then 0 else if x < 0 then 0 else if 1 < x then 1 else x

/-- The weights of the features. -/
structure Weights where
  bias : Float := 0.5
  categoryMatch : Float := 1
  severity : Float := 0.5
  successRate : Float := 2
  largeFilePenalty : Float := 0.8
  /-- A file of this size gets the full penalty. -/
  largeFile : UInt64 := 204800

/-- The confidence by weights. Without any history the success rate counts as a half. -/
def Weights.confidence (w : Weights) (f : Features) : Float :=
  let matched := if f.issueCategory = f.recipeCategory then 1.0 else 0.0
  let rate := match f.successRate with
    | some r => clampProbability r
    | none => 0.5
  let part := f.fileSize.toFloat / (if w.largeFile = 0 then 1 else w.largeFile).toFloat
  let size := if 1 < part then 1 else part
  let z := w.bias + w.categoryMatch * matched + w.severity * f.severity.normalized -
    w.largeFilePenalty * size + w.successRate * (rate - 0.5)
  clampProbability (1 / (1 + Float.exp (-z)))

/-- How confidence comes from features. -/
inductive Scorer where
  | weighted (w : Weights)
  /-- The same confidence for all. -/
  | fixed (confidence : Float)

instance : Inhabited Scorer := ⟨.weighted {}⟩

/-- The confidence that a scorer gives. -/
def Scorer.confidence (s : Scorer) (f : Features) : Float :=
  match s with
  | .weighted w => w.confidence f
  | .fixed c => clampProbability c

/-- Trust times confidence. -/
structure Score where
  value : Float

namespace Score

instance : Inhabited Score := ⟨⟨0⟩⟩
instance : LT Score := ⟨fun a b => a.value < b.value⟩
instance : DecidableLT Score := fun a b => inferInstanceAs (Decidable (a.value < b.value))

/-- A number that grows with a floating-point number; the negative zero is below the positive one. -/
def key (x : Float) : Int :=
  let bits := x.toBits.toNat
  if bits < Nat.pow 2 63 then bits else Int.ofNat (Nat.pow 2 63 - 1) - bits

instance : Ord Score := ⟨fun a b => compare (key a.value) (key b.value)⟩

end Score
end Mend
