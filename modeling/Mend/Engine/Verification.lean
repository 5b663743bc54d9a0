import Mend.Engine.Error
import Mend.Ledger.Outcome

/-!
# Verification

After a cycle has changed the workspace, the analyzer looks again and the build runs. The verdict
compares the number of issues with the number before; more issues, or a failing build, is a failure.
-/

namespace Mend

/-- The verdict on a cycle. It is a full success only if more than the part `marginal` of the issues is
gone. -/
def Verdict.judge (before after : Count) (passed : Bool) (marginal : Float) : Verdict :=
  if !passed || before < after then .failure
  else if after < before &&
      marginal < (before - after).toNat.toFloat / before.toNat.toFloat then .success
  else .partly

/-- What verifying a cycle came to. -/
structure Verification where
  before : Count
  after : Count
  build : Build
  verdict : Verdict
  deriving DecidableEq, Repr, Inhabited

namespace Verification

/-- The verification of a count of issues and a build. -/
def of (before after : Count) (build : Build) (marginal : Float) : Verification :=
  ⟨before, after, build, .judge before after build.passed marginal⟩

/-- Why the cycle failed, if it did. -/
def failure? (v : Verification) : Option Engine.Error :=
  if v.verdict ≠ .failure then none
  else if !v.build.passed then some (.buildFailed v.build.exitCode)
  else some (.regression v.before v.after)

end Verification
end Mend
