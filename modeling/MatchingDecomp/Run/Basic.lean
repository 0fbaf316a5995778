import MatchingDecomp.Compilation.Outcome
import MatchingDecomp.Fragment.Basic
import MatchingDecomp.Generation.Basic
import MatchingDecomp.Run.Id
import MatchingDecomp.Verification.Verdict

/-!
# Runs

The record of one fragment that went all the way from text to verdict.
-/

namespace MatchingDecomp

/-- What a run comes to. -/
inductive RunStatus where
  /-- The candidate compiled and matches. -/
  | success
  /-- The candidate compiled and does not match. -/
  | warning
  /-- The candidate did not compile. -/
  | error
  deriving DecidableEq, Repr

namespace RunStatus

/-- The status of an outcome and a verdict on it. -/
def derive (outcome : Outcome) (verdict : Verdict) : RunStatus :=
  if !outcome.success then .error
  else if !verdict.success then .warning
  else .success

/-- The name of a status. -/
def label : RunStatus → String
  | .success => "success"
  | .warning => "warning"
  | .error => "error"

/-- Every status with its name. -/
def labels : List (String × RunStatus) :=
  [("success", .success), ("warning", .warning), ("error", .error)]

end RunStatus

/-- The record of a run. -/
structure Run where
  id : RunId
  fragmentIdentifier : String
  sourceFragmentRef : Option String
  candidateSource : String
  confidence : Single
  status : RunStatus
  matchPercentage : Option Nat
  createdAt : Instant
  discrepancies : Option (List String)
  compileErrors : List String
  compileWarnings : List String
  detailedDiff : Option String
  deriving DecidableEq, Repr

/-- The record of a run that reached a verdict. -/
def Run.assemble (id : RunId) (now : Instant) (fragment : Fragment) (candidate : Candidate)
    (outcome : Outcome) (verdict : Verdict) : Run where
  id := id
  fragmentIdentifier := fragment.identifier
  sourceFragmentRef := fragment.origin
  candidateSource := candidate.source
  confidence := candidate.confidence
  status := .derive outcome verdict
  matchPercentage := some verdict.matchPercentage
  createdAt := now
  discrepancies := some verdict.discrepancies
  compileErrors := outcome.errors
  compileWarnings := outcome.warnings
  detailedDiff := verdict.detailedDiff

end MatchingDecomp
