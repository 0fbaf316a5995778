import MatchingDecomp.Compilation.Basic
import MatchingDecomp.Generation.Basic
import MatchingDecomp.Pipeline.Stage
import MatchingDecomp.Verification.Basic

/-!
# Failures of a run

A run that reaches no verdict fails in one of its stages, for a reason of that stage's own or
because it was cancelled before the stage began.
-/

namespace MatchingDecomp

/-- Why a stage failed. -/
inductive StageFailure where
  | generation (e : GenerationError)
  | compiler (e : CompilerError)
  | verification (e : VerificationError)
  | cancelled
  deriving DecidableEq, Repr

/-- The text of a reason. -/
def StageFailure.message : StageFailure → String
  | .generation e => e.message
  | .compiler e => e.message
  | .verification e => e.message
  | .cancelled => "run cancelled"

/-- A run that failed. -/
structure PipelineError where
  stage : Stage
  cause : StageFailure
  deriving DecidableEq, Repr

namespace PipelineError

/-- The failure of a run that was cancelled before a stage. -/
def cancelledBefore (stage : Stage) : PipelineError :=
  ⟨stage, .cancelled⟩

/-- Whether the run was cancelled. -/
def isCancelled (e : PipelineError) : Bool :=
  e.cause = .cancelled

/-- The text of a failure. -/
def message (e : PipelineError) : String :=
  "pipeline failed during " ++ e.stage.label ++ " stage: " ++ e.cause.message

end PipelineError

end MatchingDecomp
