import MatchingDecomp.Pipeline.Stage
import MatchingDecomp.Run.Basic

/-!
# States of a run

A run moves strictly forward: idle, then through the three stages, then completed. From any stage it
can fail, and it can also fail at the entry of the next stage, when it was cancelled before.
-/

namespace MatchingDecomp

/-- Where a run is. -/
inductive RunState where
  | idle
  | generating
  | compiling
  | verifying
  | completed (status : RunStatus)
  | failed (stage : Stage)
  deriving DecidableEq, Repr

namespace RunState

/-- The state of a run in a stage. -/
def working : Stage → RunState
  | .generate => .generating
  | .compile => .compiling
  | .verify => .verifying

/-- The stage that a run is in. -/
def stage? : RunState → Option Stage
  | .generating => some .generate
  | .compiling => some .compile
  | .verifying => some .verify
  | _ => none

/-- The stage that a run comes to next. -/
def nextStage? : RunState → Option Stage
  | .idle => some .generate
  | .generating => some .compile
  | .compiling => some .verify
  | _ => none

/-- Whether a run is over. -/
def isTerminal : RunState → Bool
  | .completed _ => true
  | .failed _ => true
  | _ => false

/-- Whether a run may go from one state to another. -/
def canBecome (current next : RunState) : Bool :=
  match current, next with
  | .idle, .generating => true
  | .generating, .compiling => true
  | .compiling, .verifying => true
  | .verifying, .completed _ => true
  | current, .failed stage => current.stage? == some stage || current.nextStage? == some stage
  | _, _ => false

/-- The text of a state. -/
def text : RunState → String
  | .idle => "idle"
  | .generating => "generating"
  | .compiling => "compiling"
  | .verifying => "verifying"
  | .completed status => "completed (" ++ status.label ++ ")"
  | .failed stage => "failed during " ++ stage.label

end RunState

end MatchingDecomp
