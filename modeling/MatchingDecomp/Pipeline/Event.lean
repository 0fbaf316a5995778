import MatchingDecomp.Pipeline.Failure
import MatchingDecomp.Run.Basic

/-!
# Progress events

What is announced about a run: an event for each stage it enters, and one at its end.
-/

namespace MatchingDecomp

/-- Where a run is when an event is announced. -/
inductive Milestone where
  | generate
  | compile
  | verify
  | complete
  | failed
  deriving DecidableEq, Repr

/-- The name of a milestone. -/
def Milestone.label : Milestone → String
  | .generate => "generate"
  | .compile => "compile"
  | .verify => "verify"
  | .complete => "complete"
  | .failed => "failed"

/-- A progress event. -/
structure Event where
  runId : RunId
  milestone : Milestone
  percent : Nat
  message : String
  deriving DecidableEq, Repr

namespace Event

/-- The event of a run that enters a stage. -/
def entered (id : RunId) : Stage → Event
  | .generate => ⟨id, .generate, 0, "Generating C code..."⟩
  | .compile => ⟨id, .compile, 30, "Compiling C code..."⟩
  | .verify => ⟨id, .verify, 60, "Verifying decompilation..."⟩

/-- The event of a run that is over. -/
def ended (id : RunId) : Except PipelineError Run → Event
  | .ok run => ⟨id, .complete, 100, "Decompilation " ++ run.status.label⟩
  | .error e =>
    ⟨id, .failed, 0,
      if e.isCancelled then "Cancelled before " ++ e.stage.label else e.message⟩

end Event

/-- How many events wait for a subscriber before the oldest is lost. -/
def eventBuffer : Nat := 256

/-- The events that a subscriber finds when it looks: how many were lost, and the rest. -/
def buffered (events : List Event) : Nat × List Event :=
  let lost := events.length - eventBuffer
  (lost, events.drop lost)

end MatchingDecomp
