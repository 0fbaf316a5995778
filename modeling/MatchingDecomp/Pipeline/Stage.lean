/-!
# Stages

The three stages that every run passes through, in this order.
-/

namespace MatchingDecomp

/-- A stage of a run. -/
inductive Stage where
  | generate
  | compile
  | verify
  deriving DecidableEq, Repr

/-- The name of a stage. -/
def Stage.label : Stage → String
  | .generate => "generate"
  | .compile => "compile"
  | .verify => "verify"

end MatchingDecomp
