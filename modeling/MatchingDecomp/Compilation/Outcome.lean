/-!
# Outcomes of a compilation

What a compiler makes of a source: an object or diagnostics. A compilation that fails with
diagnostics is an outcome, not an error.
-/

namespace MatchingDecomp

/-- A compiled object: where it is, the digest of its bytes, and the temporary workspace that has to
be kept as long as the object is needed. -/
structure Artifact where
  path : String
  digest : String
  workspace : Option String := none
  deriving DecidableEq, Repr

/-- What came of a compilation. -/
structure Outcome where
  success : Bool
  errors : List String := []
  warnings : List String := []
  artifact : Option Artifact := none
  deriving DecidableEq, Repr

namespace Outcome

/-- The outcome with an object. -/
def succeeded (artifact : Artifact) (warnings : List String) : Outcome :=
  { success := true, warnings, artifact := some artifact }

/-- The outcome without an object. -/
def failed (errors warnings : List String) : Outcome :=
  { success := false, errors, warnings }

/-- The outcome of a source whose brackets are not balanced. -/
def invalidStructure : Outcome :=
  failed ["invalid structure"] []

end Outcome

end MatchingDecomp
