import MatchingDecomp.Compilation.Outcome
import MatchingDecomp.Fragment.Basic
import MatchingDecomp.Host.OsError
import MatchingDecomp.State.Part
import MatchingDecomp.Time.Span
import MatchingDecomp.Verification.Verdict

/-!
# Verifying candidates

A verifier compares a compiled candidate with the fragment it came from. Whatever the verifier is,
`Verifier.verify` does not ask it about a candidate that did not compile, and turns every comparison
into a verdict in the same way.
-/

namespace MatchingDecomp

/-- Why a verifier gave no comparison. -/
inductive VerificationError where
  | unavailable (detail : String)
  | timedOut (after : Span)
  | missingReference (identifier : String)
  | missingArtifact
  | backend (detail : String)
  | io (cause : OsError)
  deriving DecidableEq, Repr

/-- The text of a verification error. -/
def VerificationError.message : VerificationError → String
  | .unavailable detail => "comparison backend unavailable: " ++ detail
  | .timedOut after => "comparison backend timed out after " ++ after.text
  | .missingReference identifier => "no reference object for `" ++ identifier ++ "`"
  | .missingArtifact => "compilation produced no artifact"
  | .backend detail => "comparison backend error: " ++ detail
  | .io cause => "verification I/O error: " ++ cause.message

/-- A verifier that works on a state `σ`. -/
structure Verifier (σ : Type) where
  name : String
  /-- Compare a compiled candidate, given by its source and its object, with the fragment. -/
  compare : Fragment → String → Option Artifact → StateM σ (Except VerificationError Comparison)

namespace Verifier

variable {σ τ : Type}

/-- Give the verdict on an outcome. -/
def verify (v : Verifier σ) (fragment : Fragment) (source : String) (outcome : Outcome) :
    StateM σ (Except VerificationError Verdict) := do
  if !outcome.success then return .ok .compilationFailed
  match ← v.compare fragment source outcome.artifact with
  | .ok comparison => return .ok (.ofComparison comparison)
  | .error e => return .error e

/-- The same verifier on a larger state. -/
def lift (p : Part τ σ) (v : Verifier σ) : Verifier τ where
  name := v.name
  compare := fun fragment source artifact => p.lift (v.compare fragment source artifact)

end Verifier

end MatchingDecomp
