import MatchingDecomp.Binary.Single
import MatchingDecomp.Fragment.Basic
import MatchingDecomp.State.Part
import MatchingDecomp.Time.Span

/-!
# Generating candidates

A generator proposes C source for a fragment. Whatever the generator is, `Generator.generate` keeps
the same contract: a blank fragment is refused before the generator is asked, blank source is an
error, and the confidence lies between zero and one.
-/

namespace MatchingDecomp

/-- Proposed C source and the confidence in it. -/
structure Candidate where
  source : String
  confidence : Single
  deriving DecidableEq, Repr

/-- The candidate with its confidence moved between zero and one. -/
def Candidate.clamped (c : Candidate) : Candidate :=
  { c with confidence := c.confidence.clampUnit }

/-- Why no candidate was generated. -/
inductive GenerationError where
  | emptyFragment
  | emptyOutput
  | unreachable (detail : String)
  | timedOut (after : Span)
  | backend (detail : String)
  deriving DecidableEq, Repr

/-- The text of a generation error. -/
def GenerationError.message : GenerationError → String
  | .emptyFragment => "fragment is empty"
  | .emptyOutput => "backend returned empty source"
  | .unreachable detail => "generation backend unreachable: " ++ detail
  | .timedOut after => "generation backend timed out after " ++ after.text
  | .backend detail => "generation backend error: " ++ detail

/-- A generator that works on a state `σ`. -/
structure Generator (σ : Type) where
  name : String
  /-- Propose a candidate for a fragment that is not blank. -/
  produce : Fragment → StateM σ (Except GenerationError Candidate)
  /-- Rework source in the light of the discrepancies that were found. -/
  refine : String → List String → String := fun source _ => source

namespace Generator

variable {σ τ : Type}

/-- Generate a candidate for a fragment. -/
def generate (g : Generator σ) (fragment : Fragment) :
    StateM σ (Except GenerationError Candidate) := do
  if fragment.isBlank then return .error .emptyFragment
  match ← g.produce fragment with
  | .error e => return .error e
  | .ok candidate =>
    if Text.isBlankText candidate.source then return .error .emptyOutput
    else return .ok candidate.clamped

/-- The same generator on a larger state. -/
def lift (p : Part τ σ) (g : Generator σ) : Generator τ where
  name := g.name
  produce := fun fragment => p.lift (g.produce fragment)
  refine := g.refine

end Generator

end MatchingDecomp
