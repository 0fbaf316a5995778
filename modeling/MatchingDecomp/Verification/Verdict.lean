import MatchingDecomp.Verification.Category

/-!
# Verdicts

A comparison is what a verifier measures; a verdict is what is recorded. Scores above the threshold
count as a match, the threshold itself does not. The two must agree: discrepancies keep a score
below the threshold, and a verdict that is no match names at least one discrepancy.
-/

namespace MatchingDecomp

/-- What a verifier measures. -/
structure Comparison where
  /-- The score in percent; more than a hundred counts as a hundred. -/
  score : Nat
  discrepancies : List String := []
  detailedDiff : Option String := none
  deriving DecidableEq, Repr

/-- The comparison of objects that are equal byte for byte. -/
def Comparison.identical : Comparison :=
  { score := 100 }

/-- How closely a compiled candidate matches the fragment. -/
structure Verdict where
  success : Bool
  matchPercentage : Nat
  discrepancies : List String
  detailedDiff : Option String
  deriving DecidableEq, Repr

/-- A match scores more than this. -/
def matchThreshold : Nat := 90

/-- Whether a score counts as a match. -/
def isMatch (score : Nat) : Bool :=
  matchThreshold < score

namespace Verdict

/-- The verdict on a candidate that did not compile. -/
def compilationFailed : Verdict where
  success := false
  matchPercentage := 0
  discrepancies := [Category.compilationFailed]
  detailedDiff := some "compilation errors prevent verification"

/-- Whether the candidate matches without any difference. -/
def isExact (v : Verdict) : Bool :=
  v.matchPercentage == 100 && v.discrepancies.isEmpty

/-- The score of a comparison, at most a hundred, and below the threshold when there are
discrepancies. -/
def scoreOf (c : Comparison) : Nat :=
  let score := min c.score 100
  if !c.discrepancies.isEmpty && matchThreshold ≤ score then matchThreshold - 1 else score

/-- The verdict on a comparison. -/
def ofComparison (c : Comparison) : Verdict :=
  let score := scoreOf c
  let success := isMatch score
  { success
    matchPercentage := score
    discrepancies :=
      if !success && c.discrepancies.isEmpty then [Category.unclassified] else c.discrepancies
    detailedDiff := c.detailedDiff }

end Verdict

end MatchingDecomp
