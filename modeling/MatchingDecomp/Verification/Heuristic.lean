import MatchingDecomp.Verification.Basic

/-!
# The heuristic verifier

A verifier that looks at no object. Its score says whether the candidate looks like the right
function: 85 when the fragment has a name of its own, 60 when it has not, 10 when there is no
function body at all. Known results can be pinned to a name.
-/

namespace MatchingDecomp

/-- The scores that are pinned to names, the latest pin first. -/
structure Heuristic where
  pins : List (String × Nat) := []
  deriving DecidableEq, Repr

namespace Heuristic

/-- Pin a score, at most a hundred, to a name. -/
def withScore (h : Heuristic) (identifier : String) (score : Nat) : Heuristic :=
  ⟨(identifier, min score 100) :: h.pins⟩

/-- The score of a fragment. -/
def score (h : Heuristic) (fragment : Fragment) : Nat :=
  (h.pins.lookup fragment.identifier).getD (if fragment.isNamed then 85 else 60)

/-- The difference that is shown for every fragment that does not match. -/
def sampleDiff (identifier : String) : String :=
  "--- original.o (" ++ identifier ++ ")\n" ++
  "+++ decompiled.o (" ++ identifier ++ ")\n" ++
  "@@ -1,5 +1,5 @@\n" ++
  "- 00000000: 9421fff0  stwu r1,-16(r1)\n" ++
  "- 00000004: 7c0802a6  mflr r0\n" ++
  "+ 00000000: 7c0802a6  mflr r0\n" ++
  "+ 00000004: 9421ffe0  stwu r1,-32(r1)\n" ++
  "  00000008: 90010014  stw r0,20(r1)\n" ++
  "  0000000c: 48000001  bl 0x10\n"

/-- Whether a source has a function body. -/
def hasBody (source : String) : Bool :=
  source.toList.contains '{' && source.toList.contains '}'

/-- The comparison of a source with a fragment. -/
def comparison (h : Heuristic) (fragment : Fragment) (source : String) : Comparison :=
  if !hasBody source then
    { score := 10
      discrepancies := [Category.invalidSource]
      detailedDiff := some "Generated C code lacks proper function structure" }
  else if isMatch (h.score fragment) then { score := h.score fragment }
  else
    { score := h.score fragment
      discrepancies :=
        [Category.stackFrame, Category.registerAllocation, Category.instructionOrdering]
      detailedDiff := some (sampleDiff fragment.identifier) }

/-- The heuristic verifier. -/
def verifier (σ : Type) (h : Heuristic) : Verifier σ where
  name := "heuristic"
  compare := fun fragment source _ => pure (.ok (h.comparison fragment source))

end Heuristic

end MatchingDecomp
