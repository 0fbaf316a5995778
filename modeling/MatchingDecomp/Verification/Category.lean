/-!
# Kinds of discrepancy

The names under which a mismatch is recorded.
-/

namespace MatchingDecomp.Category

/-- The layout of the stack frame differs. -/
def stackFrame : String := "stack frame"

/-- The same operations use different registers. -/
def registerAllocation : String := "register allocation"

/-- The same instructions stand in a different order. -/
def instructionOrdering : String := "instruction ordering"

/-- Nothing was compared, because nothing compiled. -/
def compilationFailed : String := "compilation failed"

/-- There is no function body to compare. -/
def invalidSource : String := "invalid C code structure"

/-- There is a mismatch, and nobody says of what kind. -/
def unclassified : String := "unclassified difference"

/-- The words by which a report mentions a category. -/
def keywords : List (String × String) :=
  [("stack", stackFrame), ("frame", stackFrame),
    ("register", registerAllocation), ("regalloc", registerAllocation),
    ("order", instructionOrdering), ("instruction", instructionOrdering)]

end MatchingDecomp.Category
