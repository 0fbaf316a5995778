import MatchingDecomp.Decimal.Digits
import MatchingDecomp.Generation.Basic
import MatchingDecomp.Text.Search
import MatchingDecomp.Verification.Category

/-!
# The skeleton generator

A generator that needs nothing but the fragment: it writes a function of the right name that does
nothing, under a comment that counts the instructions. Refining a skeleton only adds comments: a
note for each kind of mismatch it knows, in front of the first `return 0;`.
-/

namespace MatchingDecomp.Template

open Text

/-- Whether a trimmed line holds an instruction: it is not blank, no label, and neither a comment
nor a directive. -/
def isInstruction (line : List Char) : Bool :=
  !line.isEmpty && line.getLast? != some ':' &&
    line.head? != some '#' && line.head? != some '.' && line.head? != some ';'

/-- The number of instructions in a text. -/
def instructionCount (text : String) : Nat :=
  ((lines text.toList).map trim).countP isInstruction

/-- The skeleton of a fragment. -/
def render (fragment : Fragment) : String :=
  "// Generated C code from assembly\n" ++
  "// " ++ Decimal.text (instructionCount fragment.text) ++ " instructions in original\n" ++
  "#include <stdio.h>\n" ++
  "#include <stdlib.h>\n\n" ++
  "int " ++ fragment.identifier ++ "(void) \x7b\n" ++
  "    return 0;\n" ++
  "\x7d\n"

/-- The confidence in a skeleton: 0.8. -/
def confidence : Single := ⟨0x3F4CCCCD⟩

/-- The line in front of which notes are put. -/
def anchor : String := "    return 0;"

/-- The line that notes a mismatch. -/
def noteLine (note : String) : String :=
  "    /* mismatch: " ++ note ++ " */\n"

/-- The notes that discrepancies ask for. -/
def notes (discrepancies : List String) : List String :=
  (if discrepancies.any (mentions "stack") then [Category.stackFrame] else []) ++
    (if discrepancies.any (mentions "register") then [Category.registerAllocation] else [])

/-- The source with one note in front of the first anchor. -/
def annotate (source note : String) : String :=
  String.ofList (replaceFirst anchor.toList (noteLine note ++ anchor).toList source.toList)

/-- The source with the notes that discrepancies ask for. -/
def refine (source : String) (discrepancies : List String) : String :=
  (notes discrepancies).foldl annotate source

/-- Why a name cannot be the name of a function. -/
def invalidName (name : String) : GenerationError :=
  .backend ("`" ++ name ++ "` is not a valid C function name")

/-- The skeleton, if the fragment has a name that a function can have. -/
def produce (fragment : Fragment) : Except GenerationError Candidate :=
  if isIdentifier fragment.identifier.toList then .ok ⟨render fragment, confidence⟩
  else .error (invalidName fragment.identifier)

/-- The skeleton generator. -/
def generator (σ : Type) : Generator σ where
  name := "template"
  produce := fun fragment => pure (produce fragment)
  refine := refine

end MatchingDecomp.Template
