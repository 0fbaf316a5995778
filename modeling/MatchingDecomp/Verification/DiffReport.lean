import MatchingDecomp.Text.Lines
import MatchingDecomp.Text.Lower
import MatchingDecomp.Text.Search
import MatchingDecomp.Verification.Category

/-!
# Reading a comparison report

What the free text of a comparison tool says: which kinds of discrepancy it mentions, and whether it
calls the objects identical. Both are read line by line and in any case of letters.
-/

namespace MatchingDecomp.DiffReport

open Text

/-- The categories that a line mentions, in the order of the keywords. -/
def lineCategories (line : List Char) : List String :=
  (Category.keywords.filter fun k => occursIn k.1.toList (lower line)).map Prod.snd

/-- A list with one more element at its end, unless it is there already. -/
def insertNew (known : List String) (category : String) : List String :=
  if known.contains category then known else known ++ [category]

/-- The categories that a report mentions, each once, in the order of their first mention. -/
def classify (report : String) : List String :=
  ((lines report.toList).flatMap lineCategories).foldl insertNew []

/-- The ways to say that objects are not identical. -/
def negations : List String :=
  ["not identical", "non-identical", "nonidentical", "isn't identical", "aren't identical"]

/-- Whether a line calls the objects identical. -/
def lineSaysIdentical (line : List Char) : Bool :=
  let low := lower line
  occursIn "identical".toList low && !negations.any fun n => occursIn n.toList low

/-- Whether a report calls the objects identical. -/
def saysIdentical (report : String) : Bool :=
  (lines report.toList).any lineSaysIdentical

end MatchingDecomp.DiffReport
