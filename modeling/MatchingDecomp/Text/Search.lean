/-!
# Searching a text

Contiguous occurrences of a pattern, and the replacement of the first of them.
-/

namespace MatchingDecomp.Text

/-- Whether `pat` occurs in a text as a contiguous run. -/
def occursIn (pat : List Char) : List Char → Bool
  | [] => pat.isEmpty
  | c :: cs => pat.isPrefixOf (c :: cs) || occursIn pat cs

/-- The text with the first occurrence of `pat` replaced by `new`, or as it is when there is
none. -/
def replaceFirst (pat new : List Char) : List Char → List Char
  | [] => if pat.isEmpty then new else []
  | c :: cs =>
    if pat.isPrefixOf (c :: cs) then new ++ (c :: cs).drop pat.length
    else c :: replaceFirst pat new cs

/-- Whether the string `pat` occurs in the string `s`. -/
def mentions (pat s : String) : Bool :=
  occursIn pat.toList s.toList

end MatchingDecomp.Text
