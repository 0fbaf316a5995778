import MatchingDecomp.Text.Blank

/-!
# Lines

A text is cut at its newlines. One carriage return directly before a newline belongs to the line
ending, so it is dropped with it; a carriage return anywhere else is an ordinary character. A
newline ends a line rather than starting one, so a text that ends in a newline has no empty line
after it.
-/

namespace MatchingDecomp.Text

/-- The lines of a text, without their endings. -/
def lines : List Char → List (List Char)
  | [] => []
  | '\n' :: cs => [] :: lines cs
  | '\r' :: '\n' :: cs => [] :: lines cs
  | c :: cs =>
    match lines cs with
    | [] => [[c]]
    | l :: ls => (c :: l) :: ls

/-- A text made of lines, each with a newline after it. -/
def unlines (ls : List String) : String :=
  String.join (ls.map (· ++ "\n"))

/-- The trimmed lines of a text that are not blank, in order. -/
def contentLines (cs : List Char) : List (List Char) :=
  ((lines cs).map trim).filter (fun l => !l.isEmpty)

/-- The first trimmed line of a text that is not blank. -/
def firstContentLine (cs : List Char) : Option String :=
  (contentLines cs).head?.map String.ofList

end MatchingDecomp.Text
