import MatchingDecomp.Text.Lines
import MatchingDecomp.Text.Word

/-!
# The name of a fragment

Assembly text names its function in one of two ways: a directive `.fn name` anywhere on a line, or a
label `name:` at the very start of a line. The first line that holds either decides, and on one line
the directive goes before the label.
-/

namespace MatchingDecomp.Fragment

open Text

/-- The name after a directive with which the text starts. Blanks must follow the directive, and a
name of at least one word character must follow the blanks. -/
def directiveHere? : List Char → Option (List Char)
  | '.' :: 'f' :: 'n' :: rest =>
    let name := (trimStart rest).takeWhile isWordChar
    if rest.head?.any isBlank && !name.isEmpty then some name else none
  | _ => none

/-- The name after the first directive of a line that has one. -/
def directive? : List Char → Option (List Char)
  | [] => none
  | c :: cs => (directiveHere? (c :: cs)).or (directive? cs)

/-- The name of the label with which a line starts. -/
def label? (line : List Char) : Option (List Char) :=
  let name := line.takeWhile isWordChar
  if isIdentifier name && (line.drop name.length).head? == some ':' then some name else none

/-- The name that one line gives. -/
def lineName? (line : List Char) : Option (List Char) :=
  (directive? line).or (label? line)

/-- The name that a text gives its function. -/
def extractIdentifier (text : String) : Option String :=
  ((lines text.toList).findSome? lineName?).map String.ofList

end MatchingDecomp.Fragment
