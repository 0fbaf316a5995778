/-!
# Names

Word characters are the ASCII letters, the ASCII digits and the underscore; an identifier is a word
that does not start with a digit.
-/

namespace MatchingDecomp.Text

/-- The ASCII letters and the underscore. -/
def isNameStart (c : Char) : Bool :=
  ('a' ≤ c && c ≤ 'z') || ('A' ≤ c && c ≤ 'Z') || c == '_'

/-- The ASCII decimal digits. -/
def isDigit (c : Char) : Bool :=
  '0' ≤ c && c ≤ '9'

/-- The characters a name is made of. -/
def isWordChar (c : Char) : Bool :=
  isNameStart c || isDigit c

/-- Whether a text is a C identifier: a name start followed by word characters. -/
def isIdentifier : List Char → Bool
  | [] => false
  | c :: cs => isNameStart c && cs.all isWordChar

/-- An ASCII upper-case letter becomes its lower-case form; every other character stays. -/
def asciiLower (c : Char) : Char :=
  if 'A' ≤ c && c ≤ 'Z' then Char.ofNat (c.toNat + 32) else c

end MatchingDecomp.Text
