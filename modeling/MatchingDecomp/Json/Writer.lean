import MatchingDecomp.Json.Value

/-!
# Writing JSON

The compact form has no spaces. The pretty form puts every element and every member on a line of its
own, indented by two spaces a level, with a space after the colon; an empty array and an empty
object stay on one line. In strings, the quote, the backslash and the control characters below the
space are escaped, and nothing else.
-/

namespace MatchingDecomp.Json

/-- A hexadecimal digit in lower case. -/
def hexDigit (n : Nat) : Char :=
  if n < 10 then Char.ofNat (48 + n) else Char.ofNat (87 + n)

/-- How a character is written inside a string. -/
def escape (c : Char) : List Char :=
  if c = '"' then ['\\', '"']
  else if c = '\\' then ['\\', '\\']
  else if c = '\x08' then ['\\', 'b']
  else if c = '\x0c' then ['\\', 'f']
  else if c = '\n' then ['\\', 'n']
  else if c = '\r' then ['\\', 'r']
  else if c = '\t' then ['\\', 't']
  else if c.toNat < 32 then ['\\', 'u', '0', '0', hexDigit (c.toNat / 16), hexDigit (c.toNat % 16)]
  else [c]

/-- A string literal. -/
def quoted (s : String) : List Char :=
  '"' :: s.toList.flatMap escape ++ ['"']

/-- A string literal that denotes no text: an escaped surrogate without its partner. -/
def unpaired : List Char :=
  "\"\\ud800\"".toList

/-- The name of a member. -/
def writeName : Option String → List Char
  | some s => quoted s
  | none => unpaired

/-- A numeral; a power of ten always carries its sign. -/
def writeNumeral (n : Numeral) : List Char :=
  (if n.negative then ['-'] else []) ++ n.whole ++
    (if n.fraction.isEmpty then [] else '.' :: n.fraction) ++
    (match n.exponent with
      | none => []
      | some e => ['e', if e < 0 then '-' else '+'] ++ Decimal.digits e.natAbs)

mutual

/-- The compact form of a value. -/
def compact : Value → List Char
  | .null => "null".toList
  | .bool true => "true".toList
  | .bool false => "false".toList
  | .number n => writeNumeral n
  | .text s => quoted s
  | .illegible => unpaired
  | .array vs => '[' :: compactItems vs
  | .object ms => '{' :: compactMembers ms

/-- The elements of an array and its closing bracket. -/
def compactItems : List Value → List Char
  | [] => [']']
  | [v] => compact v ++ [']']
  | v :: vs => compact v ++ ',' :: compactItems vs

/-- The members of an object and its closing brace. -/
def compactMembers : List (Option String × Value) → List Char
  | [] => ['}']
  | [(k, v)] => writeName k ++ ':' :: compact v ++ ['}']
  | (k, v) :: ms => writeName k ++ ':' :: compact v ++ ',' :: compactMembers ms

end

/-- A new line at an indentation level. -/
def newLine (level : Nat) : List Char :=
  '\n' :: List.replicate (2 * level) ' '

mutual

/-- The pretty form of a value whose own line stands at the given level. -/
def prettyAt (level : Nat) : Value → List Char
  | .null => "null".toList
  | .bool true => "true".toList
  | .bool false => "false".toList
  | .number n => writeNumeral n
  | .text s => quoted s
  | .illegible => unpaired
  | .array [] => ['[', ']']
  | .array (v :: vs) => '[' :: newLine (level + 1) ++ prettyItems level (v :: vs)
  | .object [] => ['{', '}']
  | .object (m :: ms) => '{' :: newLine (level + 1) ++ prettyMembers level (m :: ms)

/-- The elements of an array, each on its own line, and the closing bracket. -/
def prettyItems (level : Nat) : List Value → List Char
  | [] => newLine level ++ [']']
  | [v] => prettyAt (level + 1) v ++ newLine level ++ [']']
  | v :: vs => prettyAt (level + 1) v ++ ',' :: newLine (level + 1) ++ prettyItems level vs

/-- The members of an object, each on its own line, and the closing brace. -/
def prettyMembers (level : Nat) : List (Option String × Value) → List Char
  | [] => newLine level ++ ['}']
  | [(k, v)] => writeName k ++ ':' :: ' ' :: prettyAt (level + 1) v ++ newLine level ++ ['}']
  | (k, v) :: ms =>
    writeName k ++ ':' :: ' ' :: prettyAt (level + 1) v ++ ',' :: newLine (level + 1) ++
      prettyMembers level ms

end

/-- The compact form of a value, as a string. -/
def Value.compact (v : Value) : String :=
  String.ofList (Json.compact v)

/-- The pretty form of a value, as a string. -/
def Value.pretty (v : Value) : String :=
  String.ofList (prettyAt 0 v)

end MatchingDecomp.Json
