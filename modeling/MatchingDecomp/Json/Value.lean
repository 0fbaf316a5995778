import MatchingDecomp.Json.Numeral

/-!
# JSON values

Members of an object stay in the order in which they are written, repeated names included. A string
can fail to denote a text: an escaped surrogate without its partner, or bytes that are no UTF-8.
Such a string is well-formed JSON as long as nobody asks for its text, and it is kept as a value of
its own.
-/

namespace MatchingDecomp.Json

/-- A JSON value. -/
inductive Value where
  | null
  | bool (b : Bool)
  | number (n : Numeral)
  | text (s : String)
  /-- A string that denotes no text. -/
  | illegible
  | array (items : List Value)
  /-- An object; a name that denotes no text is `none`. -/
  | object (members : List (Option String × Value))
  deriving Repr, Inhabited

namespace Value

/-- A natural number as a JSON value. -/
def nat (n : Nat) : Value :=
  .number (.ofNat n)

/-- An absent text is null. -/
def optText : Option String → Value
  | some s => .text s
  | none => .null

/-- A list of texts. -/
def texts (xs : List String) : Value :=
  .array (xs.map .text)

/-- An object whose names are all legible. -/
def record (members : List (String × Value)) : Value :=
  .object (members.map fun m => (some m.1, m.2))

/-- A 32-bit float; an infinity and what is no number are null. -/
def single (x : Single) : Value :=
  match x.finite? with
  | some q => .number (.ofFinite x.isNegative q)
  | none => .null

end Value

end MatchingDecomp.Json
