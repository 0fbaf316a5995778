import MatchingDecomp.Json.Value
import MatchingDecomp.Text.Word

/-!
# Reading JSON

A strict reader: no comments, no trailing commas, no byte-order mark, no raw control characters in
strings, no leading zeros, and nothing but blanks after the value.

The reader takes units rather than characters, so that a body that came as bytes is read without
deciding first whether all of it is well-formed: a unit `none` is an ill-formed part, which is
refused everywhere except inside a string, and there it makes the string illegible.
-/

namespace MatchingDecomp.Json

/-- The input of the reader: characters, with `none` for each ill-formed part. -/
abbrev Units := List (Option Char)

/-- The four blanks that JSON allows between tokens. -/
def isSpace : Option Char → Bool
  | some c => c == ' ' || c == '\n' || c == '\t' || c == '\r'
  | none => false

/-- The input without the blanks it starts with. -/
def skipSpace (us : Units) : Units :=
  us.dropWhile isSpace

/-- The longest run of digits at the start of the input, and the rest. -/
def takeDigits : Units → List Char × Units
  | some c :: us =>
    if Text.isDigit c then
      let (ds, rest) := takeDigits us
      (c :: ds, rest)
    else ([], some c :: us)
  | us => ([], us)

/-! ### Numerals -/

/-- The digits before the point: a zero alone, or digits that do not start with a zero. -/
def readWhole (us : Units) : Option (List Char × Units) :=
  match takeDigits us with
  | ([], _) => none
  | (['0'], rest) => some (['0'], rest)
  | ('0' :: _, _) => none
  | (ds, rest) => some (ds, rest)

/-- The digits after the point, if there is a point. -/
def readFraction : Units → Option (List Char × Units)
  | some '.' :: us =>
    match takeDigits us with
    | ([], _) => none
    | (ds, rest) => some (ds, rest)
  | us => some ([], us)

/-- The digits of a power of ten. -/
def readPower (negative : Bool) (us : Units) : Option (Option Int × Units) :=
  match takeDigits us with
  | ([], _) => none
  | (ds, rest) =>
    let n : Int := Decimal.value ds
    some (some (if negative then -n else n), rest)

/-- The power of ten, if there is one. -/
def readExponent : Units → Option (Option Int × Units)
  | some c :: us =>
    if c == 'e' || c == 'E' then
      match us with
      | some '+' :: rest => readPower false rest
      | some '-' :: rest => readPower true rest
      | _ => readPower false us
    else some (none, some c :: us)
  | us => some (none, us)

/-- A numeral without its sign. -/
def readUnsigned (negative : Bool) (us : Units) : Option (Numeral × Units) := do
  let (whole, us) ← readWhole us
  let (fraction, us) ← readFraction us
  let (exponent, us) ← readExponent us
  return ({ negative, whole, fraction, exponent }, us)

/-- A numeral. -/
def readNumeral : Units → Option (Numeral × Units)
  | some '-' :: us => readUnsigned true us
  | us => readUnsigned false us

/-! ### Strings -/

/-- The value of a hexadecimal digit. -/
def hexValue? (c : Char) : Option Nat :=
  if '0' ≤ c && c ≤ '9' then some (c.toNat - 48)
  else if 'a' ≤ c && c ≤ 'f' then some (c.toNat - 87)
  else if 'A' ≤ c && c ≤ 'F' then some (c.toNat - 55)
  else none

/-- What the character after a backslash stands for. -/
def unescape? (c : Char) : Option Char :=
  if c == '"' || c == '\\' || c == '/' then some c
  else if c == 'b' then some '\x08'
  else if c == 'f' then some '\x0c'
  else if c == 'n' then some '\n'
  else if c == 'r' then some '\r'
  else if c == 't' then some '\t'
  else none

/-- Where the reader stands inside a string. -/
inductive Position where
  /-- Between two characters. -/
  | plain
  /-- After a backslash. -/
  | escape
  /-- Inside the four digits of an escaped code unit: `left + 1` digits are still to come. -/
  | code (left : Nat) (value : Nat)
  deriving DecidableEq, Repr

/-- What has been read of a string: its characters, last one first, whether it still denotes a text,
and a leading surrogate that waits for its partner. -/
structure Reading where
  done : List Char := []
  legible : Bool := true
  surrogate : Option Nat := none
  deriving DecidableEq, Repr

namespace Reading

/-- A leading surrogate that is not followed by its partner makes the string illegible. -/
def settle (r : Reading) : Reading :=
  { r with legible := r.legible && r.surrogate.isNone, surrogate := none }

/-- One more character. -/
def push (r : Reading) (c : Char) : Reading :=
  { r.settle with done := c :: r.done }

/-- An ill-formed part. -/
def spoil (r : Reading) : Reading :=
  { r with legible := false, surrogate := none }

/-- An escaped code unit: a character, or one half of a surrogate pair. -/
def pushUnit (r : Reading) (n : Nat) : Reading :=
  if 0xDC00 ≤ n ∧ n ≤ 0xDFFF then
    match r.surrogate with
    | some h =>
      { r with
        done := Char.ofNat (0x10000 + (h - 0xD800) * 0x400 + (n - 0xDC00)) :: r.done
        surrogate := none }
    | none => r.spoil
  else if 0xD800 ≤ n ∧ n ≤ 0xDBFF then { r.settle with surrogate := some n }
  else r.push (Char.ofNat n)

/-- The text that was read, if the string denotes one. -/
def text? (r : Reading) : Option String :=
  if r.settle.legible then some (String.ofList r.done.reverse) else none

end Reading

/-- The rest of a string whose opening quote has been read: its text, if it denotes one, and what
follows the closing quote. -/
def readString (r : Reading) : Position → Units → Option (Option String × Units)
  | _, [] => none
  | .plain, none :: us => readString r.spoil .plain us
  | .plain, some c :: us =>
    if c == '"' then some (r.text?, us)
    else if c == '\\' then readString r .escape us
    else if c.toNat < 32 then none
    else readString (r.push c) .plain us
  | .escape, none :: _ => none
  | .escape, some c :: us =>
    if c == 'u' then readString r (.code 3 0) us
    else
      match unescape? c with
      | some d => readString (r.push d) .plain us
      | none => none
  | .code .., none :: _ => none
  | .code left value, some c :: us =>
    match hexValue? c with
    | none => none
    | some h =>
      match left with
      | 0 => readString (r.pushUnit (value * 16 + h)) .plain us
      | left + 1 => readString r (.code left (value * 16 + h)) us

/-! ### Values -/

/-- The rest of the input after a fixed word. -/
def expect (word : List Char) (us : Units) : Option Units :=
  if (word.map some).isPrefixOf us then some (us.drop word.length) else none

mutual

/-- A value and what follows it. The first argument bounds the nesting and the length of arrays and
objects; the length of the input is always enough. -/
def readValue : Nat → Units → Option (Value × Units)
  | 0, _ => none
  | fuel + 1, us =>
    match skipSpace us with
    | some '"' :: rest => do
      let (t, rest) ← readString {} .plain rest
      return (match t with | some s => .text s | none => .illegible, rest)
    | some '[' :: rest =>
      match skipSpace rest with
      | some ']' :: rest => some (.array [], rest)
      | rest => do
        let (vs, rest) ← readItems fuel rest
        return (.array vs, rest)
    | some '{' :: rest =>
      match skipSpace rest with
      | some '}' :: rest => some (.object [], rest)
      | rest => do
        let (ms, rest) ← readMembers fuel rest
        return (.object ms, rest)
    | some 'n' :: rest => do return (.null, ← expect "ull".toList rest)
    | some 't' :: rest => do return (.bool true, ← expect "rue".toList rest)
    | some 'f' :: rest => do return (.bool false, ← expect "alse".toList rest)
    | rest => do
      let (n, rest) ← readNumeral rest
      return (.number n, rest)

/-- The elements of an array that has at least one, up to and including the closing bracket. -/
def readItems : Nat → Units → Option (List Value × Units)
  | 0, _ => none
  | fuel + 1, us => do
    let (v, us) ← readValue fuel us
    match skipSpace us with
    | some ',' :: rest => do
      let (vs, rest) ← readItems fuel rest
      return (v :: vs, rest)
    | some ']' :: rest => some ([v], rest)
    | _ => none

/-- The members of an object that has at least one, up to and including the closing brace. -/
def readMembers : Nat → Units → Option (List (Option String × Value) × Units)
  | 0, _ => none
  | fuel + 1, us =>
    match skipSpace us with
    | some '"' :: rest => do
      let (k, rest) ← readString {} .plain rest
      match skipSpace rest with
      | some ':' :: rest => do
        let (v, rest) ← readValue fuel rest
        match skipSpace rest with
        | some ',' :: rest => do
          let (ms, rest) ← readMembers fuel rest
          return ((k, v) :: ms, rest)
        | some '}' :: rest => some ([(k, v)], rest)
        | _ => none
      | _ => none
    | _ => none

end

/-- The value that an input holds, with nothing but blanks around it. -/
def ofUnits? (us : Units) : Option Value := do
  let (v, rest) ← readValue (2 * us.length + 2) us
  if (skipSpace rest).isEmpty then some v else none

/-- The value that a string holds, with nothing but blanks around it. -/
def parse? (s : String) : Option Value :=
  ofUnits? (s.toList.map some)

end MatchingDecomp.Json
