/-!
# UTF-8

Byte strings as texts. A byte string is read as a sequence of units: a character, or an ill-formed
part, which is the longest run of bytes that could have begun a character. Strict decoding refuses
ill-formed parts; lossy decoding puts the replacement character for each.

The decoder takes one byte at a time. Between two bytes it is either at a boundary or inside a
character, and then it knows how many bytes are missing and which next bytes are allowed: the
narrower first ranges keep out overlong forms, surrogates and numbers past the last code point.
-/

namespace MatchingDecomp

/-- A byte string. -/
abbrev Bytes := List UInt8

namespace Utf8

/-- The bytes of a text. -/
def encode (cs : List Char) : Bytes :=
  cs.flatMap String.utf8EncodeChar

/-- The bytes of a string. -/
def ofString (s : String) : Bytes :=
  encode s.toList

/-- Where the decoder stands between two bytes. -/
inductive Place where
  /-- At a boundary. -/
  | boundary
  /-- Inside a character: `missing + 1` bytes are still to come, the next of them between `low` and
  `high`, and `value` collects the bits read so far. -/
  | inside (missing : Nat) (low high : UInt8) (value : Nat)
  deriving DecidableEq, Repr

/-- The decoder reads a byte at a boundary: the units it completes and the new place. -/
def begin (b : UInt8) : List (Option Char) × Place :=
  if b < 0x80 then ([some (Char.ofNat b.toNat)], .boundary)
  else if 0xC2 ≤ b && b ≤ 0xDF then ([], .inside 0 0x80 0xBF (b.toNat % 32))
  else if b == 0xE0 then ([], .inside 1 0xA0 0xBF 0)
  else if b == 0xED then ([], .inside 1 0x80 0x9F 13)
  else if 0xE1 ≤ b && b ≤ 0xEF then ([], .inside 1 0x80 0xBF (b.toNat % 16))
  else if b == 0xF0 then ([], .inside 2 0x90 0xBF 0)
  else if b == 0xF4 then ([], .inside 2 0x80 0x8F 4)
  else if 0xF1 ≤ b && b ≤ 0xF3 then ([], .inside 2 0x80 0xBF (b.toNat % 8))
  else ([none], .boundary)

/-- The decoder reads one byte. A byte that does not continue the character closes an ill-formed
part and is read again at the boundary after it. -/
def step : Place → UInt8 → List (Option Char) × Place
  | .boundary, b => begin b
  | .inside missing low high value, b =>
    if low ≤ b && b ≤ high then
      let value := value * 64 + b.toNat % 64
      match missing with
      | 0 => ([some (Char.ofNat value)], .boundary)
      | m + 1 => ([], .inside m 0x80 0xBF value)
    else (none :: (begin b).1, (begin b).2)

/-- The units of a byte string read from a given place. -/
def unitsFrom : Place → Bytes → List (Option Char)
  | .boundary, [] => []
  | .inside .., [] => [none]
  | place, b :: bs => (step place b).1 ++ unitsFrom (step place b).2 bs

/-- The units of a byte string: its characters, with `none` for each ill-formed part. -/
def units (bs : Bytes) : List (Option Char) :=
  unitsFrom .boundary bs

/-- The text of a well-formed byte string. -/
def decode? (bs : Bytes) : Option (List Char) :=
  (units bs).mapM id

/-- The text of a byte string, with the replacement character for each ill-formed part. -/
def lossy (bs : Bytes) : List Char :=
  (units bs).map fun u => u.getD '\uFFFD'

end Utf8

end MatchingDecomp
