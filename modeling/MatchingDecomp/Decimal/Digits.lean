/-!
# Decimal digits

Natural numbers as digit texts, plain and padded with zeros, and digit texts as natural numbers.
-/

namespace MatchingDecomp.Decimal

/-- The power `10^k`. -/
def tenPow (k : Nat) : Nat :=
  Nat.pow 10 k

/-- The decimal digits of a natural number. -/
def digits (n : Nat) : List Char :=
  Nat.toDigits 10 n

/-- The decimal digits of a natural number, with zeros in front up to the given width. -/
def padded (width n : Nat) : List Char :=
  List.replicate (width - (digits n).length) '0' ++ digits n

/-- The value of one digit. -/
def digitValue (c : Char) : Nat :=
  c.toNat - '0'.toNat

/-- The natural number that a text of digits denotes. -/
def value (ds : List Char) : Nat :=
  ds.foldl (fun n c => n * 10 + digitValue c) 0

/-- A natural number as a string. -/
def text (n : Nat) : String :=
  String.ofList (digits n)

/-- The text with spaces in front up to the given width. -/
def padLeft (width : Nat) (cs : List Char) : List Char :=
  List.replicate (width - cs.length) ' ' ++ cs

end MatchingDecomp.Decimal
