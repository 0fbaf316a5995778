import MatchingDecomp.Decimal.Digits

/-!
# Spans of time

A span is a whole number of nanoseconds. It is written in the largest unit of which it holds at
least one, as an exact decimal without trailing zeros; the empty span is `0ns`.
-/

namespace MatchingDecomp

/-- A span of time in nanoseconds. -/
structure Span where
  nanos : Nat
  deriving DecidableEq, Repr

namespace Span

def ofMillis (n : Nat) : Span := ⟨n * 1000000⟩

def ofParts (seconds nanos : Nat) : Span := ⟨seconds * 1000000000 + nanos⟩

/-- A text of digits without the zeros it ends with. -/
def dropTrailingZeros (ds : List Char) : List Char :=
  (ds.reverse.dropWhile (· == '0')).reverse

/-- `n / 10^places` as an exact decimal without trailing zeros. -/
def decimal (places n : Nat) : List Char :=
  let fraction := dropTrailingZeros (Decimal.padded places (n % Decimal.tenPow places))
  Decimal.digits (n / Decimal.tenPow places) ++ if fraction.isEmpty then [] else '.' :: fraction

/-- The written form of a span. -/
def text (s : Span) : String :=
  if 1000000000 ≤ s.nanos then String.ofList (decimal 9 s.nanos) ++ "s"
  else if 1000000 ≤ s.nanos then String.ofList (decimal 6 s.nanos) ++ "ms"
  else if 1000 ≤ s.nanos then String.ofList (decimal 3 s.nanos) ++ "µs"
  else Decimal.text s.nanos ++ "ns"

end Span

end MatchingDecomp
