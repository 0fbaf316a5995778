import MatchingDecomp.Binary.Format
import MatchingDecomp.Decimal.Digits

/-!
# Shortest decimals

The decimal with the fewest digits that reads back as a given value of a binary format, and among
those the one nearest to the value.

A value rounds back from every real in an interval around it; the ends belong to the interval when
the mantissa is even, because ties go to the even mantissa. For one digit, two digits and so on, the
value's two neighbours on that decimal grid are tested. If any point of a grid lies in the interval,
one of these two does.
-/

namespace MatchingDecomp.Decimal

open Binary

/-- The number `coefficient · 10^exponent`. -/
structure Expansion where
  coefficient : Nat
  exponent : Int
  deriving DecidableEq, Repr

/-- The greatest `k` with `10^k ≤ n / d`, for positive `n` and `d`. -/
def leadingPower (n d : Nat) : Int :=
  let k : Int := ((digits n).length : Int) - ((digits d).length : Int)
  if d * tenPow k.toNat ≤ n * tenPow (-k).toNat then k else k - 1

/-- The decimal of the grid of multiples of `10^k` that stands for a positive value of the format,
when one of the value's two neighbours on the grid rounds back to it. -/
def onGrid? (f : Format) (x : Quantity) (k : Int) : Option Expansion :=
  -- Quarters of a unit in the last place are the common measure of the value and its interval.
  let e := x.exponent - 2
  let point := tenPow k.toNat * twoPow (-e).toNat
  let quarter := twoPow e.toNat * tenPow (-k).toNat
  let atPower := x.mantissa == f.fieldUnit && f.minExponent < x.exponent
  let low := (4 * x.mantissa - (if atPower then 1 else 2)) * quarter
  let middle := 4 * x.mantissa * quarter
  let high := (4 * x.mantissa + 2) * quarter
  let closed := x.mantissa % 2 == 0
  let inside (c : Nat) : Bool :=
    (low < c * point || (closed && low == c * point)) &&
      (c * point < high || (closed && c * point == high))
  let below := middle / point
  let above := below + 1
  match inside below, inside above with
  | true, true =>
    let down := middle - below * point
    let up := above * point - middle
    if down < up || (down == up && below % 2 == 0) then some ⟨below, k⟩ else some ⟨above, k⟩
  | true, false => some ⟨below, k⟩
  | false, true => some ⟨above, k⟩
  | false, false => none

/-- The decimal without trailing zeros in its coefficient. -/
def Expansion.normalize (d : Expansion) : Expansion :=
  if h : d.coefficient ≠ 0 ∧ d.coefficient % 10 = 0 then
    Expansion.normalize ⟨d.coefficient / 10, d.exponent + 1⟩
  else d
termination_by d.coefficient
decreasing_by omega

/-- The most digits that are ever needed: those of the 64-bit format. -/
def maxDigits : Nat := 17

/-- The shortest decimal that reads back as a value of the format. -/
def shortest (f : Format) (x : Quantity) : Expansion :=
  if x.mantissa = 0 then ⟨0, 0⟩
  else
    let lead := leadingPower x.ratio.1 x.ratio.2
    let found := (List.range maxDigits).findSome? fun n => onGrid? f x (lead - Int.ofNat n)
    (found.getD ⟨0, 0⟩).normalize

/-- A quotient with a fixed number of decimal places: the integer part and the places. A tie goes to
the even last digit. -/
def fixed (places n d : Nat) : List Char :=
  let scaled := roundDiv (n * tenPow places) d
  digits (scaled / tenPow places) ++ '.' :: padded places (scaled % tenPow places)

end MatchingDecomp.Decimal
