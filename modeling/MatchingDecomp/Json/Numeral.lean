import MatchingDecomp.Binary.Single
import MatchingDecomp.Decimal.Shortest

/-!
# JSON numerals

A numeral keeps its digits as they are written. What number it stands for depends on who reads it: a
count takes plain integers only, a float takes any numeral.

A float is read in 64-bit arithmetic: the digits are collected in a 64-bit significand, which is
then scaled by a power of ten. Digits that no longer fit are not lost in size: before the point each
of them scales by ten, after the point they are left out. A plain integer that fits is rounded once,
straight to the format asked for.
-/

namespace MatchingDecomp.Json

open Binary Decimal

/-- A number as it is written: a sign, the digits before the point, those after it, and the power of
ten. -/
structure Numeral where
  negative : Bool := false
  whole : List Char
  fraction : List Char := []
  exponent : Option Int := none
  deriving DecidableEq, Repr

namespace Numeral

/-- The numeral of a natural number. -/
def ofNat (n : Nat) : Numeral :=
  { whole := digits n }

/-- Whether the numeral has neither a fraction nor an exponent. -/
def isInteger (n : Numeral) : Bool :=
  n.fraction.isEmpty && n.exponent.isNone

/-- The natural number of an unsigned integer numeral. -/
def toNat? (n : Numeral) : Option Nat :=
  if n.negative || !n.isInteger then none else some (value n.whole)

/-- The first number past the significand. -/
def significandLimit : Nat := twoPow 64

/-- The digits before the point: the significand, and how many digits did not fit. -/
def takeWhole (ds : List Char) : Nat × Nat :=
  ds.foldl
    (fun (sig, excess) c =>
      let next := sig * 10 + digitValue c
      if excess = 0 ∧ next < significandLimit then (next, 0) else (sig, excess + 1))
    (0, 0)

/-- The digits after the point: the significand, and how many digits it took. -/
def takeFraction (sig : Nat) : List Char → Nat × Nat
  | [] => (sig, 0)
  | c :: cs =>
    let next := sig * 10 + digitValue c
    if next < significandLimit then
      let (s, taken) := takeFraction next cs
      (s, taken + 1)
    else (sig, 0)

/-- The largest power of ten that one multiplication or division uses. -/
def maxPower : Nat := 308

/-- A power of ten in 64-bit arithmetic. -/
def powerOfTen (k : Nat) : Quantity :=
  (Format.double.round (tenPow k) 1).getD ⟨0, 0⟩

/-- Division by `10^k` in steps of the largest power. After two such steps nothing is left of a
significand, so that a third is never needed. -/
def scaleDown (x : Quantity) (k : Nat) : Option Quantity :=
  if k ≤ maxPower then Format.double.div x (powerOfTen k)
  else do
    let y ← Format.double.div x (powerOfTen maxPower)
    if k - maxPower ≤ maxPower then Format.double.div y (powerOfTen (k - maxPower))
    else some ⟨0, Format.double.minExponent⟩

/-- Multiplication by `10^k`; only zero can be scaled past the largest power. -/
def scaleUp (x : Quantity) (k : Nat) : Option Quantity :=
  if k ≤ maxPower then Format.double.mul x (powerOfTen k)
  else if x.mantissa = 0 then some x
  else none

/-- The magnitude of a numeral in the 64-bit format, or `none` when it is past the finite values. -/
def toDouble? (n : Numeral) : Option Quantity := do
  let (sig, excess) := takeWhole n.whole
  let (sig, taken) := takeFraction sig n.fraction
  let x ← Format.double.round sig 1
  let power : Int := (excess : Int) - taken + n.exponent.getD 0
  if power < 0 then scaleDown x (-power).toNat else scaleUp x power.toNat

/-- The 32-bit float of a numeral, or `none` when it is past the finite 64-bit values. -/
def toSingle? (n : Numeral) : Option Single :=
  let (sig, excess) := takeWhole n.whole
  if n.isInteger && excess == 0 && (!n.negative || (0 < sig && sig ≤ twoPow 63)) then
    some (Single.ofRatio n.negative sig 1)
  else n.toDouble?.map (Single.ofQuantity n.negative)

/-- The decimal exponents, leading digit first, whose floats are written without a power of ten. -/
def leastPlain : Int := -6

@[inherit_doc leastPlain]
def greatestPlain : Int := 12

/-- The numeral of a finite float: its shortest decimal, with at least one digit after the point
when it is written without a power of ten. -/
def ofFinite (negative : Bool) (x : Quantity) : Numeral :=
  let d := shortest Format.single x
  let ds := digits d.coefficient
  let point : Int := (ds.length : Int) + d.exponent
  if d.coefficient = 0 then { negative, whole := ['0'], fraction := ['0'] }
  else if leastPlain ≤ point - 1 ∧ point - 1 ≤ greatestPlain then
    if 0 ≤ d.exponent then
      { negative, whole := ds ++ List.replicate d.exponent.toNat '0', fraction := ['0'] }
    else if 0 < point then
      { negative, whole := ds.take point.toNat, fraction := ds.drop point.toNat }
    else
      { negative, whole := ['0'], fraction := List.replicate (-point).toNat '0' ++ ds }
  else { negative, whole := ds.take 1, fraction := ds.drop 1, exponent := some (point - 1) }

end Numeral

end MatchingDecomp.Json
