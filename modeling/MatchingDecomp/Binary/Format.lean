/-!
# Binary floating-point formats

Numbers `m · 2^e` with a mantissa of bounded size, and the rounding of an exact quotient to the
nearest of them. A tie goes to the even mantissa. Everything is exact arithmetic on natural numbers,
so that a statement about a rounded value is a statement about integers.
-/

namespace MatchingDecomp.Binary

/-- The power `2^k`. -/
def twoPow (k : Nat) : Nat :=
  Nat.pow 2 k

/-- The number `mantissa · 2^exponent`. -/
structure Quantity where
  mantissa : Nat
  exponent : Int
  deriving DecidableEq, Repr

/-- A quantity as numerator and denominator. -/
def Quantity.ratio (d : Quantity) : Nat × Nat :=
  (d.mantissa * twoPow d.exponent.toNat, twoPow (-d.exponent).toNat)

/-- The greatest natural number that is at most `d`. -/
def Quantity.floor (d : Quantity) : Nat :=
  d.ratio.1 / d.ratio.2

/-- A format: the number of mantissa bits, the least exponent, and the power of two below which
finite values lie. -/
structure Format where
  precision : Nat
  minExponent : Int
  topExponent : Nat
  deriving DecidableEq, Repr

/-- The 32-bit format. -/
def Format.single : Format := ⟨24, -149, 128⟩

/-- The 64-bit format. -/
def Format.double : Format := ⟨53, -1074, 1024⟩

/-- The natural number nearest to `n / d`; a tie goes to the even one. -/
def roundDiv (n d : Nat) : Nat :=
  let q := n / d
  let r := n % d
  if 2 * r < d then q
  else if d < 2 * r then q + 1
  else if q % 2 = 0 then q else q + 1

/-- The exponent of the leading bit of `n / d`: the greatest `k` with `2^k ≤ n / d`, for positive
`n` and `d`. -/
def leadingExponent (n d : Nat) : Int :=
  let k : Int := (n.log2 : Int) - (d.log2 : Int)
  if d * twoPow k.toNat ≤ n * twoPow (-k).toNat then k else k - 1

namespace Format

/-- The value of the format nearest to `n / d`, or `none` when it is past the finite values. -/
def round (f : Format) (n d : Nat) : Option Quantity :=
  if n = 0 then some ⟨0, f.minExponent⟩
  else
    let e := max f.minExponent (leadingExponent n d - ((f.precision : Int) - 1))
    let m := roundDiv (n * twoPow (-e).toNat) (d * twoPow e.toNat)
    let carried := m == twoPow f.precision
    let m := if carried then m / 2 else m
    let e := if carried then e + 1 else e
    if (f.topExponent : Int) < e + f.precision then none else some ⟨m, e⟩

/-- The nearest value of the format to the product of two quantities. -/
def mul (f : Format) (a b : Quantity) : Option Quantity :=
  f.round (a.ratio.1 * b.ratio.1) (a.ratio.2 * b.ratio.2)

/-- The nearest value of the format to the quotient of two quantities. -/
def div (f : Format) (a b : Quantity) : Option Quantity :=
  f.round (a.ratio.1 * b.ratio.2) (a.ratio.2 * b.ratio.1)

/-- One unit of the exponent field. -/
def fieldUnit (f : Format) : Nat :=
  twoPow (f.precision - 1)

/-- The bit pattern of infinity, sign aside: the exponent field is full and the rest is zero. -/
def infinityBits (f : Format) : Nat :=
  (2 * f.topExponent - 1) * f.fieldUnit

/-- The weight of the sign bit. -/
def signBit (f : Format) : Nat :=
  2 * f.topExponent * f.fieldUnit

/-- The bit pattern of a value of the format, sign aside. -/
def encode (f : Format) (d : Quantity) : Nat :=
  if d.mantissa < f.fieldUnit then d.mantissa
  else (d.exponent - f.minExponent + 1).toNat * f.fieldUnit + (d.mantissa - f.fieldUnit)

/-- The bit pattern of a rounded value, sign aside. -/
def encodeRounded (f : Format) : Option Quantity → Nat
  | some d => f.encode d
  | none => f.infinityBits

/-- The finite value of a bit pattern, sign aside. -/
def decode (f : Format) (bits : Nat) : Option Quantity :=
  if f.infinityBits ≤ bits then none
  else if bits < f.fieldUnit then some ⟨bits, f.minExponent⟩
  else some ⟨bits % f.fieldUnit + f.fieldUnit, f.minExponent + (bits / f.fieldUnit : Nat) - 1⟩

end Format

end MatchingDecomp.Binary
