import MatchingDecomp.Binary.Format

/-!
# 32-bit floats

A float is its bit pattern: two zeros, two infinities and the patterns that are no number are all
kept apart, as the exported records keep them apart.
-/

namespace MatchingDecomp

open Binary

/-- A 32-bit float, given by its bit pattern. -/
structure Single where
  bits : UInt32
  deriving DecidableEq, Repr

namespace Single

/-- The float with the given sign and the given pattern of magnitude. -/
def ofParts (negative : Bool) (magnitude : Nat) : Single :=
  ⟨UInt32.ofNat ((if negative then Format.single.signBit else 0) + magnitude)⟩

/-- Whether the sign bit is set. -/
def isNegative (x : Single) : Bool :=
  Format.single.signBit ≤ x.bits.toNat

/-- The bit pattern without the sign. -/
def magnitude (x : Single) : Nat :=
  x.bits.toNat % Format.single.signBit

/-- Whether the pattern is no number. -/
def isNaN (x : Single) : Bool :=
  Format.single.infinityBits < x.magnitude

/-- The magnitude of a finite float. -/
def finite? (x : Single) : Option Quantity :=
  Format.single.decode x.magnitude

/-- The float nearest to `± n / d`; past the finite values it is an infinity. -/
def ofRatio (negative : Bool) (n d : Nat) : Single :=
  ofParts negative (Format.single.encodeRounded (Format.single.round n d))

/-- The float nearest to a quantity. -/
def ofQuantity (negative : Bool) (x : Quantity) : Single :=
  ofRatio negative x.ratio.1 x.ratio.2

def zero : Single := ⟨0⟩

def one : Single := ⟨0x3F800000⟩

def infinity (negative : Bool) : Single :=
  ofParts negative Format.single.infinityBits

/-- A pattern that is no number. -/
def nan : Single := ⟨0x7FC00000⟩

/-- The float moved into the interval from zero to one. What is no number becomes zero, and a
negative zero is already inside. -/
def clampUnit (x : Single) : Single :=
  if x.isNaN then zero
  else if x.isNegative then (if x.magnitude = 0 then x else zero)
  else if one.magnitude < x.magnitude then one
  else x

end Single

end MatchingDecomp
