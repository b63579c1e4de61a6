/-!
# Binary floating-point numbers

A double-precision number is its 64 bits; a finite one is a sign and `mantissa * 2 ^ exponent`.
`Numeral` is a decimal numeral as it is read from digits, and `Numeral.toBinary64?` is its value:
the significand as the nearest double, scaled by one multiplication with, or division by, a power
of ten.
-/

namespace TracingSidecar

/-- A double-precision number, by its bits. -/
structure Binary64 where
  bits : UInt64
  deriving DecidableEq, Repr, Inhabited

namespace Binary64

def ofFloat (x : Float) : Binary64 := ⟨x.toBits⟩

def isNegative (x : Binary64) : Bool := x.bits.toNat >>> 63 = 1

/-- The stored exponent field. -/
def exponentField (x : Binary64) : Nat := (x.bits.toNat >>> 52) % (1 <<< 11)

/-- The stored fraction field. -/
def fractionField (x : Binary64) : Nat := x.bits.toNat % (1 <<< 52)

/-- The magnitude of a finite number is `mantissa * 2 ^ exponent`. -/
def mantissa (x : Binary64) : Nat :=
  if x.exponentField = 0 then x.fractionField else (1 <<< 52) + x.fractionField

def exponent (x : Binary64) : Int :=
  if x.exponentField = 0 then -1074 else (x.exponentField : Int) - 1075

/-- Whether the gap to the next smaller magnitude is half the gap to the next greater one. -/
def isPowerBoundary (x : Binary64) : Bool := x.fractionField = 0 && 1 < x.exponentField

end Binary64

/-- A decimal numeral `±significand * 10 ^ exponent`. -/
structure Numeral where
  negative : Bool
  significand : Nat
  exponent : Int
  deriving DecidableEq, Repr

namespace Numeral

/-- The significand of a numeral has 64 bits. -/
def significandBound : Nat := UInt64.size

/-- The power of ten with a given exponent, at most 308. -/
def powerOfTen (exponent : Nat) : Float := Float.ofScientific 1 false exponent

/-- A magnitude times a power of ten.  Exponents below the range of powers are approached in steps
of 308; a magnitude that leaves the range of finite numbers has no value. -/
def scale? (magnitude : Float) (exponent : Int) : Option Float :=
  if 308 < exponent then
    if magnitude == 0 then some magnitude else none
  else if 0 ≤ exponent then
    let product := magnitude * powerOfTen exponent.toNat
    if product.isInf then none else some product
  else if -308 ≤ exponent then some (magnitude / powerOfTen (-exponent).toNat)
  else if magnitude == 0 then some magnitude
  else scale? (magnitude / powerOfTen 308) (exponent + 308)
termination_by (-exponent).toNat
decreasing_by omega

/-- The double that a numeral denotes. -/
def toBinary64? (n : Numeral) : Option Binary64 :=
  (scale? (UInt64.ofNat n.significand).toFloat n.exponent).map fun magnitude =>
    .ofFloat (if n.negative then -magnitude else magnitude)

end Numeral

end TracingSidecar
