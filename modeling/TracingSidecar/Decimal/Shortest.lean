import TracingSidecar.Decimal.Binary64

/-!
# Shortest decimal digits

The digits of a double are the fewest that read back as the same double; of those, the nearest to
its exact value.  A double stands for every real number of an interval around it, whose ends belong
to it exactly when its mantissa is even.  The digits are found by trying the grids of 1, 2, … 17
digits: on each, only the two neighbours of the exact value can lie in the interval.
-/

namespace TracingSidecar

/-- The positive number `digits * 10 ^ exponent`, without trailing zeros. -/
structure DecimalDigits where
  digits : List Char
  exponent : Int
  deriving DecidableEq, Repr

namespace Decimal

/-- A ratio of natural numbers times a power of two and a power of ten. -/
def scaledRatio (twos tens : Int) : Nat × Nat :=
  (Nat.pow 2 twos.toNat * Nat.pow 10 tens.toNat,
    Nat.pow 2 (-twos).toNat * Nat.pow 10 (-tens).toNat)

/-- The exponent of the leading decimal digit of `mantissa * 2 ^ exponent`. -/
def leadingExponent (mantissa : Nat) (exponent : Int) : Int :=
  let (num, den) := scaledRatio exponent 400
  ((Nat.toDigits 10 (mantissa * num / den)).length : Int) - 401

/-- The nearest point to a positive double on the grid of multiples of `10 ^ grid`, if the double is
what that point reads back as. -/
def gridPoint? (x : Binary64) (grid : Int) : Option Nat :=
  let (num, den) := scaledRatio (x.exponent - 2) (-grid)
  let exact := 4 * x.mantissa * num
  let low := (4 * x.mantissa - (if x.isPowerBoundary then 1 else 2)) * num
  let high := (4 * x.mantissa + 2) * num
  let even := x.mantissa % 2 = 0
  let inside (point : Nat) : Bool :=
    let p := point * den
    if even then low ≤ p && p ≤ high else low < p && p < high
  let below := exact / den
  let above := below + 1
  let nearerBelow := exact - below * den < above * den - exact
    || (exact - below * den = above * den - exact && below % 2 = 0)
  match inside below, inside above with
  | true, true => some (if nearerBelow then below else above)
  | true, false => some below
  | false, true => some above
  | false, false => none

/-- Digits without their trailing zeros, which move into the exponent. -/
def normalize (digits : List Char) (exponent : Int) : DecimalDigits :=
  let kept := (digits.reverse.dropWhile (· = '0')).reverse
  ⟨kept, exponent + (digits.length - kept.length : Nat)⟩

/-- Try the grids with `count`, `count + 1`, … significant digits. -/
def digitsFrom (x : Binary64) (leading : Int) (count : Nat) : Nat → DecimalDigits
  | 0 => ⟨[], 0⟩
  | fuel + 1 =>
      let grid := leading - count + 1
      match gridPoint? x grid with
      | some point => normalize (Nat.toDigits 10 point) grid
      | none => digitsFrom x leading (count + 1) fuel

/-- The shortest digits of the magnitude of a finite double other than zero. -/
def shortest (x : Binary64) : DecimalDigits :=
  digitsFrom x (leadingExponent x.mantissa x.exponent) 1 17

end Decimal

end TracingSidecar
