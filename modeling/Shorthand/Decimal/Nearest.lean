import Shorthand.Decimal.Fixed

/-!
# Nearest binary fractions

The floating-point number nearest to a decimal number; a tie goes to the even one.
-/

namespace Shorthand.Decimal

/-- The bits of the floating-point number nearest to `numerator / denominator`. -/
def nearestBits (numerator denominator : Nat) : Nat :=
  let scale : Int := max (-1074) ((numerator.log2 : Int) - denominator.log2 - 53)
  let quotient (scale : Int) : Nat × Nat :=
    (numerator * twoTo (-scale).toNat, denominator * twoTo scale.toNat)
  let isWide (scale : Int) : Bool := (quotient scale).1 / (quotient scale).2 ≥ twoTo 53
  let scale := if isWide scale then scale + 1 else scale
  let scale := if isWide scale then scale + 1 else scale
  let rounded := roundDiv (quotient scale).1 (quotient scale).2
  if rounded < twoTo 52 then rounded
  else
    let bits := (scale + 1074).toNat * twoTo 52 + rounded
    min bits (2047 * twoTo 52)

/-- The floating-point number nearest to `mantissa * 10 ^ exponent`. -/
def nearest (mantissa : Nat) (exponent : Int) : Float :=
  let size := (digits mantissa).length
  if mantissa = 0 || exponent + size < -400 then 0
  else if exponent + size > 400 then infinity
  else
    Float.ofBits (UInt64.ofNat
      (nearestBits (mantissa * tenTo exponent.toNat) (tenTo (-exponent).toNat)))

end Shorthand.Decimal
