import Shorthand.Decimal.Binary

/-!
# Fixed places

A number with a fixed count of decimal places, rounded to the nearest; a tie goes
to the even neighbour.
-/

namespace Shorthand.Decimal

/-- The whole number nearest to a quotient, the even one of two. -/
def roundDiv (numerator denominator : Nat) : Nat :=
  let quotient := numerator / denominator
  let twice := 2 * (numerator % denominator)
  if twice > denominator || (twice == denominator && quotient % 2 == 1) then quotient + 1
  else quotient

/-- A whole number of units of the last place, with its point. -/
def placePoint (places units : Nat) : List Char :=
  let text := digits units
  let text := List.replicate (places + 1 - text.length) '0' ++ text
  text.take (text.length - places) ++ '.' :: text.drop (text.length - places)

/-- A number with `places` decimal places. -/
def fixed (places : Nat) (x : Float) : List Char :=
  match Binary.ofFloat x with
  | .notANumber => "nan".toList
  | .infinite negative => Binary.special negative
  | .finite negative mantissa exponent =>
    let scaled := mantissa * tenTo places
    let units :=
      if exponent < 0 then roundDiv scaled (twoTo (-exponent).toNat)
      else scaled * twoTo exponent.toNat
    (if negative then ['-'] else []) ++ placePoint places units

/-- A text without the zeros at its end, and without a point that comes last then. -/
def dropTrailingZeros (text : List Char) : List Char :=
  let kept := (text.reverse.dropWhile (· == '0')).reverse
  if kept.length < text.length && kept.getLast? == some '.' then kept.dropLast else kept

/-- A number with at most `places` decimal places. -/
def atMost (places : Nat) (x : Float) : List Char := dropTrailingZeros (fixed places x)

end Shorthand.Decimal
