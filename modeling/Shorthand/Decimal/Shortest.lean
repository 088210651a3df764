import Shorthand.Decimal.Binary

/-!
# Shortest decimals

The fewest digits that read back as the same floating-point number, and of those
the digits nearest to it.  A number is written with a point from 0.0001 up to
10 ^ 16, and with an exponent beyond.
-/

namespace Shorthand.Decimal

/-- A decimal number `digits * 10 ^ exponent`. -/
structure Digits where
  value : Nat
  exponent : Int
  deriving DecidableEq, Repr

/-- Compares `a * 2 ^ p` with `b * 10 ^ q`. -/
def compareScaled (a : Nat) (p : Int) (b : Nat) (q : Int) : Ordering :=
  compare (a * twoTo p.toNat * tenTo (-q).toNat) (b * tenTo q.toNat * twoTo (-p).toNat)

/-- Whether a decimal number reads back as `mantissa * 2 ^ exponent`.  The bounds
lie half way to the neighbours, the lower one nearer below a power of two; they
themselves read back to an even mantissa. -/
def readsBack (mantissa : Nat) (exponent : Int) (decimal : Digits) : Bool :=
  let isPower := mantissa == twoTo 52 && exponent > -1074
  let low := if isPower then 4 * mantissa - 1 else 4 * mantissa - 2
  let high := 4 * mantissa + 2
  let isEven := mantissa % 2 == 0
  let above := compareScaled low (exponent - 2) decimal.value decimal.exponent
  let below := compareScaled high (exponent - 2) decimal.value decimal.exponent
  (above == .lt || (isEven && above == .eq)) && (below == .gt || (isEven && below == .eq))

/-- The number of units of `10 ^ place` in `mantissa * 2 ^ exponent`, rounded down. -/
def unitsBelow (mantissa : Nat) (exponent place : Int) : Nat :=
  mantissa * twoTo exponent.toNat * tenTo (-place).toNat /
    (tenTo place.toNat * twoTo (-exponent).toNat)

/-- The neighbour on the grid of `10 ^ place` that reads back, the nearer one of two. -/
def onGrid? (mantissa : Nat) (exponent place : Int) : Option Digits :=
  let lower : Digits := ⟨unitsBelow mantissa exponent place, place⟩
  let upper : Digits := ⟨lower.value + 1, place⟩
  match readsBack mantissa exponent lower, readsBack mantissa exponent upper with
  | true, false => some lower
  | false, true => some upper
  | false, false => none
  | true, true =>
    match compareScaled (2 * mantissa) exponent (2 * lower.value + 1) place with
    | .lt => some lower
    | .gt => some upper
    | .eq => some (if lower.value % 2 = 0 then lower else upper)

/-- The coarsest decimal that reads back, from a grid on down. -/
def firstOnGrid (mantissa : Nat) (exponent : Int) : Nat → Int → Digits
  | 0, place => ⟨unitsBelow mantissa exponent place, place⟩
  | fuel + 1, place =>
    match onGrid? mantissa exponent place with
    | some found => found
    | none => firstOnGrid mantissa exponent fuel (place - 1)

/-- The exponent of the leading digit of a number above zero, from an upper bound on down. -/
def leadingPlace (mantissa : Nat) (exponent : Int) : Nat → Int → Int
  | 0, place => place
  | fuel + 1, place =>
    if unitsBelow mantissa exponent place = 0 then leadingPlace mantissa exponent fuel (place - 1)
    else place

def shortestDigits (mantissa : Nat) (exponent : Int) : Digits :=
  let top := if exponent ≥ 0 then (digits (mantissa * twoTo exponent.toNat)).length
    else (digits (mantissa / twoTo (-exponent).toNat)).length
  firstOnGrid mantissa exponent 20 (leadingPlace mantissa exponent 330 top + 1)

def Digits.text (decimal : Digits) : List Char :=
  let all := digits decimal.value
  let kept := (all.reverse.dropWhile (· == '0')).reverse
  let point : Int := decimal.exponent + all.length
  if -4 < point && point ≤ 16 then
    if point ≤ 0 then '0' :: '.' :: List.replicate (-point).toNat '0' ++ kept
    else
      let whole := point.toNat
      if kept.length ≤ whole then
        kept ++ List.replicate (whole - kept.length) '0' ++ ['.', '0']
      else kept.take whole ++ '.' :: kept.drop whole
  else
    let power := point - 1
    let size := digits power.natAbs
    kept.take 1 ++ (if kept.length > 1 then '.' :: kept.drop 1 else []) ++
      ['e', if power < 0 then '-' else '+'] ++ List.replicate (2 - size.length) '0' ++ size

/-- A floating-point number in its shortest form. -/
def shortest (x : Float) : List Char :=
  match Binary.ofFloat x with
  | .notANumber => "nan".toList
  | .infinite negative => Binary.special negative
  | .finite negative mantissa exponent =>
    (if negative then ['-'] else []) ++
      if mantissa = 0 then "0.0".toList else (shortestDigits mantissa exponent).text

end Shorthand.Decimal
