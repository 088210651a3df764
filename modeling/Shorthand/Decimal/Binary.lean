/-!
# Binary fractions

A finite floating-point number is a whole number of some power of two.
-/

namespace Shorthand.Decimal

def twoTo (n : Nat) : Nat := Nat.pow 2 n

def tenTo (n : Nat) : Nat := Nat.pow 10 n

/-- What a floating-point number stands for. -/
inductive Binary
  /-- The number `mantissa * 2 ^ exponent`, with a sign even for zero. -/
  | finite (negative : Bool) (mantissa : Nat) (exponent : Int)
  | infinite (negative : Bool)
  | notANumber
  deriving DecidableEq, Repr

/-- What the bits of a floating-point number stand for. -/
def Binary.ofBits (bits : Nat) : Binary :=
  let negative := bits / twoTo 63 % 2 == 1
  let exponent : Nat := bits / twoTo 52 % 2048
  let fraction : Nat := bits % twoTo 52
  if exponent = 2047 then if fraction = 0 then .infinite negative else .notANumber
  else if exponent = 0 then .finite negative fraction (-1074)
  else .finite negative (fraction + twoTo 52) (Int.ofNat exponent - 1075)

def Binary.ofFloat (x : Float) : Binary := .ofBits x.toBits.toNat

def infinity : Float := Float.ofBits 0x7ff0000000000000

/-- What stands for no number. -/
def notANumber : Float := Float.ofBits 0x7ff8000000000000

/-- The text of a number that is not finite. -/
def Binary.special (negative : Bool) : List Char :=
  if negative then "-inf".toList else "inf".toList

def digits (n : Nat) : List Char := Nat.toDigits 10 n

end Shorthand.Decimal
