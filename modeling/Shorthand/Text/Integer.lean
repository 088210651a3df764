import Shorthand.Text.Blank
import Shorthand.Text.DecimalDigit

/-!
# Integers

Whole numbers as people write them: with a sign, and with low lines between their
digits.
-/

namespace Shorthand

/-- The most digits that a written integer may have. -/
def maxDigits : Nat := 4300

/-- Digits with single low lines between them, without those, and what follows. -/
def groupedTail (isDigit : Char → Bool) : List Char → List Char × List Char
  | [] => ([], [])
  | '_' :: c :: rest =>
    if isDigit c then
      let (digits, rest) := groupedTail isDigit rest
      (c :: digits, rest)
    else ([], '_' :: c :: rest)
  | c :: rest =>
    if isDigit c then
      let (digits, rest) := groupedTail isDigit rest
      (c :: digits, rest)
    else ([], c :: rest)

/-- One digit or more at the head of a text, and what follows. -/
def grouped? (isDigit : Char → Bool) : List Char → Option (List Char × List Char)
  | [] => none
  | c :: rest =>
    if isDigit c then
      let (digits, rest) := groupedTail isDigit rest
      some (c :: digits, rest)
    else none

def takeSign : List Char → Bool × List Char
  | '-' :: rest => (true, rest)
  | '+' :: rest => (false, rest)
  | text => (false, text)

/-- Whether a character may stand around an integer: a blank that separates no
records. -/
def isOuterBlank (c : Char) : Bool := isBlank c && !(0x1c ≤ c.toNat && c.toNat ≤ 0x1f)

/-- The integer that a text writes, in decimal digits of any script. -/
def integer? (text : List Char) : Option Int :=
  let (negative, body) := takeSign (text.dropWhile isOuterBlank)
  match grouped? isDecimal body with
  | some (digits, rest) =>
    if rest.all isOuterBlank && digits.length ≤ maxDigits then
      some (if negative then -(decimalNumber digits : Int) else decimalNumber digits)
    else none
  | none => none

end Shorthand
