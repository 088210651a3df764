import Shorthand.Engine
import Shorthand.Text.DecimalDigit

/-!
# Fields

A field is written as a dollar sign and braces around a number, a number with a
placeholder, or a name.
-/

namespace Shorthand

/-- A field: its number with a placeholder, or a name. -/
structure Field where
  index : Option Nat
  text : List Char
  deriving DecidableEq, Repr

/-- The text before the brace that closes a field, with `depth` inner braces
open, and what follows; `none` when an inner brace stays open. -/
def placeholder : Nat → List Char → Option (List Char × List Char)
  | 0, [] => some ([], [])
  | _ + 1, [] => none
  | depth, '{' :: rest => (placeholder (depth + 1) rest).map fun (a, b) => ('{' :: a, b)
  | 0, '}' :: rest => some ([], '}' :: rest)
  | depth + 1, '}' :: rest => (placeholder depth rest).map fun (a, b) => ('}' :: a, b)
  | depth, c :: rest => (placeholder depth rest).map fun (a, b) => (c :: a, b)

/-- The field behind its opening brace, and what follows it. -/
def Field.read (chars : List Char) : Except Failure (Field × List Char) :=
  let digits := chars.takeWhile isDecimal
  let body : Option (Field × List Char) :=
    if !digits.isEmpty then
      match chars.dropWhile isDecimal with
      | ':' :: rest =>
        (placeholder 0 rest).map fun (text, rest) => (⟨some (decimalNumber digits), text⟩, rest)
      | rest => some (⟨some (decimalNumber digits), []⟩, rest)
    else if (chars.head?.map Char.isAlpha).getD false then
      (placeholder 0 chars).map fun (text, rest) => (⟨none, text⟩, rest)
    else some (⟨none, []⟩, chars)
  match body with
  | some (field, '}' :: rest) => .ok (field, rest)
  | _ => .error .scanner

/-- Whether a character separates the parts of an abbreviation. -/
def isSpace (c : Char) : Bool :=
  c == ' ' || c == '\t' || c == '\u00a0' || c == '\n' || c == '\r'

end Shorthand
