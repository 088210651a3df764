import Shorthand.Text.Utf8

/-!
# Percent encoding

An escape stands for an octet.  The octets of a stretch of ASCII characters are
read together as UTF-8; an escape that is not complete stands for itself.
-/

namespace Shorthand.Percent

def hexValue? (c : Char) : Option Nat :=
  if '0' ≤ c ∧ c ≤ '9' then some (c.toNat - '0'.toNat)
  else if 'a' ≤ c ∧ c ≤ 'f' then some (c.toNat - 'a'.toNat + 10)
  else if 'A' ≤ c ∧ c ≤ 'F' then some (c.toNat - 'A'.toNat + 10)
  else none

/-- An octet of an ASCII stretch, or a character outside of ASCII. -/
inductive Symbol
  | octet (value : Nat)
  | char (c : Char)

/-- The symbol of a character that begins no escape. -/
def plain (c : Char) : Symbol := if c.toNat < 0x80 then .octet c.toNat else .char c

/-- The symbols of an escaped text. -/
def symbols : List Char → List Symbol
  | [] => []
  | '%' :: high :: low :: rest =>
    match hexValue? high, hexValue? low with
    | some h, some l => .octet (h * 16 + l) :: symbols rest
    | _, _ => plain '%' :: symbols (high :: low :: rest)
  | c :: rest => plain c :: symbols rest

/-- The text of symbols, with the octets read since the last character in front. -/
def assemble (octets : List Nat) : List Symbol → List Char
  | [] => Utf8.decodeLossy octets
  | .octet value :: rest => assemble (octets ++ [value]) rest
  | .char c :: rest => Utf8.decodeLossy octets ++ c :: assemble [] rest

/-- The text that an escaped text stands for. -/
def decode (text : List Char) : List Char := assemble [] (symbols text)

end Shorthand.Percent
