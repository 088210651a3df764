/-!
# Code units

How many code units of an encoding a text takes.
-/

namespace Shorthand

/-- The encodings in which a client may count. -/
inductive Encoding
  | utf8
  | utf16
  | utf32
  deriving DecidableEq, Repr

def Encoding.width : Encoding → Char → Nat
  | .utf8, c => c.utf8Size
  | .utf16, c => if c.toNat < 0x10000 then 1 else 2
  | .utf32, _ => 1

def Encoding.units (encoding : Encoding) : List Char → Nat
  | [] => 0
  | c :: rest => encoding.width c + encoding.units rest

/-- The fewest characters at the start of a text that reach `target` units, or all of them. -/
def Encoding.charsWithin (encoding : Encoding) : List Char → Nat → Nat
  | [], _ => 0
  | c :: rest, target =>
    if target = 0 then 0 else encoding.charsWithin rest (target - encoding.width c) + 1

end Shorthand
