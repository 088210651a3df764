/-!
# Blank characters

The white space of all scripts, and texts without it at either end.
-/

namespace Shorthand

/-- Whether a character is white space in any script. -/
def isBlank (c : Char) : Bool :=
  let n := c.toNat
  (0x09 ≤ n && n ≤ 0x0d) || (0x1c ≤ n && n ≤ 0x20) || n == 0x85 || n == 0xa0 || n == 0x1680 ||
    (0x2000 ≤ n && n ≤ 0x200a) || n == 0x2028 || n == 0x2029 || n == 0x202f || n == 0x205f ||
    n == 0x3000

def stripStart (text : List Char) : List Char := text.dropWhile isBlank

def stripEnd : List Char → List Char
  | [] => []
  | c :: rest =>
    match stripEnd rest with
    | [] => if isBlank c then [] else [c]
    | tail => c :: tail

def strip (text : List Char) : List Char := stripEnd (stripStart text)

/-- Lower case as far as it yields ASCII.  Beyond ASCII only the Kelvin sign has
an ASCII letter as its lower case. -/
def lowerChar (c : Char) : Char := if c == '\u212a' then 'k' else c.toLower

/-- A text in lower case, for a comparison with ASCII names. -/
def lower (text : List Char) : List Char := text.map lowerChar

end Shorthand
