/-!
# Log records

What the server reports, with a level of importance.
-/

namespace Shorthand

def debugLevel : Int := 10

def infoLevel : Int := 20

def warningLevel : Int := 30

def errorLevel : Int := 40

def criticalLevel : Int := 50

/-- A message with its level. -/
structure Record where
  level : Int
  message : List Char
  deriving DecidableEq, Repr

/-- The record of an error that is contained. -/
def Record.contained (level : Int) (message : List Char) : Record :=
  ⟨level, "ERR: ".toList ++ message⟩

/-- A result and the records that were made on the way. -/
structure Logged (α : Type) where
  result : α
  records : List Record
  deriving DecidableEq, Repr

end Shorthand
