import Shorthand.Text.Blank
import Shorthand.Text.Split
import Shorthand.Value

/-!
# Name lists

A list of names is given as a text with commas, or as a list of such texts.
-/

namespace Shorthand

/-- The names in a text, without the blanks around them. -/
def namesIn (text : List Char) : List (List Char) :=
  ((splitAt ',' text).map strip).filter (!·.isEmpty)

def names (text : String) : List String := (namesIn text.toList).map String.ofList

def itemNames : Value → List String
  | .str text => names text
  | _ => []

/-- The names that a value lists. -/
def normalizeNames : Value → List String
  | .str text => names text
  | .list items => items.flatMap itemNames
  | _ => []

end Shorthand
