import Shorthand.Expansion
import Shorthand.Grammar

/-!
# Expansion engines

An engine finds the abbreviation that ends at a position of a line, and expands
abbreviations.  Both may fail.
-/

namespace Shorthand

/-- Why an engine gave up. -/
inductive Failure
  /-- The text holds a character that begins no token, or a field that is not closed. -/
  | scanner
  /-- The markup grammar has no place for the token that starts here. -/
  | unexpectedCharacter (start : Nat)
  /-- An attribute list has no place for the token that starts here. -/
  | unexpectedToken (kind : String) (start : Nat)
  /-- A quoted attribute value has no end. -/
  | unclosedQuote (start : Nat)
  /-- The stylesheet grammar has no place for the token that starts here, if there is one. -/
  | misplacedToken (start : Option Nat)
  /-- The engine has no rule for what it met. -/
  | internal
  /-- A failure with words of its own. -/
  | reported (message : List Char)
  deriving DecidableEq, Repr

def Failure.message : Failure → List Char
  | .scanner => []
  | .unexpectedCharacter start => s!"Unexpected character at {start}".toList
  | .unexpectedToken kind start => s!"Unexpected \"{kind}\" token at {start}".toList
  | .unclosedQuote start => s!"Unclosed quote at {start}".toList
  | .misplacedToken (some start) => s!"Unexpected token at {start}".toList
  | .misplacedToken none => "Unexpected token".toList
  | .internal => "<engine internal error>".toList
  | .reported message => message

/-- What an engine found in a line. -/
structure Found where
  start : Int
  abbreviation : List Char
  deriving DecidableEq, Repr

/-- An engine, given by its answers. -/
structure Engine where
  /-- The abbreviation that ends at a position of a line, if there is one. -/
  extract : Grammar → List Char → Nat → Except Failure (Option Found)
  /-- The parts of an abbreviation's expansion, for a rendition. -/
  expand : Grammar → Rendition → List Char → Except Failure Expansion

/-- What an engine is told with an abbreviation. -/
structure EngineConfig where
  grammar : Grammar
  /-- How tab stops are written, where they are not left out. -/
  field : Option (Option Int → List Char → List Char)

def EngineConfig.of (grammar : Grammar) : Rendition → EngineConfig
  | .snippet => ⟨grammar, some snippetField⟩
  | .preview => ⟨grammar, none⟩

/-- The names of what an engine is told. -/
def EngineConfig.keys (config : EngineConfig) : List String :=
  if config.field.isSome then ["options", "type"] else ["type"]

end Shorthand
