/-!
# Grammars

Abbreviations are written in one of two grammars.
-/

namespace Shorthand

/-- The grammar of an abbreviation. -/
inductive Grammar
  /-- Elements of a document tree. -/
  | markup
  /-- Properties of a style sheet. -/
  | stylesheet
  deriving DecidableEq, Repr

/-- The name of a grammar in configurations and messages. -/
def Grammar.name : Grammar → String
  | .markup => "markup"
  | .stylesheet => "stylesheet"

end Shorthand
