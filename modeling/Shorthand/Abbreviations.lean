import Shorthand.Engine
import Shorthand.Extraction
import Shorthand.Markup.Layout
import Shorthand.Stylesheet.Layout

/-!
# Abbreviations

The engine for abbreviations of both grammars.
-/

namespace Shorthand

/-- The engine that knows the two grammars.  It expands to the same parts for each
rendition. -/
def abbreviations : Engine where
  extract grammar line position := .ok (Extraction.extract grammar line position)
  expand
    | .markup, _, abbreviation => Markup.expand abbreviation
    | .stylesheet, _, abbreviation => Stylesheet.expand abbreviation

end Shorthand
