import Shorthand.Position
import Shorthand.Scan
import Shorthand.Text.Quoted

/-!
# Rendering

An abbreviation is rendered as the snippet to insert, the preview to show and the
range to replace.
-/

namespace Shorthand

/-- An abbreviation that the engine cannot expand. -/
structure ExpansionFailure where
  abbreviation : List Char
  grammar : Grammar
  cause : Failure
  deriving DecidableEq, Repr

def ExpansionFailure.message (failure : ExpansionFailure) : List Char :=
  "cannot expand ".toList ++ quoted failure.abbreviation ++ " as ".toList ++
    failure.grammar.name.toList ++ ':' :: ' ' :: failure.cause.message

/-- The text of an abbreviation's expansion. -/
def Engine.expandText (engine : Engine) (grammar : Grammar) (rendition : Rendition)
    (abbreviation : List Char) : Except ExpansionFailure (List Char) :=
  match engine.expand grammar rendition abbreviation with
  | .ok expansion => .ok (expansion.render rendition)
  | .error cause => .error ⟨abbreviation, grammar, cause⟩

/-- The range of an edit: empty in front of the abbreviation, or with `replaces`
up to the cursor. -/
def replacementRange (line start cursor : Int) (replaces : Bool) : Except OutOfRange Range :=
  Range.of line start line (if replaces then cursor else start)

structure Rendered where
  preview : List Char
  snippet : List Char
  range : Range
  deriving DecidableEq, Repr

inductive RenderError
  | expansion (failure : ExpansionFailure)
  | range (error : OutOfRange)
  deriving DecidableEq, Repr

/-- Where and how an abbreviation is rendered. -/
structure Placement where
  /-- The line of the document. -/
  line : Int
  /-- The end of the edit, by default the end of the abbreviation. -/
  cursor : Option Int
  /-- Whether the edit replaces the abbreviation. -/
  replaces : Bool
  /-- The range as the client counts it. -/
  mapRange : Range → Except OutOfRange Range

/-- An abbreviation with its snippet, its preview and its range, made in this order. -/
def render (engine : Engine) (grammar : Grammar) (placement : Placement)
    (abbreviation : Abbreviation) : Except RenderError Rendered :=
  let texts : Except ExpansionFailure (List Char × List Char) := do
    let snippet ← engine.expandText grammar .snippet abbreviation.text
    let preview ← engine.expandText grammar .preview abbreviation.text
    return (snippet, preview)
  match texts with
  | .error failure => .error (.expansion failure)
  | .ok (snippet, preview) =>
    let cursor := placement.cursor.getD (abbreviation.start + abbreviation.text.length)
    match (replacementRange placement.line abbreviation.start cursor placement.replaces).bind
        placement.mapRange with
    | .error error => .error (.range error)
    | .ok range => .ok ⟨preview, snippet, range⟩

end Shorthand
