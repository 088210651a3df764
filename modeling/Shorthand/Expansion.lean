/-!
# Expansions

An expansion is a sequence of literal texts and tab stops.  It has two
renditions: snippet text, in which a tab stop is written out, and preview text,
in which it shows its placeholder only.
-/

namespace Shorthand

/-- A part of an expansion. -/
inductive Piece
  /-- Text that stands for itself. -/
  | text (chars : List Char)
  /-- A tab stop.  An unnumbered one comes from a field that names a variable. -/
  | field (index : Option Int) (placeholder : List Char)
  deriving DecidableEq, Repr

/-- The parts of an expansion in order. -/
abbrev Expansion := List Piece

/-- How an expansion is written out. -/
inductive Rendition
  | snippet
  | preview
  deriving DecidableEq, Repr

/-- The number of a tab stop as snippet text writes it. -/
def fieldIndex : Option Int → List Char
  | some index => (toString index).toList
  | none => "None".toList

/-- A tab stop in snippet text. -/
def snippetField (index : Option Int) (placeholder : List Char) : List Char :=
  '$' :: '{' :: fieldIndex index ++
    (if placeholder.isEmpty then [] else ':' :: placeholder) ++ ['}']

def Piece.snippet : Piece → List Char
  | .text chars => chars
  | .field index placeholder => snippetField index placeholder

def Piece.preview : Piece → List Char
  | .text chars => chars
  | .field _ placeholder => placeholder

def Piece.render : Rendition → Piece → List Char
  | .snippet => Piece.snippet
  | .preview => Piece.preview

/-- The text of an expansion in a rendition. -/
def Expansion.render (rendition : Rendition) (expansion : Expansion) : List Char :=
  expansion.flatMap (Piece.render rendition)

end Shorthand
