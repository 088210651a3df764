import Shorthand.Stylesheet.Resolve

/-!
# Stylesheet layout

Each resolved property is written on a line of its own.
-/

namespace Shorthand.Stylesheet

def Atom.pieces : Atom → Expansion
  | .literal word => [.text word]
  | .number value _ unit => [.text (Decimal.atMost 4 value ++ unit)]
  | .color shares => [.text shares.text]
  | .string chars mark => [.text (mark :: chars ++ [mark])]
  | .field stop => [.field (stop.index.map Int.ofNat) stop.text]

/-- Whether a blank stands in front of a term behind one that stopped at `stop`.
A field that was written right behind it follows it closely. -/
def Term.isApart (stop : Option Nat) : Term → Bool
  | .atom (.field _) span => span.map (·.1) != stop
  | _ => true

/-- Where a term stopped, if it was written. -/
def Term.stopsAt : Term → Option Nat
  | .atom _ span => span.map (·.2)
  | .call _ _ => none

/-- A blank in front of a term, unless the term is the first or follows closely. -/
def gap (previous : Option Term) (term : Term) : Expansion :=
  match previous with
  | none => []
  | some previous => if term.isApart previous.stopsAt then [.text [' ']] else []

/-- A comma in front of a value that is not the first. -/
def comma (isFirst : Bool) : Expansion := if isFirst then [] else [.text [',', ' ']]

mutual

def Term.pieces : Term → Expansion
  | .atom atom _ => atom.pieces
  | .call name arguments =>
    .text (name ++ ['(']) :: argumentPieces true arguments ++ [.text [')']]

def termPieces (previous : Option Term) : List Term → Expansion
  | [] => []
  | term :: rest => gap previous term ++ term.pieces ++ termPieces (some term) rest

def argumentPieces (isFirst : Bool) : List (List Term) → Expansion
  | [] => []
  | value :: rest => comma isFirst ++ termPieces none value ++ argumentPieces false rest

end

def Property.pieces (property : Property) : Expansion :=
  let mark := "!important".toList
  if property.name.isEmpty then
    property.values.flatten.flatMap Term.pieces ++
      (if !property.isImportant then []
       else if property.values.isEmpty then [.text mark]
       else [.text (' ' :: mark)])
  else
    .text (property.name ++ [':', ' ']) ::
      (if property.values.isEmpty then [.field (some 0) []]
       else argumentPieces true property.values) ++
      (if property.isImportant then [.text (' ' :: mark)] else []) ++ [.text [';']]

/-- Properties written out, each on a line of its own. -/
def linePieces : List Property → Expansion
  | [] => []
  | [property] => property.pieces
  | property :: rest => property.pieces ++ .text ['\n'] :: linePieces rest

def expand (abbreviation : List Char) : Except Failure Expansion := do
  return linePieces ((← Property.ofAbbreviation abbreviation).filterMap Property.resolve)

end Shorthand.Stylesheet
