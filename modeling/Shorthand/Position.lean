import Shorthand.Text.Lines
import Shorthand.Text.Units

/-!
# Positions

Positions of a document, counted in characters here and in code units by clients.
-/

namespace Shorthand

/-- A place in a document by line and character. -/
structure Position where
  line : Nat
  character : Nat
  deriving DecidableEq, Repr

structure Range where
  start : Position
  stop : Position
  deriving DecidableEq, Repr

/-- The highest line and character that a position may have. -/
def maxCoordinate : Nat := 2147483647

/-- A coordinate that no position may have. -/
structure OutOfRange where
  coordinate : String
  value : Int
  deriving DecidableEq, Repr

def OutOfRange.message (error : OutOfRange) : List Char :=
  s!"Position.{error.coordinate} should be in range [0:2147483647], but was {error.value}.".toList

/-- A coordinate within bounds. -/
def coordinate (name : String) (value : Int) : Except OutOfRange Nat :=
  if 0 ≤ value ∧ value ≤ maxCoordinate then .ok value.toNat else .error ⟨name, value⟩

/-- The position of a line and a character.  The line is checked first. -/
def Position.of (line character : Int) : Except OutOfRange Position := do
  let line ← coordinate "line" line
  let character ← coordinate "character" character
  return ⟨line, character⟩

/-- The range between two places.  The start is checked first. -/
def Range.of (startLine startCharacter stopLine stopCharacter : Int) :
    Except OutOfRange Range := do
  let start ← Position.of startLine startCharacter
  let stop ← Position.of stopLine stopCharacter
  return ⟨start, stop⟩

/-- The text of a line as a client counts it, with one character for its break. -/
def Line.clientText (line : Line) : List Char :=
  line.body ++ if line.terminator = ['\r', '\n'] then ['\n'] else line.terminator

/-- A client's position in characters.  Beyond the last line it is the end of
that; beyond a line's end it is the place before its last unit. -/
def Position.fromClient (encoding : Encoding) (lines : List Line) (position : Position) :
    Position :=
  match lines[position.line]? with
  | some line =>
    let text := line.clientText
    let size := encoding.units text
    let target := if position.character > size then size - 1 else position.character
    ⟨position.line, encoding.charsWithin text target⟩
  | none =>
    match lines.getLast? with
    | some line => ⟨lines.length - 1, encoding.units line.text⟩
    | none => ⟨0, 0⟩

/-- A position in a client's units.  Beyond the last line it is the start of the
line behind that. -/
def Position.toClient (encoding : Encoding) (lines : List Line) (position : Position) :
    Position :=
  match lines[position.line]? with
  | some line => ⟨position.line, encoding.units (line.text.take position.character)⟩
  | none => ⟨lines.length, 0⟩

def Range.toClient (encoding : Encoding) (lines : List Line) (range : Range) : Range :=
  ⟨range.start.toClient encoding lines, range.stop.toClient encoding lines⟩

end Shorthand
