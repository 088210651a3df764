import Shorthand.Engine
import Shorthand.Invariant

/-!
# Scanning a line

The abbreviation that a cursor completes.  The engine may find one, find none, or
fail; what it finds has to start within the line's text before the cursor.
-/

namespace Shorthand

/-- An abbreviation and where it starts in its line. -/
structure Abbreviation where
  start : Int
  text : List Char
  deriving DecidableEq, Repr

/-- A failure of the engine at a cursor of a line. -/
structure ScanFault where
  line : List Char
  cursor : Nat
  cause : Failure
  deriving DecidableEq, Repr

def ScanFault.message (fault : ScanFault) : List Char :=
  s!"scanner failed at offset {fault.cursor}: ".toList ++ fault.cause.message

inductive Scan
  | found (abbreviation : Abbreviation)
  | declined
  | fault (fault : ScanFault)
  deriving DecidableEq, Repr

/-- An abbreviation that does not start in the text before the cursor. -/
structure StartOutside where
  start : Int
  cursor : Nat
  deriving DecidableEq, Repr

def StartOutside.message (_ : StartOutside) : List Char :=
  violationMessage "extracted abbreviation starts outside the line prefix".toList

def clampCursor (line : List Char) (cursor : Int) : Nat := min line.length cursor.toNat

/-- The scan of a line at a cursor. -/
def scan (engine : Engine) (grammar : Grammar) (line : List Char) (cursor : Int) :
    Except StartOutside Scan :=
  let cursor := clampCursor line cursor
  if cursor = 0 then .ok .declined
  else
    match engine.extract grammar line cursor with
    | .error cause => .ok (.fault ⟨line, cursor, cause⟩)
    | .ok none => .ok .declined
    | .ok (some found) =>
      if found.abbreviation.isEmpty then .ok .declined
      else if 0 ≤ found.start ∧ found.start ≤ cursor then
        .ok (.found ⟨found.start, found.abbreviation⟩)
      else .error ⟨found.start, cursor⟩

end Shorthand
