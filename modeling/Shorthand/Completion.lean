import Shorthand.Record
import Shorthand.Render

/-!
# Completion

A line yields at most one item for each grammar.  A grammar that fails leaves a
warning and does not touch the others.
-/

namespace Shorthand

/-- The number of snippets among the kinds of items. -/
def snippetKind : Nat := 15

/-- The number of snippets among the formats of inserted text. -/
def snippetFormat : Nat := 2

/-- What an item carries along for whoever resolves it. -/
structure ItemData where
  range : Range
  textResult : List Char
  deriving DecidableEq, Repr

/-- A completion item. -/
structure Item where
  label : List Char
  detail : List Char
  /-- The preview text. -/
  documentation : List Char
  kind : Nat
  insertTextFormat : Nat
  /-- The range that the edit replaces. -/
  range : Range
  /-- The snippet text that the edit inserts. -/
  newText : List Char
  data : ItemData
  deriving DecidableEq, Repr

/-- The item of a rendered abbreviation.  It is labelled with what was typed, so
that a client filters by that. -/
def Item.of (abbreviation : List Char) (rendered : Rendered) : Item where
  label := abbreviation
  detail := abbreviation
  documentation := rendered.preview
  kind := snippetKind
  insertTextFormat := snippetFormat
  range := rendered.range
  newText := rendered.snippet
  data := ⟨rendered.range, rendered.snippet⟩

/-- Why a completion is given up. -/
inductive Abort
  | startOutside (error : StartOutside)
  | range (error : OutOfRange)
  deriving DecidableEq, Repr

def Abort.message : Abort → List Char
  | .startOutside error => error.message
  | .range error => error.message

/-- The abbreviation at a cursor.  A failed scan leaves a warning. -/
def extract (engine : Engine) (grammar : Grammar) (line : List Char) (cursor : Int) :
    Logged (Except StartOutside (Option Abbreviation)) :=
  match scan engine grammar line cursor with
  | .error error => ⟨.error error, []⟩
  | .ok (.found abbreviation) => ⟨.ok (some abbreviation), []⟩
  | .ok .declined => ⟨.ok none, []⟩
  | .ok (.fault fault) => ⟨.ok none, [.contained warningLevel fault.message]⟩

/-- A line in which completion is asked for. -/
structure LineContext where
  number : Int
  text : List Char
  cursor : Int
  replaces : Bool
  mapRange : Range → Except OutOfRange Range

/-- Where the abbreviation of a line is rendered. -/
def LineContext.placement (line : LineContext) : Placement :=
  ⟨line.number, some (clampCursor line.text line.cursor), line.replaces, line.mapRange⟩

/-- The item of a line for one grammar, if there is one. -/
def completionFor (engine : Engine) (line : LineContext) (grammar : Grammar) :
    Logged (Except Abort (Option Item)) :=
  match extract engine grammar line.text line.cursor with
  | ⟨.error error, records⟩ => ⟨.error (.startOutside error), records⟩
  | ⟨.ok none, records⟩ => ⟨.ok none, records⟩
  | ⟨.ok (some abbreviation), records⟩ =>
    match render engine grammar line.placement abbreviation with
    | .ok rendered => ⟨.ok (some (.of abbreviation.text rendered)), records⟩
    | .error (.expansion failure) =>
      ⟨.ok none, records ++ [.contained warningLevel failure.message]⟩
    | .error (.range error) => ⟨.error (.range error), records⟩

/-- The items of a line for grammars in order. -/
def completeLine (engine : Engine) (line : LineContext) :
    List Grammar → Logged (Except Abort (List Item))
  | [] => ⟨.ok [], []⟩
  | grammar :: rest =>
    match completionFor engine line grammar with
    | ⟨.error abort, records⟩ => ⟨.error abort, records⟩
    | ⟨.ok item, records⟩ =>
      let more := completeLine engine line rest
      ⟨more.result.map (item.toList ++ ·), records ++ more.records⟩

end Shorthand
