import Shorthand.Markup.Resolve
import Shorthand.Text.Word

/-!
# Markup layout

Resolved nodes are written as tags.  Block elements stand on lines of their own,
indented below their parents; inline elements share a line as long as there are
few of them.  Fields are numbered in the order in which they are written.
-/

namespace Shorthand.Markup

/-- What has been written so far. -/
structure Page where
  /-- The pieces, the last one first. -/
  pieces : List Piece
  /-- The depth of indentation. -/
  level : Nat
  /-- The number of line ends written. -/
  line : Nat
  /-- The number of the next field. -/
  field : Nat

/-- An action that writes. -/
abbrev Writer := StateT Page (Except Failure) Unit

def push (piece : Piece) : Writer :=
  modify fun page => { page with pieces := piece :: page.pieces }

/-- Ends the line and indents the next one. -/
def pushNewline (level : Nat) : Writer :=
  modify fun page =>
    { page with
      pieces := .text ('\n' :: List.replicate level '\t') :: page.pieces
      line := page.line + 1 }

/-- Ends the line and indents the next one as deep as the page stands. -/
def pushLine : Writer := do pushNewline (← get).level

def indent (step : Nat → Nat) : Writer :=
  modify fun page => { page with level := step page.level }

/-- The lines of a text, cut at line feeds and carriage returns. -/
def textLines : List Char → List (List Char)
  | [] => [[]]
  | '\r' :: '\n' :: rest => [] :: textLines rest
  | c :: rest =>
    if c == '\n' || c == '\r' then [] :: textLines rest
    else
      match textLines rest with
      | [] => [[c]]
      | line :: lines => (c :: line) :: lines

/-- Writes lines, each but the first on a new line. -/
def pushLines : List (List Char) → Writer
  | [] => pure ()
  | [line] => push (.text line)
  | line :: rest => do
    push (.text line)
    pushLine
    pushLines rest

/-- Writes a text with its own line breaks indented. -/
def pushText (text : List Char) : Writer := pushLines (textLines text)

/-- Writes a part with its field numbered from the page's next field on. -/
def pushPart : Part → Writer
  | .text text => pushText text
  | .field index placeholder => do
    push (.field (some ((← get).field + index)) placeholder)

/-- The numbers of the fields among parts. -/
def fieldIndices (parts : List Part) : List Nat :=
  parts.filterMap fun part =>
    match part with
    | .field index _ => some index
    | .text _ => none

/-- Writes parts.  The next field is numbered above all of theirs. -/
def pushParts (parts : List Part) : Writer := do
  parts.forM pushPart
  match fieldIndices parts with
  | [] => pure ()
  | index :: rest =>
    modify fun page => { page with field := page.field + rest.foldl max index + 1 }

/-- Writes the place for an input that has no text yet. -/
def pushCaret : Writer := pushParts [.field 0 []]

/-- The attributes whose presence is their value. -/
def booleanNames : List String :=
  ["contenteditable", "seamless", "async", "autofocus", "autoplay", "checked", "controls",
    "defer", "disabled", "formnovalidate", "hidden", "ismap", "loop", "multiple", "muted",
    "novalidate", "readonly", "required", "reversed", "selected", "typemustmatch"]

/-- Whether an attribute without a value takes its name as value. -/
def Attribute.repeatsName (attr : Attribute) : Bool :=
  attr.isBoolean || booleanNames.any (·.toList == lower attr.name)

/-- Writes an attribute.  One without a name, and an implied one without a value,
leaves no trace. -/
def pushAttribute (attr : Attribute) : Writer := do
  let parts := attr.value.getD []
  if attr.name.isEmpty || (attr.isImplied && attr.delimiter = .bare && parts.isEmpty) then
    return
  let (left, right) := if attr.delimiter = .braces then ('{', '}') else ('"', '"')
  pushText (' ' :: attr.name)
  pushText ['=', left]
  if !parts.isEmpty then pushParts parts
  else if attr.repeatsName then pushParts [.text attr.name]
  else pushCaret
  pushText [right]

def Part.hasNewline : Part → Bool
  | .text chars => chars.contains '\n' || chars.contains '\r'
  | .field _ _ => false

/-- Whether a node is a text without an element. -/
def Node.isText (node : Node) : Bool := node.name.isEmpty && node.attributes.isEmpty

/-- Whether a node flows within a line. -/
def Node.isInline (node : Node) : Bool :=
  if node.name.isEmpty then !node.parts.isEmpty && node.attributes.isEmpty
  else isInlineName node.name

/-- Whether a text starts with the tag of a block element. -/
def startsWithBlockTag : List Part → Bool
  | .text ('<' :: text) :: _ =>
    let isTagChar (c : Char) : Bool := isWordChar c || c == '-' || c == ':'
    let name := text.takeWhile isTagChar
    !name.isEmpty && !isInlineName name &&
      match text.dropWhile isTagChar with
      | c :: _ => isBlank c || c == '>'
      | [] => false
  | _ => false

/-- The least number of adjacent inline elements that stand on lines of their own. -/
def inlineBreak : Nat := 3

mutual

/-- Whether a node goes on a new line.  `before` lists its preceding siblings, the
nearest first, and `after` those that follow. -/
def Node.breaksLine (parent : Option Node) (before : List Node) : Node → List Node →
    Except Failure Bool
  | ⟨name, value, attributes, children, selfClosing⟩, after => do
    let node : Node := ⟨name, value, attributes, [], selfClosing⟩
    let isText (other : Option Node) : Bool := (other.map Node.isText).getD false
    if before.isEmpty && parent.isNone then return false
    if isText parent && before.isEmpty && after.isEmpty then return false
    if node.isText then
      if isText before.head? || isText after.head? then return true
      match value with
      | none => throw .internal
      | some parts =>
        if parts.any Part.hasNewline then return true
        if parts.any Part.isField && !children.isEmpty then return true
    if !node.isInline then return true
    match before with
    | [] => if after.any (!·.isInline) then return true
    | previous :: _ => if !previous.isInline then return true
    let adjacent := (before.takeWhile Node.isInline).length + 1 +
      (after.takeWhile Node.isInline).length
    if adjacent ≥ inlineBreak then return true
    anyBreaksLine parent [] children

/-- Whether one of the nodes behind `before` goes on a new line. -/
def anyBreaksLine (parent : Option Node) (before : List Node) : List Node → Except Failure Bool
  | [] => return false
  | node :: rest => do
    if ← node.breaksLine parent before rest then return true
    anyBreaksLine parent (node :: before) rest

end

/-- How much deeper a node lies than its parent. -/
def indentBelow : Option Node → Nat
  | none => 0
  | some parent => if parent.isText || parent.name == "html".toList then 0 else 1

/-- Writes what stands within a line, or on lines of its own one level deeper. -/
def pushInner (onLines : Bool) (inner : Writer) : Writer := do
  if onLines then
    indent (· + 1)
    pushLine
    inner
    indent (· - 1)
    pushLine
  else inner

/-- Writes the text of a node around what hangs below it, which takes the place of
the first field. -/
def pushAround (parts : List Part) (below : Writer) : Writer := do
  pushParts (parts.takeWhile (!·.isField))
  let line := (← get).line
  below
  let rest := (parts.dropWhile (!·.isField)).drop 1
  match rest with
  | .text text :: more =>
    if (← get).line != line then
      pushText (stripStart text)
      pushParts more
    else pushParts rest
  | _ => pushParts rest

/-- Writes the content of an element. -/
def pushContent (node : Node) (hasChildren : Bool) (below : Writer) : Writer := do
  let parts := node.parts
  if hasChildren && parts.any Part.isField then pushAround parts below
  else
    if !parts.isEmpty then
      pushInner (parts.any Part.hasNewline || startsWithBlockTag parts) (pushParts parts)
    below
    if parts.isEmpty && !hasChildren then pushInner (node.name == "body".toList) pushCaret

/-- Writes a node without the lines around it. -/
def pushNode (node : Node) (hasChildren : Bool) (below : Writer) : Writer := do
  if node.name.isEmpty then
    let parts := node.parts
    if hasChildren && parts.any Part.isField then pushAround parts below
    else if !parts.isEmpty then
      pushParts parts
      below
  else
    pushText ('<' :: node.name)
    node.attributes.forM pushAttribute
    pushText ['>']
    if !(node.selfClosing && !hasChildren && node.parts.isEmpty) then
      pushContent node hasChildren below
      pushText ('<' :: '/' :: node.name ++ ['>'])

mutual

/-- Writes a node among its siblings. -/
def Node.write (parent : Option Node) (before : List Node) : Node → List Node → Writer
  | ⟨name, value, attributes, children, selfClosing⟩, after => do
    let node : Node := ⟨name, value, attributes, children, selfClosing⟩
    let breaks ← StateT.lift (node.breaksLine parent before after)
    let depth := indentBelow parent
    indent (· + depth)
    if breaks then pushLine
    pushNode node (!children.isEmpty) (writeAll (some node) [] children)
    match parent with
    | some parent =>
      if breaks && after.isEmpty then
        pushNewline ((← get).level - if parent.isText then 0 else 1)
    | none => pure ()
    indent (· - depth)

/-- Writes the nodes behind `before`. -/
def writeAll (parent : Option Node) (before : List Node) : List Node → Writer
  | [] => pure ()
  | node :: rest => do
    node.write parent before rest
    writeAll parent (node :: before) rest

end

/-- The expansion of resolved nodes. -/
def layout (nodes : List Node) : Except Failure Expansion := do
  let ((), page) ← (writeAll none [] nodes).run ⟨[], 0, 0, 1⟩
  return page.pieces.reverse

def expand (abbreviation : List Char) : Except Failure Expansion := do
  layout (← Node.resolve abbreviation)

end Shorthand.Markup
