/-!
# Lines

A text is cut behind each line break.  A line keeps its terminator apart from
its body, and only the last line of a text may lack one.
-/

namespace Shorthand

/-- Whether a character ends a line. -/
def isLineBreak (c : Char) : Bool :=
  let n := c.toNat
  (0x0a ≤ n && n ≤ 0x0d) || (0x1c ≤ n && n ≤ 0x1e) || n == 0x85 || n == 0x2028 || n == 0x2029

structure Line where
  /-- The line without what ends it. -/
  body : List Char
  /-- The break that ends the line, empty at the end of a text. -/
  terminator : List Char
  deriving DecidableEq, Repr

def Line.text (line : Line) : List Char := line.body ++ line.terminator

/-- The lines that arise when a character is put in front of a text's lines. -/
def Line.pushFront (c : Char) : List Line → List Line
  | [] => [⟨[c], []⟩]
  | line :: rest => ⟨c :: line.body, line.terminator⟩ :: rest

/-- The lines of a text.  A carriage return and the line feed behind it are one break. -/
def splitLines : List Char → List Line
  | [] => []
  | '\r' :: '\n' :: rest => ⟨[], ['\r', '\n']⟩ :: splitLines rest
  | c :: rest =>
    if isLineBreak c then ⟨[], [c]⟩ :: splitLines rest
    else Line.pushFront c (splitLines rest)

def firstLine (text : List Char) : List Char :=
  match splitLines text with
  | [] => []
  | line :: _ => line.body

/-- The body of a document's line, empty where the document has no such line. -/
def documentLine (lines : List (List Char)) (number : Int) : List Char :=
  if number < 0 then []
  else
    match lines[number.toNat]? with
    | none => []
    | some text => firstLine text

/-- A text with every line break of a text file written as a line feed. -/
def universalNewlines : List Char → List Char
  | [] => []
  | '\r' :: '\n' :: rest => '\n' :: universalNewlines rest
  | c :: rest => (if c == '\r' then '\n' else c) :: universalNewlines rest

end Shorthand
