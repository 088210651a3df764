import Shorthand.Toml.Scalar

/-!
# TOML texts

Texts between quotation marks, on one line or on several.
-/

namespace Shorthand.Toml

/-- Whether a character is a control that texts and comments do not hold. -/
def isControl (c : Char) : Bool := (c.toNat < 0x20 && c != '\t') || c.toNat == 0x7f

def isWhite (c : Char) : Bool := c == ' ' || c == '\t'

def isWhiteOrNewline (c : Char) : Bool := isWhite c || c == '\n'

/-- A character by the digits of its code point. -/
def codePoint (count : Nat) (text : List Char) : Except Error (Char × List Char) :=
  let digits := text.take count
  let n := number 16 digits
  if digits.length = count && digits.all isHexDigit && n.isValidChar then
    .ok (Char.ofNat n, text.drop count)
  else .error .invalid

/-- What stands behind the backslash at a line's end: nothing up to the next
visible character. -/
def lineEnding (text : List Char) : Except Error (List Char × List Char) :=
  match text.dropWhile isWhite with
  | [] => .ok ([], [])
  | '\n' :: rest => .ok ([], rest.dropWhile isWhiteOrNewline)
  | _ => .error .invalid

/-- The characters of an escape behind its backslash. -/
def escape (isMultiline : Bool) (text : List Char) : Except Error (List Char × List Char) :=
  match text with
  | 'b' :: rest => .ok (['\x08'], rest)
  | 't' :: rest => .ok (['\t'], rest)
  | 'n' :: rest => .ok (['\n'], rest)
  | 'f' :: rest => .ok (['\x0c'], rest)
  | 'r' :: rest => .ok (['\r'], rest)
  | '"' :: rest => .ok (['"'], rest)
  | '\\' :: rest => .ok (['\\'], rest)
  | 'u' :: rest => (codePoint 4 rest).map fun (c, rest) => ([c], rest)
  | 'U' :: rest => (codePoint 8 rest).map fun (c, rest) => ([c], rest)
  | c :: _ => if isMultiline && isWhiteOrNewline c then lineEnding text else .error .invalid
  | [] => .error .invalid

/-- The text up to its closing quotation mark or marks. -/
def basicText (isMultiline : Bool) : Nat → List Char → Except Error (List Char × List Char)
  | 0, _ => .error .invalid
  | _, [] => .error .invalid
  | fuel + 1, '"' :: rest =>
    if !isMultiline then .ok ([], rest)
    else
      match rest with
      | '"' :: '"' :: rest => .ok ([], rest)
      | _ => (basicText isMultiline fuel rest).map fun (text, rest) => ('"' :: text, rest)
  | fuel + 1, '\\' :: rest => do
    let (head, rest) ← escape isMultiline rest
    let (tail, rest) ← basicText isMultiline fuel rest
    return (head ++ tail, rest)
  | fuel + 1, c :: rest =>
    if isControl c && !(isMultiline && c == '\n') then .error .invalid
    else (basicText isMultiline fuel rest).map fun (text, rest) => (c :: text, rest)

/-- The text up to the next apostrophe. -/
def literalText : List Char → Except Error (List Char × List Char)
  | [] => .error .invalid
  | '\'' :: rest => .ok ([], rest)
  | c :: rest =>
    if isControl c then .error .invalid
    else (literalText rest).map fun (text, rest) => (c :: text, rest)

/-- The text up to the next three apostrophes. -/
def literalLines : List Char → Except Error (List Char × List Char)
  | [] => .error .invalid
  | '\'' :: '\'' :: '\'' :: rest => .ok ([], rest)
  | c :: rest =>
    if isControl c && c != '\n' then .error .invalid
    else (literalLines rest).map fun (text, rest) => (c :: text, rest)

/-- A text on several lines with up to two more quotation marks at its end. -/
def withMarks (mark : Char) (text : List Char) : List Char → List Char × List Char
  | a :: b :: rest =>
    if a != mark then (text, a :: b :: rest)
    else if b != mark then (text ++ [mark], b :: rest)
    else (text ++ [mark, mark], rest)
  | [a] => if a == mark then (text ++ [mark], []) else (text, [a])
  | [] => (text, [])

def dropNewline : List Char → List Char
  | '\n' :: rest => rest
  | text => text

def quotedText (text : List Char) : Except Error (List Char × List Char) :=
  match text with
  | '"' :: '"' :: '"' :: rest => do
    let (text, rest) ← basicText true (rest.length + 1) (dropNewline rest)
    return withMarks '"' text rest
  | '\'' :: '\'' :: '\'' :: rest => do
    let (text, rest) ← literalLines (dropNewline rest)
    return withMarks '\'' text rest
  | '"' :: rest => basicText false (rest.length + 1) rest
  | '\'' :: rest => literalText rest
  | _ => .error .invalid

end Shorthand.Toml
