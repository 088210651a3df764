import Shorthand.Engine
import Shorthand.Text.DecimalDigit

/-!
# Extraction

The abbreviation that ends at a position of a line is sought backwards.  Brackets
must close within it, and the tag of a document does not belong to it.  Quotes
and brackets that an editor has closed in advance are passed over first.

Texts that are read backwards are lists with the nearest character first.
-/

namespace Shorthand.Extraction

def isQuoteMark (c : Char) : Bool := c == '\'' || c == '"'

/-- The bracket that opens what a bracket closes. -/
def partner? : Char → Option Char
  | ')' => some '('
  | ']' => some '['
  | '}' => some '{'
  | _ => none

/-- Whether a bracket counts in a grammar; a style sheet knows round ones only. -/
def counts (grammar : Grammar) (bracket : Char) : Bool :=
  grammar == .markup || bracket == '(' || bracket == ')'

/-- Whether a character closes a bracket in a grammar. -/
def closes (grammar : Grammar) (c : Char) : Bool := (partner? c).isSome && counts grammar c

/-- Whether a character opens a bracket in a grammar. -/
def opens (grammar : Grammar) (c : Char) : Bool :=
  (c == '(' || c == '[' || c == '{') && counts grammar c

/-- Whether a character may stand in an abbreviation. -/
def belongs (c : Char) : Bool :=
  c.isAlpha || isDecimal c || "#.*:$-_!@%^+>/".toList.contains c

/-- Whether a character is a blank between attributes. -/
def isGap (c : Char) : Bool := c == ' ' || c == '\t'

/-- Whether a character may stand in the name of a tag or an attribute. -/
def isTagNameChar (c : Char) : Bool := c.isAlpha || isDecimal c || c == ':' || c == '-'

/-- What lies before a name, if there is one. -/
def beforeName? (text : List Char) : Option (List Char) :=
  match text with
  | c :: _ => if isTagNameChar c then some (text.dropWhile isTagNameChar) else none
  | [] => none

/-- What lies before an equals sign and a name, if they are there. -/
def beforeAssigned? : List Char → Option (List Char)
  | '=' :: rest => beforeName? rest
  | _ => none

/-- What lies before a quotation mark without a backslash in front. -/
def beforeQuote? (mark : Char) : List Char → Option (List Char)
  | [] => none
  | c :: rest => if c == mark && rest.head? != some '\\' then some rest else beforeQuote? mark rest

/-- What lies before an attribute with a quoted value, if there is one. -/
def beforeQuoted? : List Char → Option (List Char)
  | mark :: rest =>
    if isQuoteMark mark then (beforeQuote? mark rest).bind beforeAssigned? else none
  | [] => none

/-- What lies before a value without quotes.  `open` lists the brackets to be
opened yet. -/
def beforeBare : List Char → List Char → List Char
  | _, [] => []
  | awaited, c :: rest =>
    match partner? c with
    | some bracket => beforeBare (bracket :: awaited) rest
    | none =>
      if c == '(' || c == '[' || c == '{' then
        match awaited with
        | bracket :: awaited => if bracket == c then beforeBare awaited rest else c :: rest
        | [] => c :: rest
      else if c == '=' || isGap c || isQuoteMark c then c :: rest
      else beforeBare awaited rest

/-- What lies before an attribute with a value without quotes, if there is one. -/
def beforeUnquoted? (text : List Char) : Option (List Char) :=
  let rest := beforeBare [] text
  if rest.length < text.length then beforeAssigned? rest else none

/-- Whether names and attributes lead back to the bracket that starts a tag. -/
def startsTag : Nat → List Char → Bool
  | 0, _ => false
  | _, [] => false
  | fuel + 1, text =>
    let text := text.dropWhile isGap
    match beforeName? text with
    | some ('/' :: rest) => rest.head? == some '<'
    | some ('<' :: _) => true
    | some ('=' :: rest) =>
      match beforeName? rest with
      | some rest => startsTag fuel rest
      | none => false
    | some (c :: rest) =>
      if isGap c then startsTag fuel rest else (beforeUnquoted? (c :: rest)).isSome
    | some [] => false
    | none =>
      match (beforeQuoted? text).orElse fun _ => beforeUnquoted? text with
      | some rest => startsTag fuel rest
      | none => false

/-- Whether a tag ends here. -/
def endsTag : List Char → Bool
  | '>' :: '/' :: rest => startsTag (rest.length + 1) rest
  | '>' :: rest => startsTag (rest.length + 1) rest
  | _ => false

/-- What lies before the abbreviation, and the brackets that it leaves to be
opened.  In braces everything belongs to it, in square brackets everything but
other brackets. -/
def beforeAbbreviation (grammar : Grammar) : List Char → List Char → List Char × List Char
  | awaited, [] => (awaited, [])
  | awaited, c :: rest =>
    if awaited.contains '{' && c != '{' then
      beforeAbbreviation grammar (if c == '}' then '{' :: awaited else awaited) rest
    else if closes grammar c then
      beforeAbbreviation grammar ((partner? c).getD c :: awaited) rest
    else if opens grammar c then
      match awaited with
      | bracket :: awaited =>
        if bracket == c then beforeAbbreviation grammar awaited rest else (awaited, c :: rest)
      | [] => ([], c :: rest)
    else if awaited.contains '[' || awaited.contains '{' then
      beforeAbbreviation grammar awaited rest
    else if endsTag (c :: rest) || !belongs c then (awaited, c :: rest)
    else beforeAbbreviation grammar awaited rest

/-- How many characters at the head of a text an editor closed in advance: a
quotation mark, then brackets. -/
def closedAhead (grammar : Grammar) : List Char → Nat
  | [] => 0
  | c :: rest =>
    if isQuoteMark c then (rest.takeWhile (closes grammar)).length + 1
    else ((c :: rest).takeWhile (closes grammar)).length

/-- Whether a character is an operator that starts no abbreviation. -/
def isLeadingOperator (c : Char) : Bool := c == '*' || c == '+' || c == '>' || c == '^'

/-- The abbreviation that ends at a position of a line, if there is one. -/
def extract (grammar : Grammar) (line : List Char) (position : Nat) : Option Found :=
  let position := min position line.length
  let stop := position + closedAhead grammar (line.drop position)
  let (awaited, before) := beforeAbbreviation grammar [] (line.take stop).reverse
  if awaited.isEmpty && before.length < stop then
    let abbreviation := ((line.take stop).drop before.length).dropWhile isLeadingOperator
    some ⟨(stop - abbreviation.length : Nat), abbreviation⟩
  else none

end Shorthand.Extraction
