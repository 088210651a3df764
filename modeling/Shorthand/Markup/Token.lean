import Shorthand.Field

/-!
# Markup tokens

An abbreviation of the markup grammar is read as tokens.  What a character means
depends on the brackets and quotes around it: inside braces nearly everything is
text, inside square brackets only the equals sign keeps a meaning of its own.
-/

namespace Shorthand.Markup

inductive Operator
  | child
  | sibling
  | climb
  | className
  | identifier
  | close
  | equal
  deriving DecidableEq, Repr

def Operator.ofChar? : Char → Option Operator
  | '>' => some .child
  | '+' => some .sibling
  | '^' => some .climb
  | '.' => some .className
  | '#' => some .identifier
  | '/' => some .close
  | '=' => some .equal
  | _ => none

def Operator.toChar : Operator → Char
  | .child => '>'
  | .sibling => '+'
  | .climb => '^'
  | .className => '.'
  | .identifier => '#'
  | .close => '/'
  | .equal => '='

/-- What a pair of brackets encloses. -/
inductive Enclosure
  | group
  | attributes
  | text
  deriving DecidableEq, Repr

/-- The kind of a bracket, and whether it opens. -/
def Enclosure.ofChar? : Char → Option (Enclosure × Bool)
  | '(' => some (.group, true)
  | ')' => some (.group, false)
  | '[' => some (.attributes, true)
  | ']' => some (.attributes, false)
  | '{' => some (.text, true)
  | '}' => some (.text, false)
  | _ => none

/-- A place that takes the number of a repetition. -/
structure Counter where
  /-- The least number of digits. -/
  size : Nat
  /-- Whether the last repetition has the lowest number. -/
  reverse : Bool
  /-- The lowest number. -/
  base : Nat
  /-- How many repetitions further out also count. -/
  parent : Nat
  deriving DecidableEq, Repr

inductive Lexeme
  | literal (text : List Char)
  | field (index : Nat) (placeholder : List Char)
  | variableField (name : List Char)
  /-- A place for text given along with the abbreviation. -/
  | insertion
  | counter (counter : Counter)
  /-- A repetition; one without a number follows the given text. -/
  | repeater (times : Option Nat)
  | space (text : List Char)
  | operator (operator : Operator)
  | quote (mark : Char)
  | bracket (enclosure : Enclosure) (opens : Bool)
  deriving DecidableEq, Repr

/-- The name of a token's kind in messages. -/
def Lexeme.kind : Lexeme → String
  | .literal _ => "Literal"
  | .field _ _ => "Field"
  | .variableField _ => "Field"
  | .insertion => "RepeaterPlaceholder"
  | .counter _ => "RepeaterNumber"
  | .repeater _ => "Repeater"
  | .space _ => "WhiteSpace"
  | .operator _ => "Operator"
  | .quote _ => "Quote"
  | .bracket _ _ => "Bracket"

/-- A token and where it starts. -/
structure Token where
  lexeme : Lexeme
  start : Nat
  deriving DecidableEq, Repr

/-- What the characters read so far have opened.  A closing bracket without its
partner counts below zero. -/
structure Context where
  /-- The square brackets that are open. -/
  lists : Int
  /-- The braces that are open. -/
  braces : Int
  /-- The quotation mark that is open. -/
  quote : Option Char
  deriving DecidableEq, Repr

/-- Whether a character quotes attribute values. -/
def isQuoteMark (c : Char) : Bool := c == '\'' || c == '"'

def isNameChar (c : Char) : Bool :=
  c.isAlpha || isDecimal c || "_-:!ÄÖÜäöü".toList.contains c

/-- Whether a character is an operator in this context.  Quoted and braced text
has no operators, an attribute list only the equals sign. -/
def Context.isOperator (context : Context) (c : Char) : Bool :=
  match Operator.ofChar? c with
  | none => false
  | some operator =>
    context.quote.isNone && context.braces == 0 &&
      (context.lists == 0 || operator == .equal)

def Lexeme.ofField : Field → Lexeme
  | ⟨some index, text⟩ => .field index text
  | ⟨none, text⟩ => .variableField text

/-- The counter behind its dollar signs, and what follows. -/
def counterBody (size : Nat) : List Char → Counter × List Char
  | '@' :: chars =>
    let climbs := chars.takeWhile (· == '^')
    let chars := chars.dropWhile (· == '^')
    let (reverse, chars) :=
      match chars with
      | '-' :: rest => (true, rest)
      | _ => (false, chars)
    let digits := chars.takeWhile isDecimal
    let base := if digits.isEmpty then 1 else decimalNumber digits
    (⟨size, reverse, base, climbs.length⟩, chars.dropWhile isDecimal)
  | chars => (⟨size, false, 1, 0⟩, chars)

/-- Whether a character ends a literal outside of braces. -/
def Context.endsLiteral (context : Context) (c : Char) : Bool :=
  context.quote.isNone &&
    ((context.lists == 0 && !isNameChar c) || isSpace c ||
      (c == '*' && context.lists == 0) || isQuoteMark c ||
      (Enclosure.ofChar? c).isSome)

def pushLiteral (c : Char) (result : List Char × Int × List Char) :
    List Char × Int × List Char :=
  (c :: result.1, result.2)

/-- Whether a slash at the head of a text stands between two digits, where it is
part of a class name. -/
def Context.keepsSlash (context : Context) (previous : Option Char) : List Char → Bool
  | '/' :: next :: _ =>
    context.quote.isNone && context.braces == 0 && context.lists == 0 &&
      (previous.map isDecimal).getD false && isDecimal next
  | _ => false

/-- The literal at the head of a text, with `depth` braces open, the depth behind
it, and what follows.  A literal that starts inside braces takes inner pairs of
braces along. -/
def literalFrom (context : Context) (depth : Int) :
    Option Char → List Char → List Char × Int × List Char
  | _, [] => ([], depth, [])
  | _, ['\\'] => ([], depth, [])
  | _, '\\' :: c :: rest => pushLiteral c (literalFrom context depth (some c) rest)
  | previous, c :: rest =>
    let here : Context := { context with braces := depth }
    if here.keepsSlash previous (c :: rest) then
      pushLiteral c (literalFrom context depth (some c) rest)
    else if context.quote == some c || c == '$' || here.isOperator c then ([], depth, c :: rest)
    else if context.braces != 0 then
      if c == '{' then pushLiteral c (literalFrom context (depth + 1) (some c) rest)
      else if c == '}' then
        if depth > context.braces then
          pushLiteral c (literalFrom context (depth - 1) (some c) rest)
        else ([], depth, c :: rest)
      else pushLiteral c (literalFrom context depth (some c) rest)
    else if context.endsLiteral c then ([], depth, c :: rest)
    else pushLiteral c (literalFrom context depth (some c) rest)

def literal (context : Context) (previous : Option Char) (chars : List Char) :
    List Char × Int × List Char :=
  literalFrom context context.braces previous chars

def Context.quoted (context : Context) (mark : Char) : Context :=
  { context with quote := if context.quote == some mark then none else some mark }

def Context.enclosed (context : Context) (enclosure : Enclosure) (opens : Bool) : Context :=
  let step : Int := if opens then 1 else -1
  match enclosure with
  | .group => context
  | .attributes => { context with lists := context.lists + step }
  | .text => { context with braces := context.braces + step }

/-- The token at the head of a text that is no field, the context behind it, and
what follows. -/
def nextLexeme (context : Context) (previous : Option Char) (chars : List Char) :
    Except Failure (Lexeme × Context × List Char) :=
  match chars with
  | [] => .error .scanner
  | '$' :: '#' :: rest => .ok (.insertion, context, rest)
  | '$' :: _ =>
    let size := (chars.takeWhile (· == '$')).length
    let (counter, rest) := counterBody size (chars.dropWhile (· == '$'))
    .ok (.counter counter, context, rest)
  | '*' :: rest =>
    let digits := rest.takeWhile isDecimal
    .ok (.repeater (if digits.isEmpty then none else some (decimalNumber digits)), context,
      rest.dropWhile isDecimal)
  | c :: rest =>
    if isSpace c then .ok (.space (chars.takeWhile isSpace), context, chars.dropWhile isSpace)
    else
      let (text, depth, after) := literal context previous chars
      if after.length < chars.length then
        .ok (.literal text, { context with braces := depth }, after)
      else
        match Operator.ofChar? c with
        | some operator => .ok (.operator operator, context, rest)
        | none =>
          if isQuoteMark c then .ok (.quote c, context.quoted c, rest)
          else
            match Enclosure.ofChar? c with
            | some (enclosure, opens) =>
              .ok (.bracket enclosure opens, context.enclosed enclosure opens, rest)
            | none => .error .scanner

/-- The token at the head of a text.  Fields are read in braces and attribute lists. -/
def nextToken (context : Context) (previous : Option Char) (chars : List Char) :
    Except Failure (Lexeme × Context × List Char) :=
  match chars with
  | '$' :: '{' :: rest =>
    if context.braces != 0 || context.lists != 0 then
      (Field.read rest).map fun (field, after) => (.ofField field, context, after)
    else nextLexeme context previous chars
  | _ => nextLexeme context previous chars

/-- The tokens of a text that lies at `position`.  Each token takes a character at
least, so the length of the text bounds their number. -/
def tokensFrom : Nat → Context → Option Char → Nat → List Char → Except Failure (List Token)
  | _, _, _, _, [] => .ok []
  | 0, _, _, _, _ => .error .scanner
  | fuel + 1, context, previous, position, chars => do
    let (lexeme, context, rest) ← nextToken context previous chars
    let taken := chars.length - rest.length
    let tokens ← tokensFrom fuel context (chars.take taken).getLast? (position + taken) rest
    return ⟨lexeme, position⟩ :: tokens

def tokens (abbreviation : List Char) : Except Failure (List Token) :=
  tokensFrom abbreviation.length ⟨0, 0, none⟩ none 0 abbreviation

end Shorthand.Markup
