import Shorthand.Decimal.Nearest
import Shorthand.Field

/-!
# Stylesheet tokens

An abbreviation of the stylesheet grammar is read as tokens: names, numbers with
units, colors, quoted texts and the signs between them.
-/

namespace Shorthand.Stylesheet

/-- The signs between names and values. -/
inductive Operator
  | sibling
  | important
  | comma
  | colon
  | dash
  deriving DecidableEq, Repr

def Operator.ofChar? : Char → Option Operator
  | '+' => some .sibling
  | '!' => some .important
  | ',' => some .comma
  | ':' => some .colon
  | '-' => some .dash
  | _ => none

/-- A color by its shares of red, green and blue, and how much it covers. -/
structure Color where
  red : Nat
  green : Nat
  blue : Nat
  alpha : Float

inductive Lexeme
  | literal (text : List Char)
  /-- A number, whether it was written with a point, and its unit. -/
  | number (value : Float) (isFractional : Bool) (unit : List Char)
  | color (color : Color)
  /-- A quoted text with its quotation mark. -/
  | string (text : List Char) (mark : Char)
  | field (field : Field)
  /-- A name that starts with two dashes. -/
  | custom (name : List Char)
  | operator (operator : Operator)
  | bracket (opens : Bool)
  | space

/-- A token and where it starts and stops. -/
structure Token where
  lexeme : Lexeme
  start : Nat
  stop : Nat

def isWordStart (c : Char) : Bool := c.isAlpha || c == '_'

/-- Whether a character continues a name with digits and dashes. -/
def isKeywordChar (c : Char) : Bool := isWordStart c || isDecimal c || c == '-'

/-- Whether a character continues a short name. -/
def isShortChar (c : Char) : Bool := isWordStart c || c == '%' || c == '/'

def isHexChar (c : Char) : Bool :=
  isDecimal c || ('a' ≤ c && c ≤ 'f') || ('A' ≤ c && c ≤ 'F')

def hexDigit (c : Char) : Nat :=
  match decimalValue? c with
  | some value => value
  | none => c.toLower.toNat - 'a'.toNat + 10

def hexPair (high low : Char) : Nat := hexDigit high * 16 + hexDigit low

/-- The color that digits in base sixteen write.  Few digits stand for more; many
are cut off. -/
def Color.ofDigits (alpha : Float) : List Char → Color
  | [] => ⟨0, 0, 0, alpha⟩
  | [a] => ⟨hexPair a a, hexPair a a, hexPair a a, alpha⟩
  | [a, b] => ⟨hexPair a b, hexPair a b, hexPair a b, alpha⟩
  | [a, b, c] => ⟨hexPair a a, hexPair b b, hexPair c c, alpha⟩
  | [a, b, c, d] => ⟨hexPair a b, hexPair c d, hexPair a b, alpha⟩
  | [a, b, c, d, e] => ⟨hexPair a b, hexPair c d, hexPair e a, alpha⟩
  | a :: b :: c :: d :: e :: f :: _ => ⟨hexPair a b, hexPair c d, hexPair e f, alpha⟩

/-- The number that digits in front of and behind a point write. -/
def decimalFraction (whole fraction : List Char) : Float :=
  Decimal.nearest (decimalNumber (whole ++ fraction)) (-(fraction.length : Int))

/-- The share that follows a color, if there is one, and what follows. -/
def colorAlpha : List Char → Option Float × List Char
  | '.' :: rest =>
    let digits := rest.takeWhile isDecimal
    (some (if digits.isEmpty then 1 else decimalFraction [] digits), rest.dropWhile isDecimal)
  | chars => (none, chars)

/-- The color behind its sign, and what follows; otherwise the sign is text. -/
def colorBody (chars : List Char) : Lexeme × List Char :=
  let digits := chars.takeWhile isHexChar
  if !digits.isEmpty then
    let (alpha, rest) := colorAlpha (chars.dropWhile isHexChar)
    (.color (.ofDigits (alpha.getD 1) digits), rest)
  else
    match chars with
    | 't' :: rest =>
      let (alpha, rest) := colorAlpha rest
      (.color (.ofDigits (alpha.getD 0) []), rest)
    | [] => (.color (.ofDigits 1 []), [])
    | _ =>
      match colorAlpha chars with
      | (some alpha, rest) => (.color (.ofDigits alpha []), rest)
      | (none, rest) => (.literal ['#'], rest)

/-- The unit at the head of a text, and what follows. -/
def takeUnit : List Char → List Char × List Char
  | '%' :: rest => (['%'], rest)
  | chars => (chars.takeWhile isWordStart, chars.dropWhile isWordStart)

/-- The number at the head of a text, if there is one, and what follows. -/
def takeNumber (chars : List Char) : Option (Lexeme × List Char) :=
  let (isNegative, body) :=
    match chars with
    | '-' :: rest => (true, rest)
    | _ => (false, chars)
  let whole := body.takeWhile isDecimal
  let finish (fraction : List Char) (isFractional : Bool) (rest : List Char) :=
    let size := decimalFraction whole fraction
    let (unit, rest) := takeUnit rest
    some (Lexeme.number (if isNegative then -size else size) isFractional unit, rest)
  match body.dropWhile isDecimal with
  | '.' :: rest =>
    let fraction := rest.takeWhile isDecimal
    if whole.isEmpty && fraction.isEmpty then none
    else finish fraction true (rest.dropWhile isDecimal)
  | rest => if whole.isEmpty then none else finish [] false rest

/-- The text up to a quotation mark, and what follows the mark. -/
def takeString (mark : Char) (chars : List Char) : List Char × List Char :=
  (chars.takeWhile (· != mark), (chars.dropWhile (· != mark)).drop 1)

/-- The literal at the head of a text, and what follows.  `isShort` tells that
digits and dashes end it, `isFirst` that it starts the abbreviation. -/
def takeLiteral (isShort isFirst : Bool) (chars : List Char) : List Char × List Char :=
  let span (head : List Char) (accepts : Char → Bool) (rest : List Char) :=
    (head ++ rest.takeWhile accepts, rest.dropWhile accepts)
  match chars with
  | [] => ([], [])
  | c :: rest =>
    if c == '@' || c == '$' then span [c] (if isFirst then isShortChar else isKeywordChar) rest
    else if isWordStart c then span [c] (if isShort then isShortChar else isKeywordChar) rest
    else if c == '.' then span [c] isShortChar rest
    else span [] isShortChar chars

/-- The token at the head of a text, and what follows. -/
def nextLexeme (isShort isFirst : Bool) (chars : List Char) :
    Except Failure (Lexeme × List Char) :=
  let custom : List Char :=
    match chars with
    | '-' :: '-' :: rest => rest.takeWhile isKeywordChar
    | _ => []
  match chars with
  | '$' :: '{' :: rest => (Field.read rest).map fun (field, rest) => (.field field, rest)
  | _ =>
    if !custom.isEmpty then
      .ok (.custom ('-' :: '-' :: custom), chars.drop (custom.length + 2))
    else
      match takeNumber chars, chars with
      | some found, _ => .ok found
      | none, [] => .error .scanner
      | none, c :: rest =>
        if c == '#' then .ok (colorBody rest)
        else if c == '\'' || c == '"' then
          .ok (.string (takeString c rest).1 c, (takeString c rest).2)
        else if c == '(' || c == ')' then .ok (.bracket (c == '('), rest)
        else
          match Operator.ofChar? c with
          | some operator => .ok (.operator operator, rest)
          | none =>
            if isSpace c then .ok (.space, chars.dropWhile isSpace)
            else
              match takeLiteral isShort isFirst chars with
              | ([], _) => .error .scanner
              | (text, rest) => .ok (.literal text, rest)

/-- Whether a dash behind a token separates values. -/
def Lexeme.endsValue : Lexeme → Bool
  | .color _ => true
  | .number _ _ unit => unit.isEmpty
  | _ => false

/-- Whether a token may belong to the name of a function. -/
def Token.joinsName (token : Token) : Bool :=
  match token.lexeme with
  | .literal _ | .number _ _ _ => true
  | _ => false

/-- Tokens, the last one first, with the name in front of an opening bracket as one. -/
def joinName (source : List Char) (tokens : List Token) : List Token :=
  match tokens.takeWhile Token.joinsName with
  | [] => tokens
  | last :: more =>
    let first := (more.getLast?).getD last
    ⟨.literal ((source.take last.stop).drop first.start), first.start, last.stop⟩ ::
      tokens.dropWhile Token.joinsName

/-- The tokens of the rest of a text behind those read already, the last one
first, with `depth` brackets open.  Each token takes a character at least. -/
def tokensFrom (source : List Char) (isValue : Bool) :
    Nat → Nat → List Token → List Char → Except Failure (List Token)
  | _, _, done, [] => .ok done.reverse
  | 0, _, _, _ => .error .scanner
  | fuel + 1, depth, done, chars => do
    let position := source.length - chars.length
    let (lexeme, rest) ← nextLexeme (depth = 0 && !isValue) (position = 0) chars
    let token : Token := ⟨lexeme, position, source.length - rest.length⟩
    match lexeme with
    | .bracket true =>
      let done := if depth = 0 then joinName source done else done
      tokensFrom source isValue fuel (depth + 1) (token :: done) rest
    | .bracket false =>
      if depth = 0 then throw .scanner
      else tokensFrom source isValue fuel (depth - 1) (token :: done) rest
    | _ =>
      match rest with
      | c :: after =>
        match Operator.ofChar? c with
        | some operator =>
          if lexeme.endsValue then
            let sign : Token := ⟨.operator operator, token.stop, token.stop + 1⟩
            tokensFrom source isValue fuel depth (sign :: token :: done) after
          else tokensFrom source isValue fuel depth (token :: done) rest
        | none => tokensFrom source isValue fuel depth (token :: done) rest
      | [] => tokensFrom source isValue fuel depth (token :: done) []

def tokens (isValue : Bool) (source : List Char) : Except Failure (List Token) :=
  tokensFrom source isValue source.length 0 [] source

end Shorthand.Stylesheet
