import Shorthand.Stylesheet.Token

/-!
# Stylesheet properties

Tokens form properties.  A property has a name, values between commas and a mark
of importance, each of which may be missing; a value is a run of terms.
-/

namespace Shorthand.Stylesheet

/-- What a term is, apart from function calls. -/
inductive Atom
  | literal (text : List Char)
  | number (value : Float) (isFractional : Bool) (unit : List Char)
  | color (color : Color)
  | string (text : List Char) (mark : Char)
  | field (field : Field)

/-- A term of a value.  An atom knows where it stood, if it was written. -/
inductive Term
  | atom (atom : Atom) (span : Option (Nat × Nat))
  | call (name : List Char) (arguments : List (List Term))

/-- A run of terms. -/
abbrev Value := List Term

structure Property where
  /-- The name, empty if there is none. -/
  name : List Char
  values : List Value
  isImportant : Bool

/-- An atom that was not written anywhere. -/
def Term.made (atom : Atom) : Term := .atom atom none

/-- The atom of a token, if it is a value. -/
def Token.atom? (token : Token) : Option Atom :=
  match token.lexeme with
  | .literal text => some (.literal text)
  | .number value isFractional unit => some (.number value isFractional unit)
  | .color color => some (.color color)
  | .string text mark => some (.string text mark)
  | .field field => some (.field field)
  | .custom name => some (.literal name)
  | _ => none

def Token.isOperator (operator : Operator) (token : Token) : Bool :=
  match token.lexeme with
  | .operator other => operator == other
  | _ => false

def Token.isSpace (token : Token) : Bool :=
  match token.lexeme with
  | .space => true
  | _ => false

/-- Whether a token is a bracket that opens, or one that closes. -/
def Token.isBracket (opens : Bool) (token : Token) : Bool :=
  match token.lexeme with
  | .bracket other => opens == other
  | _ => false

/-- Whether a token separates a name from values, or values from one another. -/
def Token.separates (token : Token) : Bool := token.isOperator .colon || token.isOperator .dash

/-- The failure to place the token at the head. -/
def misplaced (tokens : List Token) : Failure := .misplacedToken (tokens.head?.map (·.start))

mutual

/-- The value at the head of the tokens, and what follows.  In arguments it may
hold white space.  Each step takes a token. -/
def takeValue : Nat → Bool → List Token → Except Failure (Value × List Token)
  | 0, _, tokens => .ok ([], tokens)
  | _, _, [] => .ok ([], [])
  | fuel + 1, inArguments, token :: rest => do
    match token.atom? with
    | some atom =>
      let (term, rest) ←
        match token.lexeme, rest with
        | .literal text, next :: inner =>
          if next.isBracket true then do
            let (arguments, rest) ← takeArguments fuel inner
            pure (Term.call text arguments, rest)
          else pure (Term.atom atom (some (token.start, token.stop)), rest)
        | _, _ => pure (Term.atom atom (some (token.start, token.stop)), rest)
      let (more, rest) ← takeValue fuel inArguments rest
      return (term :: more, rest)
    | none =>
      if token.separates || (inArguments && token.isSpace) then takeValue fuel inArguments rest
      else return ([], token :: rest)

/-- The arguments behind an opening bracket, and what follows the closing one. -/
def takeArguments : Nat → List Token → Except Failure (List Value × List Token)
  | 0, tokens => .ok ([], tokens)
  | _, [] => .ok ([], [])
  | fuel + 1, token :: rest => do
    if token.isBracket false then return ([], rest)
    let (value, after) ← takeValue fuel true (token :: rest)
    if !value.isEmpty then
      let (more, after) ← takeArguments fuel after
      return (value :: more, after)
    match after with
    | next :: after =>
      if next.isSpace || next.isOperator .comma then takeArguments fuel after
      else throw (misplaced (next :: after))
    | [] => throw (misplaced [])

end

/-- The values of a property and whether it is important, and what follows. -/
def takeValues (inArguments : Bool) :
    Nat → List Token → Except Failure (List Value × Bool × List Token)
  | 0, tokens => .ok ([], false, tokens)
  | _, [] => .ok ([], false, [])
  | fuel + 1, token :: rest => do
    if token.isOperator .important then
      let (values, _, rest) ← takeValues inArguments fuel rest
      return (values, true, rest)
    let (value, after) ← takeValue (rest.length + 2) inArguments (token :: rest)
    if !value.isEmpty then
      let (values, isImportant, after) ← takeValues inArguments fuel after
      return (value :: values, isImportant, after)
    match after with
    | next :: after =>
      if next.isOperator .comma then takeValues inArguments fuel after
      else return ([], false, next :: after)
    | [] => return ([], false, [])

/-- The name at the head of the tokens, with the sign behind it, and what follows.
A word in front of a bracket is no name. -/
def takeName : List Token → List Char × List Token
  | token :: rest =>
    let isCall : Bool :=
      match rest with
      | next :: _ => next.isBracket true || next.isBracket false
      | [] => false
    match token.lexeme, isCall with
    | .literal text, false =>
      match rest with
      | next :: after => if next.separates then (text, after) else (text, rest)
      | [] => (text, [])
    | _, _ => ([], token :: rest)
  | [] => ([], [])

/-- The properties at the head of the tokens.  Each of them, and each sign between
them, takes a token. -/
def properties : Nat → List Token → Except Failure (List Property)
  | 0, _ => .ok []
  | _, [] => .ok []
  | fuel + 1, tokens => do
    let (name, rest) := takeName tokens
    let (values, isImportant, rest) ← takeValues false (rest.length + 1) rest
    if !name.isEmpty || !values.isEmpty || isImportant then
      return ⟨name, values, isImportant⟩ :: (← properties fuel rest)
    match rest with
    | token :: after =>
      if token.isOperator .sibling then properties fuel after
      else throw (misplaced rest)
    | [] => throw (misplaced [])

def Property.ofAbbreviation (abbreviation : List Char) : Except Failure (List Property) := do
  let tokens ← tokens false abbreviation
  properties (tokens.length + 1) tokens

/-- The values that a text writes, with white space between their terms. -/
def Value.ofText (text : List Char) : Except Failure (List Value) := do
  let tokens ← tokens true text
  let rest :=
    match tokens with
    | token :: rest => if token.isSpace then rest else tokens
    | [] => []
  return (← takeValues true (rest.length + 1) rest).1

end Shorthand.Stylesheet
