import Shorthand.Markup.Token

/-!
# Markup statements

Tokens form elements and groups.  The operators between them say where the next
one hangs: below the last one, beside it, or beside one of its ancestors.
-/

namespace Shorthand.Markup

structure AttributeForm where
  /-- The name, which a lone quoted value lacks. -/
  name : List Token
  value : Option (List Token)

structure ElementForm where
  name : List Token
  attributes : List AttributeForm
  /-- The text between braces. -/
  value : Option (List Token)
  /-- The repetition, with its number if it has one. -/
  repeats : Option (Option Nat)
  selfClosing : Bool

/-- An element or a group with what hangs below it. -/
inductive Statement
  | element (form : ElementForm) (children : List Statement)
  | group (body : List Statement) (repeats : Option (Option Nat))

def ElementForm.empty : ElementForm := ⟨[], [], none, none, false⟩

def ElementForm.hasText (form : ElementForm) : Bool := !(form.value.getD []).isEmpty

/-- Whether an element has neither name nor text nor attributes. -/
def ElementForm.isEmpty (form : ElementForm) : Bool :=
  form.name.isEmpty && !form.hasText && form.attributes.isEmpty

/-- Whether a token may belong to an element's name. -/
def Token.isName (token : Token) : Bool :=
  match token.lexeme with
  | .literal _ | .counter _ | .insertion => true
  | _ => false

def Token.isSpace (token : Token) : Bool :=
  match token.lexeme with
  | .space _ => true
  | _ => false

/-- How many pairs of each kind of brackets a value has open. -/
structure Nesting where
  group : Nat
  lists : Nat
  braces : Nat

def Nesting.depth (nesting : Nesting) : Enclosure → Nat
  | .group => nesting.group
  | .attributes => nesting.lists
  | .text => nesting.braces

def Nesting.setDepth (nesting : Nesting) (depth : Nat) : Enclosure → Nesting
  | .group => { nesting with group := depth }
  | .attributes => { nesting with lists := depth }
  | .text => { nesting with braces := depth }

/-- The tokens of an attribute's name or unquoted value, and what follows.
Brackets belong to it as far as they close; in braces all tokens do. -/
def unquoted : Nesting → List Token → List Token × List Token
  | _, [] => ([], [])
  | nesting, token :: rest =>
    let take (nesting : Nesting) :=
      let (taken, after) := unquoted nesting rest
      (token :: taken, after)
    match token.lexeme with
    | .bracket enclosure opens =>
      if nesting.braces > 0 && enclosure != .text then take nesting
      else if opens then take (nesting.setDepth (nesting.depth enclosure + 1) enclosure)
      else if nesting.depth enclosure = 0 then ([], token :: rest)
      else take (nesting.setDepth (nesting.depth enclosure - 1) enclosure)
    | .quote _ | .operator _ | .space _ | .repeater _ =>
      if nesting.braces > 0 then take nesting else ([], token :: rest)
    | _ => take nesting

/-- The tokens up to the next mark of a kind, with that mark, and what follows. -/
def untilQuote (mark : Char) : List Token → Option (List Token × List Token)
  | [] => none
  | token :: rest =>
    if token.lexeme = .quote mark then some ([token], rest)
    else (untilQuote mark rest).map fun (a, b) => (token :: a, b)

/-- The quoted or unquoted value at the head of the tokens, if there is one. -/
def attributeValue (tokens : List Token) :
    Except Failure (Option (List Token) × List Token) :=
  match tokens with
  | [] => .ok (none, [])
  | token :: rest =>
    match token.lexeme with
    | .quote mark =>
      match untilQuote mark rest with
      | some (inner, after) => .ok (some (token :: inner), after)
      | none => .error (.unclosedQuote token.start)
    | _ =>
      match unquoted ⟨0, 0, 0⟩ tokens with
      | ([], after) => .ok (none, after)
      | (taken, after) => .ok (some taken, after)

/-- The attribute at the head of the tokens, if there is one. -/
def attributeForm (tokens : List Token) :
    Except Failure (Option (AttributeForm × List Token)) := do
  let (first, rest) ← attributeValue tokens
  match first with
  | none => return none
  | some taken =>
    if (taken.head?.map fun token => (match token.lexeme with | .quote _ => true | _ => false))
        = some true then
      return some (⟨[], some taken⟩, rest)
    else
      match rest with
      | ⟨.operator .equal, _⟩ :: rest =>
        let (value, rest) ← attributeValue rest
        return some (⟨taken, value⟩, rest)
      | _ => return some (⟨taken, none⟩, rest)

/-- The attributes up to the bracket that closes their list, and what follows. -/
def attributeList : Nat → List Token → Except Failure (List AttributeForm × List Token)
  | 0, tokens => .ok ([], tokens)
  | _, [] => .ok ([], [])
  | fuel + 1, token :: rest => do
    match ← attributeForm (token :: rest) with
    | some (form, after) =>
      let (more, after) ← attributeList fuel after
      return (form :: more, after)
    | none =>
      if token.lexeme = .bracket .attributes false then return ([], rest)
      else if token.isSpace then attributeList fuel rest
      else throw (.unexpectedToken token.lexeme.kind token.start)

/-- The tokens between braces behind the opening one, and what follows. -/
def bracedText : Nat → List Token → List Token × List Token
  | _, [] => ([], [])
  | depth, token :: rest =>
    let take (depth : Nat) :=
      let (taken, after) := bracedText depth rest
      (token :: taken, after)
    match token.lexeme, depth with
    | .bracket .text true, _ => take (depth + 1)
    | .bracket .text false, 0 => ([], rest)
    | .bracket .text false, depth + 1 => take depth
    | _, _ => take depth

/-- Whether a token is one of the signs that start a short attribute. -/
def Token.isOperator (token : Token) (operator : Operator) : Bool :=
  token.lexeme == .operator operator

/-- The short form of an attribute behind its signs, and what follows. -/
def shortAttribute (name : String) (operator : Operator) (tokens : List Token) :
    AttributeForm × List Token :=
  let tokens := tokens.dropWhile (·.isOperator operator)
  let isEnd (token : Token) : Bool :=
    match token.lexeme with
    | .quote _ | .operator _ | .space _ | .repeater _ | .bracket _ _ => true
    | _ => false
  let value := tokens.takeWhile (!isEnd ·)
  (⟨[⟨.literal name.toList, 0⟩], if value.isEmpty then none else some value⟩,
    tokens.dropWhile (!isEnd ·))

/-- The repetition at the head of the tokens, if there is one, and what follows. -/
def repetition : List Token → Option (Option Nat) × List Token
  | ⟨.repeater times, _⟩ :: rest => (some times, rest)
  | tokens => (none, tokens)

/-- The sign that closes an element, a repetition behind it, and what follows. -/
def closing (form : ElementForm) (tokens : List Token) : ElementForm × List Token :=
  match tokens with
  | [] => (form, [])
  | token :: rest =>
    if form.isEmpty || !token.isOperator .close then (form, tokens)
    else
      match form.repeats with
      | some _ => ({ form with selfClosing := true }, rest)
      | none =>
        let (repeats, rest) := repetition rest
        ({ form with selfClosing := true, repeats := repeats }, rest)

/-- The parts of an element behind its name, and what follows. -/
def elementParts : Nat → ElementForm → List Token → Except Failure (ElementForm × List Token)
  | 0, form, tokens => .ok (form, tokens)
  | _, form, [] => .ok (form, [])
  | fuel + 1, form, token :: rest => do
    match token.lexeme with
    | .repeater times =>
      if form.repeats.isNone && !form.isEmpty then
        elementParts fuel { form with repeats := some times } rest
      else return (form, token :: rest)
    | .bracket .text true =>
      if form.hasText then return (form, token :: rest)
      else
        let (value, rest) := bracedText 0 rest
        elementParts fuel { form with value := some value } rest
    | .operator .identifier =>
      let (short, rest) := shortAttribute "id" .identifier rest
      elementParts fuel { form with attributes := form.attributes ++ [short] } rest
    | .operator .className =>
      let (short, rest) := shortAttribute "class" .className rest
      elementParts fuel { form with attributes := form.attributes ++ [short] } rest
    | .bracket .attributes true =>
      let (forms, rest) ← attributeList (rest.length + 1) rest
      if forms.isEmpty then return closing form rest
      else elementParts fuel { form with attributes := form.attributes ++ forms } rest
    | _ => return closing form (token :: rest)

/-- The element at the head of the tokens, if there is one, and what follows. -/
def elementForm (tokens : List Token) : Except Failure (Option ElementForm × List Token) := do
  let name := tokens.takeWhile Token.isName
  let (form, rest) ← elementParts (tokens.length + 1) { ElementForm.empty with name := name }
    (tokens.dropWhile Token.isName)
  return (if form.isEmpty then none else some form, rest)

/-- The depth of the next statement, and what follows the operators in front of it. -/
def separator (depth : Nat) : List Token → Nat × List Token
  | ⟨.operator .child, _⟩ :: rest => (depth + 1, rest)
  | ⟨.operator .sibling, _⟩ :: rest => (depth, rest)
  | tokens =>
    let climbs := tokens.takeWhile (·.isOperator .climb)
    (depth - climbs.length, tokens.drop climbs.length)

def Statement.append (children : List Statement) : Statement → Statement
  | .element form old => .element form (old ++ children)
  | .group body repeats => .group (body ++ children) repeats

/-- The statements of a list with depths, each with what lies deeper behind it. -/
def nest (statements : List (Nat × Statement)) : List Statement :=
  (statements.foldr
    (fun (depth, statement) done =>
      let isDeeper (other : Nat × Statement) : Bool := depth < other.1
      (depth, statement.append ((done.takeWhile isDeeper).map (·.2))) :: done.dropWhile isDeeper)
    []).map (·.2)

/-- The statements at the head of the tokens with their depths, and what follows.
Each statement takes a token at least, so the number of tokens bounds theirs. -/
def statements : Nat → Nat → List Token → Except Failure (List (Nat × Statement) × List Token)
  | 0, _, tokens => .ok ([], tokens)
  | _, _, [] => .ok ([], [])
  | fuel + 1, depth, tokens => do
    let (form?, rest) ← elementForm tokens
    match form?, rest with
    | some form, _ =>
      let (next, rest) := separator depth rest
      let (more, rest) ← statements fuel next rest
      return ((depth, .element form []) :: more, rest)
    | none, ⟨.bracket .group true, _⟩ :: inner =>
      let (body, rest) ← statements fuel 0 inner
      let (repeats, rest) :=
        match rest with
        | ⟨.bracket .group false, _⟩ :: rest => repetition rest
        | _ :: rest => (none, rest)
        | [] => (none, [])
      let (next, rest) := separator depth rest
      let (more, rest) ← statements fuel next rest
      return ((depth, .group (nest body) repeats) :: more, rest)
    | none, rest => return ([], rest)

def parse (abbreviation : List Char) : Except Failure (List Statement) := do
  let tokens ← tokens abbreviation
  let (found, rest) ← statements (tokens.length + 1) 0 tokens
  match rest with
  | [] => return nest found
  | token :: _ => throw (.unexpectedCharacter token.start)

end Shorthand.Markup
