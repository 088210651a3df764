import Shorthand.Markup.Statement

/-!
# Markup nodes

Statements become nodes: repetitions are carried out, counters are replaced by
their numbers, and names, texts and attributes become text with fields.
-/

namespace Shorthand.Markup

/-- A part of an element's text or of an attribute's value. -/
inductive Part
  | text (chars : List Char)
  | field (index : Nat) (placeholder : List Char)
  deriving DecidableEq, Repr

def Part.isField : Part → Bool
  | .text _ => false
  | .field _ _ => true

/-- How the value of an attribute is delimited. -/
inductive Delimiter
  | bare
  | quotes
  | braces
  deriving DecidableEq, Repr

/-- An attribute of a node. -/
structure Attribute where
  /-- The name, empty for a lone value. -/
  name : List Char
  value : Option (List Part)
  /-- Whether the name stands for the value. -/
  isBoolean : Bool
  /-- Whether the attribute is left out without a value. -/
  isImplied : Bool
  delimiter : Delimiter
  deriving DecidableEq, Repr

/-- An element, or a text if it has no name. -/
structure Node where
  name : List Char
  value : Option (List Part)
  attributes : List Attribute
  children : List Node
  selfClosing : Bool

def Node.parts (node : Node) : List Part := node.value.getD []

/-- A repetition that is being carried out. -/
structure Repetition where
  count : Nat
  /-- The number of repetitions before this one. -/
  index : Nat
  implicit : Bool

/-- A construction that knows whether the given text has been placed. -/
abbrev Builder := StateT Bool (Except Failure)

/-- The texts that fields with a name stand for. -/
def variableTexts : List (String × String) :=
  [("lang", "en"), ("locale", "en-US"), ("charset", "UTF-8"), ("indentation", "\t"),
    ("newline", "\n")]

def variableText (name : List Char) : Except Failure (List Char) :=
  if name.isEmpty then .ok []
  else
    match variableTexts.find? (·.1.toList == name) with
    | some (_, text) => .ok text.toList
    | none => .error .internal

/-- The number of a counter within repetitions, innermost first. -/
def Counter.value (counter : Counter) : List Repetition → Nat
  | [] => 1
  | here :: outer =>
    let own :=
      if counter.reverse then counter.base + here.count - here.index - 1
      else counter.base + here.index
    match outer.take counter.parent |>.getLast? with
    | some ancestor => own + here.count * ancestor.index
    | none => own

def Counter.text (counter : Counter) (repetitions : List Repetition) : List Char :=
  let digits := Nat.toDigits 10 (counter.value repetitions)
  List.replicate (counter.size - digits.length) '0' ++ digits

def Token.text (repetitions : List Repetition) (token : Token) : Builder (List Char) :=
  match token.lexeme with
  | .literal text => return text
  | .field index [] => return s!"$\x7b{index}".toList
  | .field index placeholder => return s!"$\x7b{index}:".toList ++ placeholder ++ ['}']
  | .variableField name => variableText name
  | .insertion => do
    set true
    return []
  | .counter counter => return counter.text repetitions
  | .repeater _ => throw .internal
  | .space text => return text
  | .operator operator => return [operator.toChar]
  | .quote mark => return [mark]
  | .bracket .group true => return ['(']
  | .bracket .attributes true => return ['[']
  | .bracket .attributes false => return [']']
  | .bracket .text true => return ['{']
  | .bracket _ false => return ['}']

def nameText (repetitions : List Repetition) : List Token → Builder (List Char)
  | [] => return []
  | token :: rest => do
    let text ← token.text repetitions
    return text ++ (← nameText repetitions rest)

/-- Parts with a text in front. -/
def consText (text : List Char) (parts : List Part) : List Part :=
  match text, parts with
  | [], _ => parts
  | _, .text more :: rest => .text (text ++ more) :: rest
  | _, _ => .text text :: parts

/-- A value from its tokens: numbered fields stay fields, all else is text. -/
def valueParts (repetitions : List Repetition) : List Token → Builder (List Part)
  | [] => return []
  | ⟨.field index placeholder, _⟩ :: rest => do
    return .field index placeholder :: (← valueParts repetitions rest)
  | token :: rest => do
    let text ← token.text repetitions
    return consText text (← valueParts repetitions rest)

/-- A list without its last member where that closes braces. -/
def dropClosingBrace (tokens : List Token) : List Token :=
  match tokens.getLast? with
  | some ⟨.bracket .text false, _⟩ => tokens.dropLast
  | _ => tokens

/-- The tokens of a value without what delimits them, and how they were delimited. -/
def delimited : List Token → List Token × Delimiter
  | ⟨.quote _, _⟩ :: rest => (rest.dropLast, .quotes)
  | ⟨.bracket .text true, _⟩ :: rest => (dropClosingBrace rest, .braces)
  | tokens => (tokens, .bare)

/-- An attribute from its form.  An exclamation mark in front of the name makes it
implied, a full stop behind the name makes it boolean. -/
def AttributeForm.build (repetitions : List Repetition) (form : AttributeForm) :
    Builder Attribute := do
  let name ← nameText repetitions form.name
  let isImplied := name.head? == some '!'
  let isBoolean := name.getLast? == some '.'
  let (tokens, delimiter) := delimited (form.value.getD [])
  let value ← if (form.value.getD []).isEmpty then pure none
    else some <$> valueParts repetitions tokens
  let bare := if isImplied then name.drop 1 else name
  return ⟨if isBoolean then bare.dropLast else bare, value, isBoolean, isImplied, delimiter⟩

mutual

/-- A node with its deepest last descendant changed. -/
def Node.mapDeepest (f : Node → Node) : Node → Node
  | ⟨name, value, attributes, [], selfClosing⟩ => f ⟨name, value, attributes, [], selfClosing⟩
  | ⟨name, value, attributes, child :: rest, selfClosing⟩ =>
    ⟨name, value, attributes, mapDeepestLast f (child :: rest), selfClosing⟩

def mapDeepestLast (f : Node → Node) : List Node → List Node
  | [] => []
  | [node] => [node.mapDeepest f]
  | node :: next :: rest => node :: mapDeepestLast f (next :: rest)

end

/-- A node with room for given text. -/
def Node.withTextSlot (node : Node) : Node :=
  match node.parts.getLast? with
  | none => { node with value := some [.text []] }
  | some (.text _) => node
  | some (.field _ _) => { node with value := some (node.parts ++ [.text []]) }

/-- What a statement yields for each of its repetitions.  A repetition without a
number makes room for the given text, unless that has a place already. -/
def repeated (repeats : Option (Option Nat)) (repetitions : List Repetition)
    (build : List Repetition → Builder (List Node)) : Builder (List Node) :=
  match repeats with
  | none => build repetitions
  | some times => do
    let count := if times.getD 1 = 0 then 1 else times.getD 1
    let nodes ← (List.range count).mapM fun index => do
      let nodes ← build (⟨count, index, times.isNone⟩ :: repetitions)
      if times.isNone && !(← get) then return mapDeepestLast Node.withTextSlot nodes
      else return nodes
    if times.isNone then set true
    return nodes.flatten

/-- The nodes of an element.  What hangs below a text without fields stands behind it. -/
def ElementForm.build (form : ElementForm) (repetitions : List Repetition)
    (children : Builder (List Node)) : Builder (List Node) := do
  let name ← nameText repetitions form.name
  let value ← match form.value with
    | none => pure none
    | some tokens => some <$> valueParts repetitions tokens
  let children ← children
  let attributes ← form.attributes.mapM (AttributeForm.build repetitions)
  let parts := value.getD []
  if name.isEmpty && attributes.isEmpty && !parts.isEmpty && !parts.any Part.isField then
    return ⟨name, value, attributes, [], form.selfClosing⟩ :: children
  else return [⟨name, value, attributes, children, form.selfClosing⟩]

mutual

/-- The nodes of a statement within repetitions. -/
def Statement.build (statement : Statement) (repetitions : List Repetition) :
    Builder (List Node) :=
  match statement with
  | .element form children =>
    repeated form.repeats repetitions fun repetitions =>
      form.build repetitions (buildAll children repetitions)
  | .group body repeats => repeated repeats repetitions fun repetitions => buildAll body repetitions

def buildAll (statements : List Statement) (repetitions : List Repetition) :
    Builder (List Node) :=
  match statements with
  | [] => return []
  | statement :: rest => do
    let nodes ← statement.build repetitions
    return nodes ++ (← buildAll rest repetitions)

end

def Node.ofAbbreviation (abbreviation : List Char) : Except Failure (List Node) := do
  let statements ← parse abbreviation
  let (nodes, _) ← (buildAll statements []).run false
  return nodes

end Shorthand.Markup
