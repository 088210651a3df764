import Shorthand.Decimal.Fixed
import Shorthand.Decimal.Shortest
import Shorthand.Stylesheet.Property
import Shorthand.Stylesheet.Score
import Shorthand.Stylesheet.Snippets

/-!
# Resolved stylesheets

The name of a property gives way to the property of the snippet that it matches
best, short words to keywords, and numbers receive units.
-/

namespace Shorthand.Stylesheet

/-- A word that a value may abbreviate, and the term that it stands for. -/
abbrev Keyword := List Char × Term

/-- The choices for the value of a property. -/
structure Choices where
  property : String
  values : List (List Value)
  keywords : List Keyword

/-- A snippet by its name. -/
structure Snippet where
  name : String
  definition : Choices ⊕ String

/-- The keyword that a term of a value offers. -/
def Term.keyword? : Term → Option Keyword
  | .atom (.literal text) span => some (text, .atom (.literal text) span)
  | .atom (.field field) _ =>
    match strip field.text with
    | [] => none
    | word => some (word, .made (.literal word))
  | .call name arguments => some (name, .call name arguments)
  | .atom _ _ => none

/-- Keywords with one more.  A word keeps its place, and its last term. -/
def insertKeyword (keywords : List Keyword) (keyword : Keyword) : List Keyword :=
  if keywords.any (·.1 == keyword.1) then
    keywords.map fun old => if old.1 == keyword.1 then keyword else old
  else keywords ++ [keyword]

/-- The values that a snippet's text writes. -/
def parsedValues (text : String) : List Value :=
  match Value.ofText text.toList with
  | .ok values => values
  | .error _ => []

/-- The choices of a property. -/
def Choices.of (property : String) (texts : List String) : Choices :=
  let values := texts.map parsedValues
  ⟨property, values, (values.flatten.flatten.filterMap Term.keyword?).foldl insertKeyword []⟩

def snippets : List Snippet :=
  definitions.map fun entry =>
    match entry.2 with
    | .property name values => ⟨entry.1, .inl (.of name values)⟩
    | .text body => ⟨entry.1, .inr body⟩

/-- Whether a property refines another, as `border-top` refines `border`. -/
def refines (property base : String) : Bool :=
  (base.toList ++ ['-']).isPrefixOf property.toList

/-- The snippets that refine others, each with the name of the nearest one.
`open` lists the snippets that may still be refined, the nearest first. -/
def refinements : List (String × String) → List (String × Choices) →
    List (String × Choices)
  | _, [] => []
  | bases, (name, choices) :: rest =>
    let bases := bases.dropWhile fun base => !refines choices.property base.2
    let here :=
      match bases with
      | [] => []
      | base :: _ => [(base.1, choices)]
    here ++ refinements ((name, choices.property) :: bases) rest

def allRefinements : List (String × Choices) :=
  refinements [] <| snippets.filterMap fun snippet =>
    match snippet.definition with
    | .inl choices => some (snippet.name, choices)
    | .inr _ => none

/-- The words that any property takes. -/
def globalKeywords : List Keyword :=
  ["auto", "inherit", "unset", "none"].map fun word =>
    (word.toList, .made (.literal word.toList))

/-- The term that a short word stands for: a keyword of the snippet, else of a
refinement, else one that any property takes. -/
def keyword? (snippet : String) (choices : Choices) (word : List Char) : Option Term :=
  let own := (allRefinements.filter (·.1 == snippet)).map (·.2.keywords)
  ((choices.keywords :: own ++ [globalKeywords]).findSome? fun keywords =>
    bestMatch? false (·.1) word keywords).map (·.2)

/-- A term with its words replaced by keywords.  A function call keeps its own
arguments and takes those behind them from the keyword. -/
def Term.expandKeyword (find : List Char → Option Term) : Term → Term
  | .atom (.literal text) span => (find text).getD (.atom (.literal text) span)
  | .call name arguments =>
    match find name with
    | some (.call full defaults) => .call full (arguments ++ defaults.drop arguments.length)
    | _ => .call name arguments
  | term => term

def Term.hasField : Term → Bool
  | .atom (.field _) _ => true
  | .atom _ _ => false
  | .call _ arguments => anyValueHasField arguments
where
  /-- Whether a value holds a field. -/
  anyValueHasField : List (List Term) → Bool
    | [] => false
    | value :: rest => anyTermHasField value || anyValueHasField rest
  /-- Whether one of the terms holds a field. -/
  anyTermHasField : List Term → Bool
    | [] => false
    | term :: rest => term.hasField || anyTermHasField rest

/-- A share of color in base sixteen, as one digit where both are equal. -/
def hexShare (isShort : Bool) (share : Nat) : List Char :=
  let digits := Nat.toDigits 16 share
  if isShort then Nat.toDigits 16 (share / 16)
  else List.replicate (2 - digits.length) '0' ++ digits

def Color.text (color : Color) : List Char :=
  let shares := [color.red, color.green, color.blue]
  if shares.all (· == 0) && color.alpha == 0 then "transparent".toList
  else if color.alpha == 1 then
    '#' :: shares.flatMap (hexShare (shares.all (· % 17 == 0)))
  else
    "rgba(".toList ++ shares.flatMap (fun share => Decimal.digits share ++ [',', ' ']) ++
      Decimal.atMost 8 color.alpha ++ [')']

/-- A tab stop for a default value. -/
def Term.stop (index : Nat) (text : List Char) : Term := .made (.field ⟨some index, text⟩)

mutual

/-- A term with its parts as tab stops, numbered from `index` on, and the next number. -/
def Term.wrap (index : Nat) : Term → Value × Nat
  | .atom (.color color) _ => ([.stop index color.text], index + 1)
  | .atom (.literal text) _ => ([.stop index text], index + 1)
  | .atom (.number value _ unit) _ => ([.stop index (Decimal.shortest value ++ unit)], index + 1)
  | .atom (.string text mark) _ => ([.stop index (mark :: text ++ [mark])], index + 1)
  | .atom (.field field) span => ([.atom (.field field) span], index)
  | .call name arguments =>
    let (inner, index) := wrapArguments (index + 1) arguments
    (.stop index name :: .made (.literal ['(']) :: inner ++ [.made (.literal [')'])], index)

def wrapTerms (index : Nat) : List Term → Value × Nat
  | [] => ([], index)
  | term :: rest =>
    let (first, index) := term.wrap index
    let (more, index) := wrapTerms index rest
    (first ++ more, index)

def wrapArguments (index : Nat) : List (List Term) → Value × Nat
  | [] => ([], index)
  | [value] => wrapTerms index value
  | value :: next :: rest =>
    let (first, index) := wrapTerms index value
    let (more, index) := wrapArguments index (next :: rest)
    (first ++ .made (.literal [',', ' ']) :: more, index)

end

/-- The values of a property without any: those of the only choice, or of the
first one as tab stops unless it has some. -/
def Choices.default (choices : Choices) : List Value :=
  match choices.values with
  | [] => []
  | [only] => only
  | first :: _ =>
    if first.any (·.any Term.hasField) then first else first.map fun value => (wrapTerms 1 value).1

/-- The properties whose numbers have no unit. -/
def unitlessProperties : List String :=
  ["z-index", "line-height", "opacity", "font-weight", "zoom", "flex", "flex-grow",
    "flex-shrink"]

/-- The unit that an abbreviated one stands for. -/
def fullUnit (unit : List Char) : List Char :=
  match unit with
  | ['e'] => ['e', 'm']
  | ['p'] => ['%']
  | ['x'] => ['e', 'x']
  | ['r'] => ['r', 'e', 'm']
  | _ => unit

/-- A term with the unit that its number has in a property. -/
def Term.withUnit (property : List Char) : Term → Term
  | .atom (.number value isFractional unit) span =>
    let unit :=
      if !unit.isEmpty then fullUnit unit
      else if value == 0 || unitlessProperties.any (·.toList == property) then []
      else if isFractional then ['e', 'm']
      else ['p', 'x']
    .atom (.number value isFractional unit) span
  | term => term

/-- The call of a gradient that a property consists of, if it does. -/
def Property.gradient? (property : Property) : Option (List Value) :=
  match property.values with
  | [[.call ['l', 'g'] arguments]] => some arguments
  | _ =>
    if property.name == ['l', 'g'] then some [[.stop 0 []]] else none

/-- A text snippet cut at its fields. -/
def cutFields : Nat → List Char → List Char → List (List Char ⊕ Field)
  | 0, done, rest => if (done ++ rest).isEmpty then [] else [.inl (done ++ rest)]
  | _, done, [] => if done.isEmpty then [] else [.inl done]
  | fuel + 1, done, '$' :: '{' :: rest =>
    match Field.read rest with
    | .ok (field, rest) =>
      (if done.isEmpty then [] else [.inl done]) ++ .inr field :: cutFields fuel [] rest
    | .error _ => cutFields fuel (done ++ ['$', '{']) rest
  | fuel + 1, done, c :: rest => cutFields fuel (done ++ [c]) rest

/-- The parts of a text snippet with terms in place of its first fields. -/
def fillFields : List (List Char ⊕ Field) → Value → Value
  | [], _ => []
  | .inl text :: rest, terms => .made (.literal text) :: fillFields rest terms
  | .inr _ :: rest, term :: terms => term :: fillFields rest terms
  | .inr field :: rest, [] => .made (.field field) :: fillFields rest []

/-- A property in terms of a snippet.  Without a value of its own, what its name
holds beyond the snippet's must be a keyword. -/
def Property.fromChoices (property : Property) (snippet : String) (choices : Choices) :
    Option Property := do
  let extra := if property.values.isEmpty then unmatchedPart property.name snippet.toList else []
  let values ← if extra.isEmpty then pure property.values
    else (keyword? snippet choices extra).map fun term => [[term]]
  let values := if values.isEmpty then choices.default
    else values.map fun value => value.map (Term.expandKeyword (keyword? snippet choices))
  return { property with name := choices.property.toList, values := values }

/-- A property in terms of the snippet that its name matches best. -/
def Property.fromSnippet (property : Property) : Option Property := do
  let snippet ← bestMatch? true (·.name.toList) property.name snippets
  match snippet.definition with
  | .inl choices => property.fromChoices snippet.name choices
  | .inr body =>
    return { property with
      name := []
      values := [fillFields (cutFields body.length [] body.toList) (property.values.head?.getD [])] }

/-- A property in its final form, if it means anything. -/
def Property.resolve (property : Property) : Option Property :=
  match property.gradient? with
  | some arguments =>
    some { property with
      name := "background-image".toList
      values := [[.call "linear-gradient".toList arguments]] }
  | none =>
    if property.name.isEmpty then if property.values.isEmpty then some property else none
    else
      property.fromSnippet.map fun resolved =>
        if resolved.name.isEmpty then resolved
        else
          { resolved with
            values := resolved.values.map fun value => value.map (Term.withUnit resolved.name) }

end Shorthand.Stylesheet
