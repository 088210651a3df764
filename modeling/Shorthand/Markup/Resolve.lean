import Shorthand.Markup.Node
import Shorthand.Markup.Snippets
import Shorthand.Text.Blank

/-!
# Resolved markup

Nodes that name a snippet give way to its nodes.  Then a node without a name gets
one from its parent, repeated attributes become one, and a label that holds its
input drops what would link the two.
-/

namespace Shorthand.Markup

def appendParts (parts more : List Part) : List Part :=
  match parts.getLast?, more with
  | some (.text a), .text b :: rest => parts.dropLast ++ .text (a ++ b) :: rest
  | _, _ => parts ++ more

/-- Two values of a class attribute as one. -/
def joinClasses (first second : Option (List Part)) : Option (List Part) :=
  match first.getD [], second.getD [] with
  | [], _ => second
  | _, [] => first
  | a, b => some (appendParts (appendParts a [.text [' ']]) b)

def Attribute.isClass (attr : Attribute) : Bool := attr.name == "class".toList

/-- The attributes that the next of several top nodes receives.  The first class
attribute carries the classes that a top node without its own has gathered. -/
def sharedAttributes (own shared : List Attribute) : List Attribute :=
  match shared.filter Attribute.isClass with
  | first :: more =>
    if own.any Attribute.isClass || (first.value.getD []).isEmpty then shared
    else
      let gathered := more.foldl (fun value attr => joinClasses value attr.value) first.value
      shared.takeWhile (!·.isClass) ++
        { first with value := gathered } :: (shared.dropWhile (!·.isClass)).drop 1
  | [] => shared

/-- A snippet's top nodes with what its caller adds. -/
def Node.mergeInto (caller : Node) : List Attribute → List Node → List Node
  | _, [] => []
  | shared, top :: rest =>
    { top with
      attributes := top.attributes ++ shared
      value := if caller.value.isSome then caller.value else top.value
      selfClosing := caller.selfClosing || top.selfClosing } ::
      caller.mergeInto (sharedAttributes top.attributes shared) rest

mutual

/-- The nodes that a node stands for.  The nodes below it go below the last of
what it stands for. -/
def Node.replace (find : Node → Option (List Node)) : Node → List Node
  | ⟨name, value, attributes, children, selfClosing⟩ =>
    let inner := replaceAll find children
    match find ⟨name, value, attributes, [], selfClosing⟩ with
    | none => [⟨name, value, attributes, inner, selfClosing⟩]
    | some nodes =>
      mapDeepestLast (fun node => { node with children := node.children ++ inner }) nodes

def replaceAll (find : Node → Option (List Node)) : List Node → List Node
  | [] => []
  | node :: rest => node.replace find ++ replaceAll find rest

end

/-- The nodes of the snippet that a node names.  A snippet is not looked up inside
itself, so the number of snippets bounds how deep they lie. -/
def snippetNodes : Nat → List (List Char) → Node → Option (List Node)
  | 0, _, _ => none
  | room + 1, within, node =>
    match snippet? node.name with
    | none => none
    | some body =>
      if within.contains body then none
      else
        match Node.ofAbbreviation body with
        | .error _ => none
        | .ok nodes =>
          some (node.mergeInto node.attributes
            (replaceAll (snippetNodes room (body :: within)) nodes))

def resolveSnippets (nodes : List Node) : List Node :=
  replaceAll (snippetNodes (snippets.length + 1) []) nodes

/-- The elements that flow within a line. -/
def inlineNames : List String :=
  ["a", "abbr", "acronym", "applet", "b", "basefont", "bdo", "big", "br", "button", "cite",
    "code", "del", "dfn", "em", "font", "i", "iframe", "img", "input", "ins", "kbd", "label",
    "map", "object", "q", "s", "samp", "select", "small", "span", "strike", "strong", "sub",
    "sup", "textarea", "tt", "u", "var"]

def isInlineName (name : List Char) : Bool := inlineNames.any (·.toList == lower name)

/-- The name of an element by default, from the name of its parent. -/
def implicitName (parent : List Char) : List Char :=
  match String.ofList (lower parent) with
  | "p" => "span".toList
  | "ul" | "ol" => "li".toList
  | "table" | "tbody" | "thead" | "tfoot" => "tr".toList
  | "tr" => "td".toList
  | "colgroup" => "col".toList
  | "select" | "optgroup" => "option".toList
  | "audio" | "video" => "source".toList
  | "object" => "param".toList
  | "map" => "area".toList
  | _ => if isInlineName parent then "span".toList else "div".toList

/-- An attribute with a later one of the same name worked in. -/
def Attribute.override (first later : Attribute) : Attribute :=
  if first.isClass then { first with value := joinClasses first.value later.value }
  else
    { first with
      value := later.value
      isImplied := first.isImplied || later.isImplied
      isBoolean := first.isBoolean || later.isBoolean
      delimiter := if first.delimiter = .braces then .braces else later.delimiter }

/-- Attributes with one more; a name has one attribute. -/
def insertAttribute (attributes : List Attribute) (later : Attribute) : List Attribute :=
  if later.name.isEmpty || !attributes.any (·.name == later.name) then attributes ++ [later]
  else attributes.map fun first => if first.name == later.name then first.override later else first

/-- Whether an attribute has no value but an unnamed field. -/
def Attribute.isVacant (attr : Attribute) : Bool :=
  match attr.value.getD [] with
  | [] => true
  | [.field _ []] => true
  | _ => false

/-- A node without vacant attributes of a name. -/
def Node.dropVacant (name : String) (node : Node) : Node :=
  { node with
    attributes := node.attributes.filter fun attr =>
      !(attr.name == name.toList && attr.isVacant) }

/-- Whether a node takes input that a label may name. -/
def Node.isInput (node : Node) : Bool :=
  node.name == "input".toList || node.name == "textarea".toList

mutual

/-- A node whose first descendant that takes input is changed, if there is one. -/
def Node.mapInput (f : Node → Node) : Node → Option Node
  | ⟨name, value, attributes, children, selfClosing⟩ =>
    (mapFirstInput f children).map fun changed =>
      ⟨name, value, attributes, changed, selfClosing⟩

def mapFirstInput (f : Node → Node) : List Node → Option (List Node)
  | [] => none
  | node :: rest =>
    if node.isInput then some (f node :: rest)
    else
      match node.mapInput f with
      | some changed => some (changed :: rest)
      | none => (mapFirstInput f rest).map (node :: ·)

end

mutual

/-- A node in which the first input of each label has no vacant identifier. -/
def Node.linkLabels : Node → Node
  | ⟨name, value, attributes, children, selfClosing⟩ =>
    let below := linkAllLabels children
    let linked :=
      if name == "label".toList then (mapFirstInput (Node.dropVacant "id") below).getD below
      else below
    ⟨name, value, attributes, linked, selfClosing⟩

def linkAllLabels : List Node → List Node
  | [] => []
  | node :: rest => node.linkLabels :: linkAllLabels rest

end

/-- A node's own name and attributes below a parent. -/
def Node.settle (parent : List Char) (node : Node) : Node :=
  let name :=
    if node.name.isEmpty && !node.attributes.isEmpty then implicitName parent else node.name
  { node with name := name, attributes := node.attributes.foldl insertAttribute [] }

mutual

/-- A node with names and attributes settled below a parent.  A label that holds
an input drops a vacant reference to it. -/
def Node.transform (parent : List Char) : Node → Node
  | ⟨name, value, attributes, children, selfClosing⟩ =>
    let node := Node.settle parent ⟨name, value, attributes, [], selfClosing⟩
    let below := transformAll node.name children
    let isLinked := node.name == "label".toList && (mapFirstInput id below).isSome
    { if isLinked then node.dropVacant "for" else node with children := below }

def transformAll (parent : List Char) : List Node → List Node
  | [] => []
  | node :: rest => node.transform parent :: transformAll parent rest

end

def Node.resolve (abbreviation : List Char) : Except Failure (List Node) := do
  let nodes ← Node.ofAbbreviation abbreviation
  return transformAll [] (linkAllLabels (resolveSnippets nodes))

end Shorthand.Markup
