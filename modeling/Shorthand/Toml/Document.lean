import Shorthand.Toml.Text

/-!
# TOML documents

A document sets the keys of tables.  Marks on paths keep a table from being
declared twice and a value written in one place from being changed in another.

The readers of values call each other, and only so many of them may be at work at once.  A
reader hands a smaller depth to those that it calls, and its own to the one that goes on with
its list or table.  So a list costs two levels and a table on one line three.
-/

namespace Shorthand.Toml

/-- A key with its parents, the outermost first. -/
abbrev KeyPath := List String

/-- What has been read of a document, and which paths are settled. -/
structure Document where
  root : Table
  /-- The tables that have been declared. -/
  declared : List KeyPath
  /-- The values that do not change any more, with all below them. -/
  frozen : List KeyPath
  /-- The tables that count as declared from the next header on. -/
  pending : List KeyPath

/-- Whether a path is frozen itself or lies below a frozen one. -/
def Document.isFrozen (document : Document) (path : KeyPath) : Bool :=
  document.frozen.any (·.isPrefixOf path)

/-- A table with the table at a path changed; missing tables arise on the way.
With `throughLists` a list stands for its last table. -/
def modifyAt (throughLists : Bool) (change : Table → Option Table) :
    KeyPath → Table → Option Table
  | [], table => change table
  | key :: path, table =>
    match table.get? key with
    | none => (modifyAt throughLists change path []).map fun inner =>
        table.set key (.object inner)
    | some (.object inner) => (modifyAt throughLists change path inner).map fun inner =>
        table.set key (.object inner)
    | some (.list items) =>
      if throughLists then
        match items.getLast? with
        | some (.object inner) => (modifyAt throughLists change path inner).map fun inner =>
            table.set key (.list (items.dropLast ++ [.object inner]))
        | _ => none
      else none
    | some _ => none

def insertNew (key : String) (value : Value) (table : Table) : Option Table :=
  if (table.get? key).isSome then none else some (table.set key value)

/-- A table with one more table in the list under a key. -/
def appendTable (key : String) (table : Table) : Option Table :=
  match table.get? key with
  | none => some (table.set key (.list [.object []]))
  | some (.list items) => some (table.set key (.list (items ++ [.object []])))
  | some _ => none

/-- A result, or the failure to have one. -/
def required {α : Type} : Option α → Except Error α
  | some a => .ok a
  | none => .error .invalid

def isBareChar (c : Char) : Bool := c.isAlphanum || c == '-' || c == '_'

def keyPart (text : List Char) : Except Error (String × List Char) :=
  match text with
  | '"' :: rest =>
    (basicText false (rest.length + 1) rest).map fun (key, rest) => (String.ofList key, rest)
  | '\'' :: rest => (literalText rest).map fun (key, rest) => (String.ofList key, rest)
  | _ =>
    match text.takeWhile isBareChar with
    | [] => .error .invalid
    | key => .ok (String.ofList key, text.dropWhile isBareChar)

/-- A key at the head of a text, with blanks around its parts. -/
def key : Nat → List Char → Except Error (KeyPath × List Char)
  | 0, _ => .error .invalid
  | fuel + 1, text => do
    let (part, rest) ← keyPart text
    match rest.dropWhile isWhite with
    | '.' :: rest =>
      let (parts, rest) ← key fuel (rest.dropWhile isWhite)
      return (part :: parts, rest)
    | rest => return ([part], rest)

def skipComment : List Char → Except Error (List Char)
  | '#' :: rest =>
    if (rest.takeWhile (· != '\n')).any isControl then .error .invalid
    else .ok (rest.dropWhile (· != '\n'))
  | text => .ok text

/-- The text behind blanks, line ends and comments. -/
def skipFiller : Nat → List Char → Except Error (List Char)
  | 0, text => .ok text
  | fuel + 1, text => do
    match text.dropWhile isWhiteOrNewline with
    | '#' :: rest => skipFiller fuel (← skipComment ('#' :: rest))
    | rest => return rest

def isNested : Value → Bool
  | .list _ | .object _ => true
  | _ => false

/-- The depth for the readers that a reader calls. -/
def deeper : Nat → Except Error Nat
  | 0 => .error .tooDeep
  | depth + 1 => .ok depth

mutual

/-- The value at the head of a text. -/
def value : Nat → Nat → List Char → Except Error (Value × List Char)
  | 0, _, _ => .error .invalid
  | fuel + 1, depth, text => do
    let inner ← deeper depth
    match text with
    | '"' :: _ => (quotedText text).map fun (chars, rest) => (.str (String.ofList chars), rest)
    | '\'' :: _ => (quotedText text).map fun (chars, rest) => (.str (String.ofList chars), rest)
    | '[' :: rest =>
      let (items, rest) ← items fuel inner (← skipFiller rest.length rest)
      return (.list items, rest)
    | '{' :: rest =>
      match rest.dropWhile isWhite with
      | '}' :: rest => return (.object [], rest)
      | rest =>
        let (table, rest) ← fields fuel inner [] [] rest
        return (.object table, rest)
    | _ => scalar text

/-- The rest of a list. -/
def items : Nat → Nat → List Char → Except Error (List Value × List Char)
  | 0, _, _ => .error .invalid
  | fuel + 1, depth, text => do
    let inner ← deeper depth
    match text with
    | ']' :: rest => return ([], rest)
    | _ =>
      let (item, rest) ← value fuel inner text
      match ← skipFiller rest.length rest with
      | ']' :: rest => return ([item], rest)
      | ',' :: rest =>
        let (more, rest) ← items fuel depth (← skipFiller rest.length rest)
        return (item :: more, rest)
      | _ => throw .invalid

/-- The rest of a table on one line, behind the keys read already. -/
def fields : Nat → Nat → Table → List KeyPath → List Char → Except Error (Table × List Char)
  | 0, _, _, _, _ => .error .invalid
  | fuel + 1, depth, table, frozen, text => do
    let inner ← deeper depth
    let (path, item, rest) ← pair fuel inner text
    if frozen.any (·.isPrefixOf path) then throw .invalid
    let insert := insertNew (path.getLast?.getD "") item
    let table ← required (modifyAt false insert path.dropLast table)
    match rest.dropWhile isWhite with
    | '}' :: rest => return (table, rest)
    | ',' :: rest =>
      fields fuel depth table (if isNested item then path :: frozen else frozen)
        (rest.dropWhile isWhite)
    | _ => throw .invalid

def pair : Nat → Nat → List Char → Except Error (KeyPath × Value × List Char)
  | 0, _, _ => .error .invalid
  | fuel + 1, depth, text => do
    let inner ← deeper depth
    let (path, rest) ← key (text.length + 1) text
    match rest with
    | '=' :: rest =>
      let (item, rest) ← value fuel inner (rest.dropWhile isWhite)
      return (path, item, rest)
    | _ => throw .invalid
termination_by structural fuel => fuel

end

/-- The proper beginnings of a path, each behind a header. -/
def beginnings (header : KeyPath) : KeyPath → List KeyPath
  | [] => []
  | [_] => []
  | key :: path => (header ++ [key]) :: beginnings (header ++ [key]) path

/-- A document with a key set below a header. -/
def Document.setKey (document : Document) (header path : KeyPath) (item : Value) :
    Except Error Document := do
  let parents := beginnings header path
  if parents.any document.declared.contains then throw .invalid
  let parent := header ++ path.dropLast
  if document.isFrozen parent then throw .invalid
  let root ← required
    (modifyAt true (insertNew (path.getLast?.getD "") item) parent document.root)
  return { document with
    root := root
    pending := parents ++ document.pending
    frozen := if isNested item then (header ++ path) :: document.frozen else document.frozen }

/-- A document behind the last line of a table. -/
def Document.finishTable (document : Document) : Document :=
  { document with declared := document.pending ++ document.declared, pending := [] }

def Document.declareTable (document : Document) (path : KeyPath) : Except Error Document := do
  if document.declared.contains path || document.isFrozen path then throw .invalid
  let root ← required (modifyAt true some path document.root)
  return { document with root := root, declared := path :: document.declared }

/-- A document with one more table in a list.  The paths below the list are free again. -/
def Document.declareItem (document : Document) (path : KeyPath) : Except Error Document := do
  if document.isFrozen path then throw .invalid
  let root ← required
    (modifyAt true (appendTable (path.getLast?.getD "")) path.dropLast document.root)
  let isOutside (other : KeyPath) : Bool := !path.isPrefixOf other
  return { document with
    root := root
    declared := path :: document.declared.filter isOutside
    frozen := document.frozen.filter isOutside }

/-- What a line of a document does, the header behind it, and what follows. -/
def statement (depth : Nat) (document : Document) (header : KeyPath) (text : List Char) :
    Except Error (Document × KeyPath × List Char) := do
  match text with
  | '[' :: '[' :: rest =>
    let (path, rest) ← key (rest.length + 1) (rest.dropWhile isWhite)
    let document ← document.finishTable.declareItem path
    match rest with
    | ']' :: ']' :: rest => return (document, path, rest)
    | _ => throw .invalid
  | '[' :: rest =>
    let (path, rest) ← key (rest.length + 1) (rest.dropWhile isWhite)
    let document ← document.finishTable.declareTable path
    match rest with
    | ']' :: rest => return (document, path, rest)
    | _ => throw .invalid
  | '#' :: _ => return (document, header, text)
  | '\n' :: _ => return (document, header, text)
  | [] => return (document, header, [])
  | _ =>
    let (path, item, rest) ← pair (2 * text.length + 2) depth text
    return (← document.setKey header path item, header, rest)

/-- The document behind the lines of a text. -/
def lines (depth : Nat) : Nat → Document → KeyPath → List Char → Except Error Document
  | 0, document, _, _ => .ok document
  | fuel + 1, document, header, text => do
    let (document, header, rest) ← statement depth document header (text.dropWhile isWhite)
    match ← skipComment (rest.dropWhile isWhite) with
    | [] => return document
    | '\n' :: rest => lines depth fuel document header rest
    | _ => throw .invalid

/-- The table that a text writes, if its values do not lie too deep in each other. -/
def parse (depth : Nat) (text : List Char) : Except Error Table := do
  return (← lines depth (text.length + 1) ⟨[], [], [], []⟩ [] text).root

end Shorthand.Toml
