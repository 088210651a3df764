import Shorthand.Grammar
import Shorthand.NameList

/-!
# Routing

Languages are routed to grammars by two independent lists of names.  Settings of
a client change the lists that they name and leave the other as it is.
-/

namespace Shorthand

/-- The languages that are routed to each grammar. -/
structure Routing where
  markup : List String
  stylesheet : List String
  deriving DecidableEq, Repr

/-- The languages that are routed without any settings. -/
def Routing.initial : Routing := ⟨["html"], ["css"]⟩

/-- The grammars to try for a language, markup first. -/
def Routing.grammars (routing : Routing) : Option String → List Grammar
  | none => []
  | some language =>
    (if routing.markup.contains language then [.markup] else []) ++
      (if routing.stylesheet.contains language then [.stylesheet] else [])

def markupKey : String := "html_filetypes"

def stylesheetKey : String := "css_filetypes"

/-- The section of the settings that belongs to this server. -/
def settingsSection : String := "emmet_ls"

/-- Settings that are no object. -/
structure NoObject where
  typeName : String
  deriving DecidableEq, Repr

def NoObject.message (error : NoObject) : List Char :=
  s!"settings payload must be an object, got {error.typeName}".toList

/-- The names under a key, if there are any but null. -/
def Table.names? (table : Table) (key : String) : Option (List String) :=
  match table.get? key with
  | none => none
  | some .null => none
  | some value => some (normalizeNames value)

/-- The table that holds the settings: the one in the server's section, if there is one. -/
def effectiveSettings (sectionName : String) (table : Table) : Table :=
  match table.get? sectionName with
  | some (.object inner) => inner
  | _ => table

/-- A routing with the lists that a table names. -/
def Routing.update (routing : Routing) (table : Table) : Routing :=
  ⟨(table.names? markupKey).getD routing.markup,
    (table.names? stylesheetKey).getD routing.stylesheet⟩

/-- A routing under a client's settings. -/
def Routing.ofSettings (sectionName : String) (fallback : Routing) :
    Value → Except NoObject Routing
  | .null => .ok fallback
  | .object table => .ok (fallback.update (effectiveSettings sectionName table))
  | value => .error ⟨value.typeName⟩

/-- The routing that a table describes.  A list given as null is empty. -/
def Routing.ofTable (table : Table) : Routing :=
  ⟨((table.get? markupKey).map normalizeNames).getD Routing.initial.markup,
    ((table.get? stylesheetKey).map normalizeNames).getD Routing.initial.stylesheet⟩

end Shorthand
