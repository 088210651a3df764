import Shorthand.Routing

/-!
# Initialization options

What a client may set when a session starts.  Each option has a kind; a value of
another kind is refused, and all refusals are reported together.
-/

namespace Shorthand

/-- What a client sets when a session starts. -/
structure Options where
  markup : Option (List String)
  stylesheet : Option (List String)
  replaceAbbreviation : Option Bool
  logLevel : Option String
  deriving DecidableEq, Repr

/-- An option with a value of the wrong kind. -/
structure Refusal where
  option : String
  kind : String
  deriving DecidableEq, Repr

def refusalMessage (refusals : List Refusal) : String :=
  "; ".intercalate (refusals.map fun refusal => s!"{refusal.option}: {refusal.kind}")

def falseWords : List String := ["0", "off", "f", "false", "n", "no"]

def trueWords : List String := ["1", "on", "t", "true", "y", "yes"]

/-- The kind of a number that is neither zero nor one. -/
def otherNumber (isWord : Bool) : String := if isWord then "bool_parsing" else "bool_type"

/-- A truth value, or the kind of what is none.  Numbers are truth values as zero
and one; of the others, those that fit into a word of the machine are of another
kind than the rest. -/
def Value.truth : Value → Except String Bool
  | .bool b => .ok b
  | .int n =>
    if n = 0 then .ok false
    else if n = 1 then .ok true
    else .error (otherNumber (-9223372036854775808 ≤ n && n < 9223372036854775808))
  | .float x =>
    if x == 0 then .ok false
    else if x == 1 then .ok true
    else .error (otherNumber (x.floor == x && x.abs < 9223372036854775808))
  | .str word =>
    let word := String.ofList (lower word.toList)
    if falseWords.contains word then .ok false
    else if trueWords.contains word then .ok true
    else .error "bool_parsing"
  | _ => .error "bool_type"

/-- The value of an option under its name, or else under its other name. -/
def Table.option? (table : Table) (name other : String) : Option Value :=
  (table.get? name).orElse fun _ => table.get? other

def optionalTruth : Option Value → Except String (Option Bool)
  | none => .ok none
  | some .null => .ok none
  | some value => value.truth.map some

def optionalText : Option Value → Except String (Option String)
  | none => .ok none
  | some .null => .ok none
  | some (.str text) => .ok (some text)
  | some _ => .error "string_type"

/-- The options in a payload.  A payload that is no object sets none. -/
def Options.ofPayload : Value → Except (List Refusal) Options
  | .object fields =>
    let table : Table := fields
    let replace := optionalTruth (table.option? "replaceAbbreviation" "replace_abbreviation")
    let level := optionalText (table.option? "logLevel" "log_level")
    match replace, level with
    | .ok replace, .ok level =>
      .ok ⟨table.names? markupKey, table.names? stylesheetKey, replace, level⟩
    | .error kind, .ok _ => .error [⟨"replaceAbbreviation", kind⟩]
    | .ok _, .error kind => .error [⟨"logLevel", kind⟩]
    | .error replaceKind, .error levelKind =>
      .error [⟨"replaceAbbreviation", replaceKind⟩, ⟨"logLevel", levelKind⟩]
  | _ => .ok ⟨none, none, none, none⟩

/-- Whether a value of a configuration file switches something on. -/
def Value.isOn : Value → Bool
  | .bool b => b
  | .int n => n != 0
  | .str text =>
    ["1", "true", "yes", "on"].contains (String.ofList (lower (strip text.toList)))
  | _ => false

end Shorthand
