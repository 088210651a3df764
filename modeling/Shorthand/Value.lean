import Shorthand.Calendar
import Shorthand.Decimal.Shortest
import Shorthand.Text.Quoted

/-!
# Values

The values of client payloads and configuration files.  An object is a list of
keys with values, in which a key stands once.
-/

namespace Shorthand

/-- A value of a payload or of a configuration file. -/
inductive Value
  | null
  | bool (b : Bool)
  | int (n : Int)
  | float (x : Float)
  | str (chars : String)
  | list (items : List Value)
  | object (fields : List (String × Value))
  | dateTime (moment : DateTime)
  | date (day : Date)
  | time (hour : Time)

/-- The keys of an object with their values. -/
abbrev Table := List (String × Value)

def Table.get? (table : Table) (key : String) : Option Value :=
  (table.find? (·.1 == key)).map (·.2)

/-- A table with a value under a key.  A key that is there already keeps its place. -/
def Table.set (table : Table) (key : String) (value : Value) : Table :=
  if table.any (·.1 == key) then
    table.map fun field => if field.1 == key then (key, value) else field
  else table ++ [(key, value)]

/-- The table under a key, empty where there is none. -/
def Table.section (table : Table) (key : String) : Table :=
  match table.get? key with
  | some (.object fields) => fields
  | _ => []

def Value.isNull : Value → Bool
  | .null => true
  | _ => false

/-- A payload laid over defaults.  Null overrides nothing. -/
def Table.merge (payload defaults : Table) : Table :=
  payload.foldl
    (fun merged field => if field.2.isNull then merged else merged.set field.1 field.2)
    defaults

/-- Whether a value says more than nothing: a number other than zero, a text, list
or object that is not empty, any moment. -/
def Value.isTruthy : Value → Bool
  | .null => false
  | .bool b => b
  | .int n => n != 0
  | .float x => x != 0
  | .str chars => chars != ""
  | .list items => !items.isEmpty
  | .object fields => !fields.isEmpty
  | .dateTime _ | .date _ | .time _ => true

/-- The name of a value's type in messages. -/
def Value.typeName : Value → String
  | .null => "NoneType"
  | .bool _ => "bool"
  | .int _ => "int"
  | .float _ => "float"
  | .str _ => "str"
  | .list _ => "list"
  | .object _ => "dict"
  | .dateTime _ => "datetime"
  | .date _ => "date"
  | .time _ => "time"

mutual

/-- A value as it stands within another one. -/
def Value.inner : Value → List Char
  | .null => "None".toList
  | .bool b => if b then "True".toList else "False".toList
  | .int n => (toString n).toList
  | .float x => Decimal.shortest x
  | .str chars => quoted chars.toList
  | .list items => '[' :: listed (innerItems items) ++ [']']
  | .object fields => '{' :: listed (innerFields fields) ++ ['}']
  | .dateTime moment => moment.call
  | .date day => day.call
  | .time hour => hour.call

def innerItems : List Value → List (List Char)
  | [] => []
  | item :: rest => item.inner :: innerItems rest

def innerFields : List (String × Value) → List (List Char)
  | [] => []
  | (key, value) :: rest => (quoted key.toList ++ ':' :: ' ' :: value.inner) :: innerFields rest

end

/-- A value written out. -/
def Value.text : Value → List Char
  | .str chars => chars.toList
  | .dateTime moment => moment.text ' '
  | .date day => day.text
  | .time hour => hour.text
  | value => value.inner

end Shorthand
