import Shorthand.Log
import Shorthand.Path
import Shorthand.Render
import Shorthand.Text.Integer

/-!
# Command line

Two commands: one expands an abbreviation, the other serves an editor.  Options
and operands may stand in any order; two dashes end the options, and of an option
that is repeated the last one counts.
-/

namespace Shorthand

/-- What is given to a command. -/
structure Arguments where
  flags : List (List Char)
  /-- The options that have a value, in order. -/
  values : List (List Char × List Char)
  operands : List (List Char)
  deriving DecidableEq, Repr

inductive OptionKind
  | flag
  | valued
  deriving DecidableEq, Repr

abbrev OptionKinds := List (String × OptionKind)

/-- The kind of the option with a name. -/
def OptionKinds.kind? (kinds : OptionKinds) (name : List Char) : Option OptionKind :=
  (kinds.find? (·.1.toList == name)).map (·.2)

/-- Whether an argument is an option.  A lone dash is none. -/
def isOption : List Char → Bool
  | '-' :: _ :: _ => true
  | _ => false

/-- The name of an option, and the value that is written to it. -/
def splitOption (argument : List Char) : List Char × Option (List Char) :=
  match cutAt? '=' argument with
  | some (name, value) => (name, some value)
  | none => (argument, none)

def Arguments.addFlag (name : List Char) (arguments : Arguments) : Arguments :=
  { arguments with flags := name :: arguments.flags }

def Arguments.addValue (name value : List Char) (arguments : Arguments) : Arguments :=
  { arguments with values := (name, value) :: arguments.values }

def Arguments.addOperand (operand : List Char) (arguments : Arguments) : Arguments :=
  { arguments with operands := operand :: arguments.operands }

/-- What words give to a command with certain options; `none` when they misuse one.
An option that needs a value takes the next word, whatever that is. -/
def Arguments.ofWords (kinds : OptionKinds) : List (List Char) → Option Arguments
  | [] => some ⟨[], [], []⟩
  | ['-', '-'] :: rest => some ⟨[], [], rest⟩
  | word :: rest =>
    if !isOption word then (ofWords kinds rest).map (addOperand word)
    else
      let (name, value) := splitOption word
      match kinds.kind? name, value, rest with
      | some .flag, none, rest => (ofWords kinds rest).map (addFlag name)
      | some .valued, some value, rest => (ofWords kinds rest).map (addValue name value)
      | some .valued, none, next :: rest => (ofWords kinds rest).map (addValue name next)
      | _, _, _ => none

def Arguments.has (arguments : Arguments) (name : String) : Bool :=
  arguments.flags.contains name.toList

/-- The last value that is given to an option. -/
def Arguments.value? (arguments : Arguments) (name : String) : Option (List Char) :=
  (arguments.values.reverse.find? (·.1 == name.toList)).map (·.2)

/-- Where a server listens. -/
inductive Transport
  | stdio
  | tcp (host : List Char) (port : Int)
  deriving DecidableEq, Repr

/-- How a server is run. -/
structure Service where
  transport : Transport
  configPath : Option (List Char)
  logLevel : Int
  deriving DecidableEq, Repr

/-- A command with all that it needs. -/
inductive Command
  | expand (grammar : Grammar) (rendition : Rendition) (abbreviation : List Char)
  | serve (service : Service)
  deriving DecidableEq, Repr

def expandOptions : OptionKinds := [("--stylesheet", .flag), ("--preview", .flag)]

def serveOptions : OptionKinds :=
  [("--tcp", .flag), ("--host", .valued), ("--port", .valued), ("--config", .valued),
    ("--log-level", .valued)]

/-- The command that expands the only operand. -/
def expandCommand (arguments : Arguments) : Option Command :=
  match arguments.operands with
  | [abbreviation] =>
    some (.expand (if arguments.has "--stylesheet" then .stylesheet else .markup)
      (if arguments.has "--preview" then .preview else .snippet) abbreviation)
  | _ => none

/-- The command that serves.  It has no operands. -/
def serveCommand (arguments : Arguments) : Option Command :=
  if !arguments.operands.isEmpty then none
  else do
    let host := (arguments.value? "--host").getD "127.0.0.1".toList
    let port ← integer? ((arguments.value? "--port").getD "2087".toList)
    let level ← parseLevel ((arguments.value? "--log-level").getD "warning".toList)
    return .serve ⟨if arguments.has "--tcp" then .tcp host port else .stdio,
      (arguments.value? "--config").map Path.normalize, level⟩

/-- The command that a name with words calls. -/
def Command.named (name : List Char) (words : List (List Char)) : Option Command :=
  if name = "expand".toList then (Arguments.ofWords expandOptions words).bind expandCommand
  else if name = "serve".toList then (Arguments.ofWords serveOptions words).bind serveCommand
  else none

/-- The command that a command line calls.  No option stands in front of its name. -/
def Command.ofWords : List (List Char) → Option Command
  | ['-', '-'] :: name :: words => Command.named name words
  | name :: words => Command.named name words
  | [] => none

/-- How a program ends. -/
structure Exit where
  code : Nat
  output : List Char
  errors : List Char
  deriving DecidableEq, Repr

/-- The end of a program whose command line is not understood. -/
def Exit.usage : Exit := ⟨2, [], []⟩

/-- The end of a program that prints an expansion. -/
def expansionExit (engine : Engine) (grammar : Grammar) (rendition : Rendition)
    (abbreviation : List Char) : Exit :=
  match engine.expandText grammar rendition abbreviation with
  | .ok text => ⟨0, text ++ ['\n'], []⟩
  | .error failure => ⟨1, [], "error: ".toList ++ failure.message ++ ['\n']⟩

/-- The log of a server that runs for a client. -/
def Service.log (service : Service) (client : String) : Log :=
  (Log.initial.setup service.logLevel).attach client

end Shorthand
