import Shorthand.Options
import Shorthand.Path
import Shorthand.Text.Lines
import Shorthand.Text.Utf8
import Shorthand.Toml.Document

/-!
# Configuration

The configuration of a session is merged from a file and the client's options.
A file that cannot be read or understood counts as empty, but for octets that are
no text, numbers that are too long and values that lie too deep in each other.
-/

namespace Shorthand

def configName : String := "emmet-ls.toml"

/-- What lies at a path. -/
inductive Entry
  | missing
  | directory
  /-- A file that may not be read. -/
  | unreadable
  | file (octets : List Nat)
  deriving DecidableEq, Repr

/-- Where a server runs. -/
structure Environment where
  /-- What lies at each path. -/
  entry : List Char → Entry
  /-- Whether the names of files can be written as a path has them. -/
  encodes : List Char → Bool
  /-- The working directory, unless it was removed. -/
  directory : Option (List Char)
  /-- How many readers of a file's values may be at work in each other. -/
  depth : Nat

/-- Why a configuration cannot be made. -/
inductive ConfigError
  /-- Options have values of the wrong kind. -/
  | options (refusals : List Refusal)
  /-- The root is no URI. -/
  | root (message : List Char)
  /-- There is no working directory to look in. -/
  | noDirectory
  /-- A path cannot be written in the encoding of file names. -/
  | unencodablePath
  /-- A path holds the zero character. -/
  | zeroInPath
  /-- The file's octets are no text. -/
  | noText
  /-- A number in the file has too many digits. -/
  | tooManyDigits (count : Nat)
  /-- Values in the file lie deeper in each other than may be read. -/
  | tooDeep
  deriving DecidableEq, Repr

/-- The wording of an error, for those that have one. -/
def ConfigError.message : ConfigError → List Char
  | .options refusals => (refusalMessage refusals).toList
  | .root message => message
  | .noDirectory => "[Errno 2] No such file or directory".toList
  | .unencodablePath => []
  | .zeroInPath => "embedded null byte".toList
  | .noText => []
  | .tooManyDigits count =>
    (s!"Exceeds the limit ({maxDigits} digits) for integer string conversion: " ++
      s!"value has {count} digits; use sys.set_int_max_str_digits() to increase the limit").toList
  | .tooDeep => "maximum recursion depth exceeded".toList

/-- The table of a document that was read.  What is no document counts as empty. -/
def documentTable : Except Toml.Error Table → Except ConfigError Table
  | .ok table => .ok table
  | .error .invalid => .ok []
  | .error (.tooManyDigits count) => .error (.tooManyDigits count)
  | .error .tooDeep => .error .tooDeep

def Entry.table (depth : Nat) : Entry → Except ConfigError Table
  | .missing => .ok []
  | .directory => .ok []
  | .unreadable => .ok []
  | .file octets =>
    match Utf8.decode? octets with
    | none => .error .noText
    | some text => documentTable (Toml.parse depth (universalNewlines text))

/-- The path of the configuration: the given one, else that of the file in the root, else
in the working directory. -/
def Environment.configPath (env : Environment) (root explicit : Option (List Char)) :
    Except ConfigError (List Char) :=
  match explicit with
  | some path => .ok path
  | none =>
    match root.or env.directory with
    | some directory => .ok (Path.join directory configName.toList)
    | none => .error .noDirectory

def Environment.tableAt (env : Environment) (path : List Char) : Except ConfigError Table :=
  if !env.encodes path then .error .unencodablePath
  else if path.contains '\x00' then .error .zeroInPath
  else (env.entry path).table env.depth

/-- The table of the configuration that is looked for. -/
def loadConfig (env : Environment) (root explicit : Option (List Char)) :
    Except ConfigError Table :=
  (env.configPath root explicit).bind env.tableAt

theorem loadConfig_explicit (env : Environment) (root : Option (List Char)) (path : List Char) :
    loadConfig env root (some path) = env.tableAt path := rfl

/-- The configuration of a session. -/
structure ServerConfig where
  routing : Routing
  replaceAbbreviation : Bool
  logLevel : List Char
  deriving DecidableEq, Repr

/-- A list of names as a value, null where there is none. -/
def namesValue : Option (List String) → Value
  | none => .null
  | some names => .list (names.map .str)

/-- The configuration that options and a file make.  Options come first.  A level that is no
text is written out without a limit: the depth of an environment and the digits of an integer
limit what is read, but not how deep a level that is written may be, nor how long a number. -/
def ServerConfig.merge (options : Options) (file : Table) : ServerConfig :=
  let filetypes := Table.merge
    [(markupKey, namesValue options.markup), (stylesheetKey, namesValue options.stylesheet)]
    (file.section "filetypes")
  let replace := ((file.section "completion").get? "replace_abbreviation").map Value.isOn
  let levels := (options.logLevel.map Value.str).toList ++
    ((file.section "logging").get? "level").toList
  ⟨Routing.initial.update (effectiveSettings settingsSection filetypes),
    options.replaceAbbreviation.getD (replace.getD false),
    ((levels.find? Value.isTruthy).map Value.text).getD "warning".toList⟩

/-- The configuration of a session with a client's options.  They are read before the file. -/
def ServerConfig.resolve (env : Environment) (root explicit : Option (List Char))
    (options : Value) : Except ConfigError ServerConfig :=
  match Options.ofPayload options with
  | .error refusals => .error (.options refusals)
  | .ok options => (loadConfig env root explicit).map (ServerConfig.merge options)

end Shorthand
