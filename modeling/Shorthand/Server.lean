/-!
# Server

What the server tells about itself.
-/

namespace Shorthand

def version : String := "0.1.0"

def charactersFrom (first last : Char) : List Char :=
  (List.range (last.toNat + 1 - first.toNat)).map fun n => Char.ofNat (first.toNat + n)

/-- The characters after which a client asks for completions: those that end or
extend an abbreviation, and all with which it can grow. -/
def triggerCharacters : List Char :=
  ">)]\x7d@*$+".toList ++ charactersFrom 'a' 'z' ++ charactersFrom 'A' 'Z' ++ charactersFrom '0' '9'

/-- Whether a client may ask for more about an item. -/
def resolvesItems : Bool := true

/-- The messages that the server handles, in order of their names. -/
def features : List String :=
  ["completionItem/resolve", "initialize", "initialized", "shutdown", "textDocument/completion",
    "textDocument/didClose", "workspace/didChangeConfiguration",
    "workspace/didChangeWorkspaceFolders"]

end Shorthand
