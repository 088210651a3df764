import Shorthand.Completion
import Shorthand.Routing

/-!
# Documents

A document that a client has open, and the completion of a place in it.
-/

namespace Shorthand

structure Document where
  language : Option String
  /-- The units in which the client counts. -/
  encoding : Encoding
  text : List Char
  deriving DecidableEq, Repr

/-- A line of a document at a client's position.  Beyond the last line it is that one. -/
def Document.line (document : Document) (replaces : Bool) (position : Position) : LineContext :=
  let lines := splitLines document.text
  let position := position.fromClient document.encoding lines
  ⟨position.line, documentLine (lines.map Line.text) position.line, position.character, replaces,
    fun range => .ok (range.toClient document.encoding lines)⟩

/-- The items of a completion, none if it was given up.  Then the reason is recorded. -/
def contain : Logged (Except Abort (List Item)) → Logged (List Item)
  | ⟨.ok items, records⟩ => ⟨items, records⟩
  | ⟨.error abort, records⟩ => ⟨[], records ++ [.contained errorLevel abort.message]⟩

/-- The items at a client's position of a document that is routed. -/
def Document.complete (document : Document) (engine : Engine) (routing : Routing)
    (replaces : Bool) (position : Position) : Logged (List Item) :=
  match routing.grammars document.language with
  | [] => ⟨[], []⟩
  | grammars => contain (completeLine engine (document.line replaces position) grammars)

end Shorthand
