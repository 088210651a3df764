import Shorthand.Config
import Shorthand.Document
import Shorthand.Log
import Shorthand.Store
import Shorthand.Workspace

/-!
# Sessions

What a server does for one client.  A completion whose settings are still being
retrieved waits; when they arrive it reads its document as it then is.
-/

namespace Shorthand

inductive Phase
  | uninitialized
  | initialized
  | shuttingDown
  deriving DecidableEq, Repr

def Phase.name : Phase → String
  | .uninitialized => "uninitialized"
  | .initialized => "initialized"
  | .shuttingDown => "shutting_down"

/-- What a client is capable of. -/
structure Capabilities where
  /-- It can be asked for settings. -/
  configuration : Bool
  /-- It tells which folders its workspace has. -/
  folders : Bool
  deriving DecidableEq, Repr

/-- A request in one of a session's stores. -/
structure RequestId where
  /-- The number of stores that went before. -/
  generation : Nat
  request : Nat
  deriving DecidableEq, Repr

/-- A completion that waits for settings. -/
structure Call where
  id : RequestId
  /-- The number of its document, which it keeps although it may be closed. -/
  document : Nat
  position : Position
  deriving DecidableEq, Repr

/-- A session with a client. -/
structure Session where
  phase : Phase
  /-- Whether an edit replaces the abbreviation. -/
  replaces : Bool
  /-- The configuration file that the command line gives. -/
  configPath : Option (List Char)
  capabilities : Capabilities
  log : Log
  store : Store
  /-- The stores that were replaced, for the sake of what still waits in them. -/
  retired : List Store
  /-- All documents that were ever opened. -/
  documents : List Document
  /-- The numbers of the documents that are open. -/
  opened : List (String × Nat)
  /-- The completions that wait. -/
  calls : List Call
  /-- The notifications that the client was asked to send, in order. -/
  registered : List String

def Session.start (configPath : Option (List Char)) (log : Log) : Session where
  phase := .uninitialized
  replaces := false
  configPath := configPath
  capabilities := ⟨false, false⟩
  log := log
  store := .fresh .initial false
  retired := []
  documents := []
  opened := []
  calls := []
  registered := []

/-- What a client says about itself when a session starts. -/
structure Introduction where
  capabilities : Capabilities
  rootUri : Option (List Char)
  rootPath : Option (List Char)
  options : Value

def Session.configuration (session : Session) (env : Environment) (client : Introduction) :
    Except ConfigError ServerConfig :=
  match workspaceRoot client.rootUri client.rootPath with
  | .error error => .error (.root error.message)
  | .ok root => ServerConfig.resolve env root session.configPath client.options

/-- A session with a configuration.  It begins with a fresh store. -/
def Session.configured (session : Session) (config : ServerConfig) : Session :=
  { session with
    phase := .initialized
    replaces := config.replaceAbbreviation
    log := { session.log with level := (parseLevel config.logLevel).getD session.log.level }
    store := .fresh config.routing session.capabilities.configuration
    retired := session.retired ++ [session.store] }

/-- A session whose client has introduced itself.  Its capabilities are noted even
when there is no configuration for it. -/
def Session.initialize (session : Session) (env : Environment) (client : Introduction) :
    Session × Except ConfigError Unit :=
  let noted := { session with capabilities := client.capabilities }
  match noted.configuration env client with
  | .error error => (noted, .error error)
  | .ok config => (noted.configured config, .ok ())

/-- The notifications that a server asks for once the client is ready. -/
def Session.registrations (session : Session) : List String :=
  if session.capabilities.configuration then ["workspace/didChangeConfiguration"] else []

def Session.ready (session : Session) : Session :=
  { session with registered := session.registered ++ session.registrations }

/-- The report that the folders of the workspace have changed. -/
def Session.foldersChanged (session : Session) : List Record :=
  if session.capabilities.folders then
    [⟨infoLevel, "Workspace folder change event received.".toList⟩]
  else []

def Session.shutDown (session : Session) : Session := { session with phase := .shuttingDown }

def Session.configure (session : Session) (settings : Value) : Logged Session :=
  let ⟨store, records⟩ := session.store.change settings
  ⟨{ session with store }, records⟩

/-- The number of an open document. -/
def Session.opened? (session : Session) (uri : String) : Option Nat :=
  (session.opened.find? (·.1 == uri)).map (·.2)

/-- A session with an open document, which takes the place of an older one. -/
def Session.openDocument (session : Session) (uri : String) (document : Document) : Session :=
  { session with
    documents := session.documents ++ [document]
    opened := (uri, session.documents.length) :: session.opened.filter (·.1 != uri) }

/-- A session in which an open document has a new text. -/
def Session.edit (session : Session) (uri : String) (text : List Char) : Session :=
  match session.opened? uri with
  | none => session
  | some number =>
    { session with documents := session.documents.modify number ({ · with text }) }

def Session.closeDocument (session : Session) (uri : String) : Session :=
  { session with
    opened := session.opened.filter (·.1 != uri)
    store := session.store.forget uri }

/-- How a completion goes on. -/
inductive Reply
  | items (items : List Item)
  /-- It waits for the settings of its document. -/
  | waiting (id : RequestId)
  | cancelled
  deriving DecidableEq, Repr

/-- The reply to a completion whose request stands somewhere. -/
def Session.reply (session : Session) (engine : Engine) (call : Call) :
    Progress → Logged Reply
  | .pending => ⟨.waiting call.id, []⟩
  | .cancelled => ⟨.cancelled, []⟩
  | .served routing =>
    match session.documents[call.document]? with
    | none => ⟨.items [], []⟩
    | some document =>
      let ⟨items, records⟩ := document.complete engine routing session.replaces call.position
      ⟨.items items, records⟩

/-- The warning that no document is open under a URI. -/
def unknownDocument (uri : String) : Record :=
  .contained warningLevel s!"failed to find document {uri}".toList

/-- A session with one more completion, and the reply to it. -/
def Session.complete (session : Session) (engine : Engine) (uri : String) (position : Position) :
    Logged (Session × Reply) :=
  if session.phase ≠ .initialized then ⟨(session, .items []), []⟩
  else
    match session.opened? uri with
    | none => ⟨(session, .items []), [unknownDocument uri]⟩
    | some document =>
      let number := session.store.requests.length
      let call : Call := ⟨⟨session.retired.length, number⟩, document, position⟩
      let asked := { session with store := session.store.request uri }
      let progress := (asked.store.progress? number).getD .pending
      let ⟨reply, records⟩ := asked.reply engine call progress
      let calls := if progress = .pending then session.calls ++ [call] else session.calls
      ⟨({ asked with calls }, reply), records⟩

def Session.storeOf? (session : Session) (generation : Nat) : Option Store :=
  if generation = session.retired.length then some session.store
  else session.retired[generation]?

def Session.setStore (session : Session) (generation : Nat) (store : Store) : Session :=
  if generation = session.retired.length then { session with store }
  else { session with retired := session.retired.set generation store }

/-- Where a waiting completion stands. -/
def Session.progress (session : Session) (call : Call) : Progress :=
  ((session.storeOf? call.id.generation).bind (·.progress? call.id.request)).getD .pending

/-- The replies to completions, each with the request that it waited for. -/
def Session.replies (session : Session) (engine : Engine) :
    List Call → Logged (List (RequestId × Reply))
  | [] => ⟨[], []⟩
  | call :: rest =>
    let ⟨reply, records⟩ := session.reply engine call (session.progress call)
    let ⟨more, moreRecords⟩ := session.replies engine rest
    ⟨(call.id, reply) :: more, records ++ moreRecords⟩

/-- A session in which the completions that need not wait any more are replied to. -/
def Session.resume (session : Session) (engine : Engine) :
    Logged (Session × List (RequestId × Reply)) :=
  let isWaiting (call : Call) : Bool := session.progress call == .pending
  let ⟨replies, records⟩ := session.replies engine (session.calls.filter (!isWaiting ·))
  ⟨({ session with calls := session.calls.filter isWaiting }, replies), records⟩

/-- A session in which a retrieval was answered, and the replies that waited for it.  This is
one step: nothing happens between the end of a retrieval and the replies to what it held up,
so that a completion cannot be cancelled in between. -/
def Session.settle (session : Session) (engine : Engine) (generation retrieval : Nat)
    (answer : Answer) : Logged (Session × List (RequestId × Reply)) :=
  match session.storeOf? generation with
  | none => ⟨(session, []), []⟩
  | some store =>
    let ⟨settled, records⟩ := store.settle retrieval answer
    let ⟨result, moreRecords⟩ := (session.setStore generation settled).resume engine
    ⟨result, records ++ moreRecords⟩

/-- A session in which a waiting completion was cancelled, and the reply to that. -/
def Session.cancel (session : Session) (engine : Engine) (id : RequestId) :
    Logged (Session × List (RequestId × Reply)) :=
  match session.storeOf? id.generation with
  | none => ⟨(session, []), []⟩
  | some store => (session.setStore id.generation (store.cancel id.request)).resume engine

/-- What happens to a session.  A completion, and what ends the wait of some, comes with
the engine that serves them. -/
inductive SessionEvent
  | introduce (env : Environment) (client : Introduction)
  | ready
  | shutDown
  | changeFolders
  | configure (settings : Value)
  | openDocument (uri : String) (document : Document)
  | edit (uri : String) (text : List Char)
  | closeDocument (uri : String)
  | complete (engine : Engine) (uri : String) (position : Position)
  | settle (engine : Engine) (generation retrieval : Nat) (answer : Answer)
  | cancel (engine : Engine) (id : RequestId)

/-- A session after an event, and the replies to completions that had to wait. -/
def Session.step (session : Session) :
    SessionEvent → Logged (Session × List (RequestId × Reply))
  | .introduce env client =>
    let (next, _) := session.initialize env client
    ⟨(next, []), []⟩
  | .ready => ⟨(session.ready, []), []⟩
  | .changeFolders => ⟨(session, []), session.foldersChanged⟩
  | .shutDown => ⟨(session.shutDown, []), []⟩
  | .configure settings =>
    let ⟨next, records⟩ := session.configure settings
    ⟨(next, []), records⟩
  | .openDocument uri document => ⟨(session.openDocument uri document, []), []⟩
  | .edit uri text => ⟨(session.edit uri text, []), []⟩
  | .closeDocument uri => ⟨(session.closeDocument uri, []), []⟩
  | .complete engine uri position =>
    let ⟨(next, _), records⟩ := session.complete engine uri position
    ⟨(next, []), records⟩
  | .settle engine generation retrieval answer =>
    session.settle engine generation retrieval answer
  | .cancel engine id => session.cancel engine id

def Session.run (session : Session) :
    List SessionEvent → Logged (Session × List (RequestId × Reply))
  | [] => ⟨(session, []), []⟩
  | event :: rest =>
    let ⟨(next, replies), records⟩ := session.step event
    let ⟨(last, more), moreRecords⟩ := next.run rest
    ⟨(last, replies ++ more), records ++ moreRecords⟩

/-- What a client gets that asks for more about an item.  Items are complete, so this is
the same. -/
def resolveItem (item : Value) : Value := item

/-- The settings in what a client returns for a request of one section. -/
def Answer.ofResults : List Value → Answer
  | [] => .settings .null
  | first :: _ => .settings first

end Shorthand
