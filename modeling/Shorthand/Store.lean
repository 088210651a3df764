import Shorthand.Record
import Shorthand.Routing

/-!
# Settings store

The routing of each document.  From a client that can be asked for settings they
are retrieved once for each document: the retrieval is kept until the document is
closed, and all requests for the document share it.  Documents of another client
share one default.
-/

namespace Shorthand

/-- What a client answers when it is asked for settings. -/
inductive Answer
  | settings (payload : Value)
  | failure (message : List Char)
  /-- The asking was given up. -/
  | cancellation

/-- How a retrieval ended. -/
inductive Outcome
  /-- With the routing of the client's settings. -/
  | accepted (routing : Routing)
  /-- With the default, as there were no settings that could be understood. -/
  | fallback (routing : Routing)
  | cancelled
  deriving DecidableEq, Repr

/-- A retrieval of the settings for a document. -/
structure Retrieval where
  uri : String
  /-- How it ended, if it has. -/
  outcome : Option Outcome
  deriving DecidableEq, Repr

/-- What a request rests on. -/
inductive Basis
  /-- The default at the time of the request. -/
  | default (routing : Routing)
  /-- A retrieval, by its number. -/
  | retrieval (number : Nat)
  deriving DecidableEq, Repr

/-- A request for the routing of a document. -/
structure Request where
  uri : String
  basis : Basis
  isCancelled : Bool
  deriving DecidableEq, Repr

/-- Where a request stands. -/
inductive Progress
  | pending
  | served (routing : Routing)
  | cancelled
  deriving DecidableEq, Repr

/-- Where a request stands that rests on a retrieval. -/
def Retrieval.progress (retrieval : Retrieval) : Progress :=
  match retrieval.outcome with
  | none => .pending
  | some (.accepted routing) => .served routing
  | some (.fallback routing) => .served routing
  | some .cancelled => .cancelled

/-- The settings of all documents.  Retrievals and requests are numbered in the
order in which they began. -/
structure Store where
  /-- The routing where nothing else is known. -/
  default : Routing
  /-- Whether the client can be asked. -/
  pulls : Bool
  /-- The retrieval that is kept for each document. -/
  cache : List (String × Nat)
  retrievals : List Retrieval
  requests : List Request
  deriving DecidableEq, Repr

def Store.fresh (default : Routing) (pulls : Bool) : Store := ⟨default, pulls, [], [], []⟩

/-- The retrieval that is kept for a document. -/
def Store.cached? (store : Store) (uri : String) : Option Nat :=
  (store.cache.find? (·.1 == uri)).map (·.2)

/-- A store that keeps nothing for a document. -/
def Store.forget (store : Store) (uri : String) : Store :=
  { store with cache := store.cache.filter (·.1 != uri) }

/-- The retrieval that a request for a document can share: the one kept, unless it
was cancelled. -/
def Store.shared? (store : Store) (uri : String) : Option Nat :=
  (store.cached? uri).filter fun number =>
    (store.retrievals[number]?.map Retrieval.progress) != some .cancelled

def Store.retrieve (store : Store) (uri : String) : Store :=
  { store with
    cache := (uri, store.retrievals.length) :: (store.forget uri).cache
    retrievals := store.retrievals ++ [⟨uri, none⟩] }

def Store.addRequest (store : Store) (uri : String) (basis : Basis) : Store :=
  { store with requests := store.requests ++ [⟨uri, basis, false⟩] }

/-- A store that has been asked for the routing of a document. -/
def Store.request (store : Store) (uri : String) : Store :=
  if !store.pulls then store.addRequest uri (.default store.default)
  else
    match store.shared? uri with
    | some number => store.addRequest uri (.retrieval number)
    | none => (store.retrieve uri).addRequest uri (.retrieval store.retrievals.length)

/-- Where a request stands.  One that was cancelled while it waited stays so. -/
def Store.progressOf (store : Store) (request : Request) : Progress :=
  if request.isCancelled then .cancelled
  else
    match request.basis with
    | .default routing => .served routing
    | .retrieval number => (store.retrievals[number]?.map Retrieval.progress).getD .pending

/-- Where the request with a number stands. -/
def Store.progress? (store : Store) (number : Nat) : Option Progress :=
  store.requests[number]?.map store.progressOf

/-- A store in which a request was cancelled.  Only one that waits can be. -/
def Store.cancel (store : Store) (number : Nat) : Store :=
  match store.requests[number]? with
  | none => store
  | some request =>
    if store.progressOf request = .pending then
      { store with requests := store.requests.set number { request with isCancelled := true } }
    else store

/-- The report of a retrieval that found no settings. -/
def fallbackRecord (uri : String) (message : List Char) : Record :=
  ⟨warningLevel, s!"settings retrieval for {uri} failed, using defaults: ".toList ++ message⟩

/-- The outcome of a retrieval under a default. -/
def Answer.outcome (default : Routing) (uri : String) : Answer → Logged Outcome
  | .settings payload =>
    match Routing.ofSettings settingsSection default payload with
    | .ok routing => ⟨.accepted routing, []⟩
    | .error error => ⟨.fallback default, [fallbackRecord uri error.message]⟩
  | .failure message => ⟨.fallback default, [fallbackRecord uri message]⟩
  | .cancellation => ⟨.cancelled, []⟩

/-- Whether an outcome lets the next request try anew. -/
def Outcome.isFallback : Outcome → Bool
  | .fallback _ => true
  | _ => false

/-- The document whose settings a retrieval waits for. -/
def Store.awaited? (store : Store) (number : Nat) : Option String :=
  (store.retrievals[number]?.filter (·.outcome.isNone)).map (·.uri)

/-- A store whose retrieval with a number ended.  A fallback is not kept, but a later
retrieval for the same document is. -/
def Store.finish (store : Store) (number : Nat) (uri : String) (outcome : Outcome) : Store :=
  let evicts := outcome.isFallback && store.cached? uri == some number
  let kept := if evicts then store.forget uri else store
  { kept with retrievals := store.retrievals.set number ⟨uri, some outcome⟩ }

/-- A store whose retrieval with a number was answered.  It counts only while the
retrieval waits.  The requests that share it have their routing with the same step. -/
def Store.settle (store : Store) (number : Nat) (answer : Answer) : Logged Store :=
  match store.awaited? number with
  | none => ⟨store, []⟩
  | some uri =>
    let ⟨outcome, records⟩ := answer.outcome store.default uri
    ⟨store.finish number uri outcome, records⟩

/-- A store whose default the client changed.  What is kept for documents stays. -/
def Store.change (store : Store) (payload : Value) : Logged Store :=
  match Routing.ofSettings settingsSection store.default payload with
  | .ok routing => ⟨{ store with default := routing }, []⟩
  | .error error =>
    ⟨store, [⟨warningLevel, "ignoring invalid settings payload: ".toList ++ error.message⟩]⟩

inductive StoreEvent
  | request (uri : String)
  | cancel (request : Nat)
  | settle (retrieval : Nat) (answer : Answer)
  | change (payload : Value)
  | close (uri : String)
  | enablePull

def Store.step (store : Store) : StoreEvent → Logged Store
  | .request uri => ⟨store.request uri, []⟩
  | .cancel request => ⟨store.cancel request, []⟩
  | .settle retrieval answer => store.settle retrieval answer
  | .change payload => store.change payload
  | .close uri => ⟨store.forget uri, []⟩
  | .enablePull => ⟨{ store with pulls := true }, []⟩

def Store.run (store : Store) : List StoreEvent → Logged Store
  | [] => ⟨store, []⟩
  | event :: rest =>
    let ⟨next, records⟩ := store.step event
    let ⟨last, more⟩ := next.run rest
    ⟨last, records ++ more⟩

end Shorthand
