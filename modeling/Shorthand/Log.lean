import Shorthand.Record
import Shorthand.Text.Blank
import Shorthand.Value

/-!
# Log

Records pass the level of the log and go to its handlers: to every client that
has been attached, and to one stream.
-/

namespace Shorthand

/-- The name of the server's log.  Logs below it pass their records on to it. -/
def logName : String := "emmet_ls"

/-- Whether the records of a log reach the server's log. -/
def reachesLog (name : String) : Bool :=
  name == logName || (logName ++ ".").toList.isPrefixOf name.toList

/-- The level that a name stands for. -/
def levelOfName : List Char → Option Int
  | ['d', 'e', 'b', 'u', 'g'] => some debugLevel
  | ['i', 'n', 'f', 'o'] => some infoLevel
  | ['w', 'a', 'r', 'n', 'i', 'n', 'g'] => some warningLevel
  | ['e', 'r', 'r', 'o', 'r'] => some errorLevel
  | _ => none

/-- The level that a text names, in any case and with blanks around. -/
def parseLevel (text : List Char) : Option Int := levelOfName (lower (strip text))

/-- The level that a value names. -/
def Value.level? : Value → Option Int
  | .str text => parseLevel text.toList
  | _ => none

inductive MessageType
  | error
  | warning
  | info
  | log
  deriving DecidableEq, Repr

def MessageType.number : MessageType → Nat
  | .error => 1
  | .warning => 2
  | .info => 3
  | .log => 4

/-- The message type for a level.  A level between the usual ones is a mere log. -/
def MessageType.ofLevel (level : Int) : MessageType :=
  if level = infoLevel then .info
  else if level = warningLevel then .warning
  else if level = errorLevel || level = criticalLevel then .error
  else .log

/-- The name of a level in a stream. -/
def levelName (level : Int) : List Char :=
  if level = debugLevel then "DEBUG".toList
  else if level = infoLevel then "INFO".toList
  else if level = warningLevel then "WARNING".toList
  else if level = errorLevel then "ERROR".toList
  else if level = criticalLevel then "CRITICAL".toList
  else s!"Level {level}".toList

/-- Where records go. -/
inductive Handler
  /-- A client, by the identity of its connection. -/
  | client (sink : String)
  /-- A stream, by the order in which streams were opened. -/
  | stream (number : Nat)
  deriving DecidableEq, Repr

/-- Whether a handler is the client of a connection. -/
def Handler.isClientOf (sink : String) : Handler → Bool
  | .client other => other == sink
  | .stream _ => false

def Handler.isStream : Handler → Bool
  | .client _ => false
  | .stream _ => true

structure Log where
  level : Int
  handlers : List Handler
  /-- The number of streams opened so far. -/
  streams : Nat
  deriving DecidableEq, Repr

def Log.initial : Log := ⟨warningLevel, [], 0⟩

/-- The level that decides.  A log without one of its own has the default. -/
def effectiveLevel (level : Int) : Int := if level = 0 then warningLevel else level

/-- Whether records of a level pass.  Records without importance never do. -/
def passes (level recordLevel : Int) : Bool :=
  0 < recordLevel && effectiveLevel level ≤ recordLevel

/-- A log with a client attached.  A connection is attached once. -/
def Log.attach (log : Log) (sink : String) : Log :=
  if log.handlers.any (·.isClientOf sink) then log
  else { log with handlers := log.handlers ++ [.client sink] }

/-- A log with a level and a new stream instead of the one before. -/
def Log.setup (log : Log) (level : Int) : Log :=
  ⟨level, log.handlers.filter (!·.isStream) ++ [.stream log.streams], log.streams + 1⟩

/-- A log at the level that a value names, if it names one. -/
def Log.applyLevel (log : Log) (value : Value) : Log :=
  { log with level := value.level?.getD log.level }

/-- A message for a client, or a line for a stream. -/
inductive Delivery
  | toClient (sink : String) (type : MessageType) (message : List Char)
  | toStream (number : Nat) (line : List Char)
  deriving DecidableEq, Repr

/-- What a handler makes of a record. -/
def Handler.delivery (logger : String) (record : Record) : Handler → Delivery
  | .client sink => .toClient sink (.ofLevel record.level) record.message
  | .stream number =>
    .toStream number
      (levelName record.level ++ ' ' :: logger.toList ++ ':' :: ' ' :: record.message)

/-- The error of a client that does not take a message. -/
structure SinkError where
  sink : String
  deriving DecidableEq, Repr

/-- A delivery is taken, unless its client raises an error. -/
def Delivery.send (raises : String → Bool) : Delivery → Except SinkError Unit
  | .toClient sink _ _ => if raises sink then .error ⟨sink⟩ else .ok ()
  | .toStream _ _ => .ok ()

/-- A delivery that was handed over. -/
structure Handover where
  delivery : Delivery
  /-- Whether it arrived. -/
  taken : Bool
  deriving DecidableEq, Repr

/-- What a handler hands over of a record.  An error of its receiver goes no further. -/
def Handler.handle (raises : String → Bool) (logger : String) (record : Record)
    (handler : Handler) : Handover :=
  let delivery := handler.delivery logger record
  match delivery.send raises with
  | .ok () => ⟨delivery, true⟩
  | .error _ => ⟨delivery, false⟩

/-- What is handed over of a record that a log of some name is given, while some clients
raise errors. -/
def Log.emit (log : Log) (raises : String → Bool) (logger : String) (record : Record) :
    List Handover :=
  if reachesLog logger && passes log.level record.level then
    log.handlers.map (Handler.handle raises logger record)
  else []

/-- What happens to a log. -/
inductive LogEvent
  | attach (sink : String)
  | setup (level : Int)
  | applyLevel (value : Value)
  | emit (raises : String → Bool) (logger : String) (record : Record)

/-- A log after an event, and what was handed over. -/
def Log.step (log : Log) : LogEvent → Log × List Handover
  | .attach sink => (log.attach sink, [])
  | .setup level => (log.setup level, [])
  | .applyLevel value => (log.applyLevel value, [])
  | .emit raises logger record => (log, log.emit raises logger record)

/-- A log after events in order. -/
def Log.after (log : Log) (events : List LogEvent) : Log :=
  events.foldl (fun log event => (log.step event).1) log

/-- The records that pass a level, as messages to a client. -/
def clientMessages (level : Int) (records : List Record) : List (MessageType × List Char) :=
  (records.filter fun record => passes level record.level).map fun record =>
    (.ofLevel record.level, record.message)

/-- The text of a number without its fraction, for a place that takes a whole number. -/
def wholeText : Value → Option (List Char)
  | .int n => some (toString n).toList
  | .bool b => some (if b then ['1'] else ['0'])
  | .float x =>
    match Decimal.Binary.ofFloat x with
    | .finite negative mantissa exponent =>
      let size := mantissa * Decimal.twoTo exponent.toNat / Decimal.twoTo (-exponent).toNat
      some ((if negative && size ≠ 0 then ['-'] else []) ++ Decimal.digits size)
    | _ => none
  | _ => none

/-- A message with its places filled by arguments, one each; `none` when they do
not fit. -/
def fillPlaces : List Char → List Value → Option (List Char)
  | [], [] => some []
  | [], _ :: _ => none
  | '%' :: '%' :: rest, arguments => (fillPlaces rest arguments).map ('%' :: ·)
  | '%' :: 's' :: rest, argument :: arguments =>
    (fillPlaces rest arguments).map (argument.text ++ ·)
  | '%' :: 'd' :: rest, argument :: arguments => do
    let number ← wholeText argument
    return number ++ (← fillPlaces rest arguments)
  | '%' :: _, _ => none
  | c :: rest, arguments => (fillPlaces rest arguments).map (c :: ·)

/-- A message with its arguments.  Without any it stands as it is, and a lone object
need not be used. -/
def formatMessage (message : List Char) : List Value → Option (List Char)
  | [] => some message
  | [.object (field :: fields)] =>
    (fillPlaces message [.object (field :: fields)]).orElse fun _ => fillPlaces message []
  | arguments => fillPlaces message arguments

end Shorthand
