import Mathlib.Data.List.Nodup
import Shorthand.Log

/-!
# The handlers of a log

Clients are attached and streams are opened in any order and any number of times.  At every
point the handlers of the log are those that the events so far call for: one for each client
that was attached, in the order in which the clients first came, and one for the stream that
was opened last.
-/

namespace Shorthand

/-! ## What the events so far call for -/

/-- The connection that an event attaches. -/
def LogEvent.sink? : LogEvent → Option String
  | .attach sink => some sink
  | _ => none

/-- The level that an event sets. -/
def LogEvent.level? : LogEvent → Option Int
  | .setup level => some level
  | .applyLevel value => value.level?
  | _ => none

def LogEvent.opensStream : LogEvent → Bool
  | .setup _ => true
  | _ => false

/-- The connections attached so far, in the order of their first attachments. -/
def attachedSinks (events : List LogEvent) : List String :=
  (events.filterMap LogEvent.sink?).eraseDups

def streamsOpened (events : List LogEvent) : Nat := events.countP LogEvent.opensStream

/-- The stream opened last.  Streams have their numbers in the order of their opening. -/
def latestStream? (events : List LogEvent) : Option Nat :=
  match streamsOpened events with
  | 0 => none
  | number + 1 => some number

def levelSet (events : List LogEvent) : Int :=
  (events.filterMap LogEvent.level?).getLast?.getD warningLevel

theorem LogEvent.sink?_eq_some_iff {event : LogEvent} {sink : String} :
    event.sink? = some sink ↔ event = .attach sink := by
  cases event <;> simp [LogEvent.sink?]

theorem mem_attachedSinks {events : List LogEvent} {sink : String} :
    sink ∈ attachedSinks events ↔ .attach sink ∈ events := by
  rw [attachedSinks, List.mem_eraseDups, List.mem_filterMap]
  simp only [LogEvent.sink?_eq_some_iff, exists_eq_right]

theorem attachedSinks_append_attach (past : List LogEvent) (sink : String) :
    attachedSinks (past ++ [.attach sink]) =
      if sink ∈ attachedSinks past then attachedSinks past else attachedSinks past ++ [sink] := by
  simp only [attachedSinks, List.filterMap_append, List.filterMap_cons, List.filterMap_nil,
    LogEvent.sink?, List.eraseDups_append, List.mem_eraseDups]
  split
  · next hattached =>
      have hnone : [sink].removeAll (past.filterMap LogEvent.sink?) = [] := by
        simp only [List.removeAll, List.elem_eq_mem, List.filter_cons, hattached, decide_true,
          Bool.not_true, Bool.false_eq_true, if_false, List.filter_nil]
      rw [hnone, List.eraseDups_nil, List.append_nil]
  · next hnew =>
      have hone : [sink].removeAll (past.filterMap LogEvent.sink?) = [sink] := by
        simp only [List.removeAll, List.elem_eq_mem, List.filter_cons, hnew, decide_false,
          Bool.not_false, if_true, List.filter_nil]
      rw [hone]
      rfl

theorem attachedSinks_append_of_sink?_eq_none
    (past : List LogEvent) {event : LogEvent} (hevent : event.sink? = none) :
    attachedSinks (past ++ [event]) = attachedSinks past := by
  rw [attachedSinks, List.filterMap_append, List.filterMap_cons_none hevent, List.filterMap_nil,
    List.append_nil, attachedSinks]

theorem levelSet_append (past : List LogEvent) (event : LogEvent) :
    levelSet (past ++ [event]) = event.level?.getD (levelSet past) := by
  rw [levelSet, List.filterMap_append]
  cases hevent : event.level? with
  | none => simp only [List.filterMap_cons_none hevent, List.filterMap_nil, List.append_nil,
      Option.getD_none, levelSet]
  | some level => simp only [List.filterMap_cons_some hevent, List.filterMap_nil,
      List.getLast?_concat, Option.getD_some]

theorem streamsOpened_append (past : List LogEvent) (event : LogEvent) :
    streamsOpened (past ++ [event]) = streamsOpened past + event.opensStream.toNat := by
  rw [streamsOpened, List.countP_append, List.countP_singleton, streamsOpened]
  cases event.opensStream <;> rfl

/-! ## The handlers by their kind -/

def Handler.sink? : Handler → Option String
  | .client sink => some sink
  | .stream _ => none

def Handler.stream? : Handler → Option Nat
  | .client _ => none
  | .stream number => some number

def Log.sinks (log : Log) : List String := log.handlers.filterMap Handler.sink?

def Log.openStreams (log : Log) : List Nat := log.handlers.filterMap Handler.stream?

theorem Handler.sink?_eq_some_iff {handler : Handler} {sink : String} :
    handler.sink? = some sink ↔ handler = .client sink := by
  cases handler <;> simp [Handler.sink?]

theorem Handler.stream?_eq_some_iff {handler : Handler} {number : Nat} :
    handler.stream? = some number ↔ handler = .stream number := by
  cases handler <;> simp [Handler.stream?]

theorem Handler.isClientOf_iff {handler : Handler} {sink : String} :
    handler.isClientOf sink = true ↔ handler = .client sink := by
  cases handler <;> simp [Handler.isClientOf]

theorem mem_sinks {log : Log} {sink : String} :
    sink ∈ log.sinks ↔ .client sink ∈ log.handlers := by
  rw [Log.sinks, List.mem_filterMap]
  simp only [Handler.sink?_eq_some_iff, exists_eq_right]

theorem mem_openStreams {log : Log} {number : Nat} :
    number ∈ log.openStreams ↔ .stream number ∈ log.handlers := by
  rw [Log.openStreams, List.mem_filterMap]
  simp only [Handler.stream?_eq_some_iff, exists_eq_right]

theorem any_isClientOf_iff {log : Log} {sink : String} :
    log.handlers.any (·.isClientOf sink) = true ↔ sink ∈ log.sinks := by
  rw [List.any_eq_true, mem_sinks]
  simp only [Handler.isClientOf_iff, exists_eq_right]

theorem attach_of_mem {log : Log} {sink : String} (hsink : sink ∈ log.sinks) :
    log.attach sink = log := by
  rw [Log.attach, if_pos (any_isClientOf_iff.mpr hsink)]

theorem attach_of_not_mem {log : Log} {sink : String} (hsink : sink ∉ log.sinks) :
    log.attach sink = { log with handlers := log.handlers ++ [.client sink] } := by
  rw [Log.attach, if_neg (mt any_isClientOf_iff.mp hsink)]

theorem sinks_setup (log : Log) (level : Int) : (log.setup level).sinks = log.sinks := by
  have hkept : ∀ handler : Handler,
      (if !handler.isStream then handler.sink? else none) = handler.sink? := by
    intro handler
    cases handler <;> rfl
  have hstream : List.filterMap Handler.sink? [.stream log.streams] = [] := rfl
  rw [Log.sinks, Log.setup, List.filterMap_append, List.filterMap_filter, hstream,
    List.append_nil, Log.sinks]
  exact congrArg (List.filterMap · log.handlers) (funext hkept)

theorem openStreams_setup (log : Log) (level : Int) :
    (log.setup level).openStreams = [log.streams] := by
  have hclosed : ∀ handler ∈ log.handlers.filter (!·.isStream), handler.stream? = none := by
    intro handler hhandler
    obtain ⟨-, hclient⟩ := List.mem_filter.mp hhandler
    cases handler with
    | client sink => rfl
    | stream number => cases hclient
  rw [Log.openStreams, Log.setup, List.filterMap_append,
    List.filterMap_eq_nil_iff.mpr hclosed]
  rfl

/-! ## The log and its past -/

/-- A log has the handlers and the level that the events of its past call for. -/
structure Log.Reflects (log : Log) (past : List LogEvent) : Prop where
  sinks : log.sinks = attachedSinks past
  openStreams : log.openStreams = (latestStream? past).toList
  streams : log.streams = streamsOpened past
  level : log.level = levelSet past
  /-- No handler stands twice. -/
  distinct : log.handlers.Nodup

theorem Log.Reflects.sinks_nodup
    {log : Log} {past : List LogEvent} (hlog : log.Reflects past) : log.sinks.Nodup := by
  apply hlog.distinct.filterMap
  intro handler other sink hhandler hother
  rw [Handler.sink?_eq_some_iff.mp hhandler, Handler.sink?_eq_some_iff.mp hother]

theorem reflects_initial : Log.initial.Reflects [] :=
  ⟨rfl, rfl, rfl, rfl, List.nodup_nil⟩

theorem Log.Reflects.of_handlers_eq
    {log now : Log} {past : List LogEvent} {event : LogEvent} (hlog : log.Reflects past)
    (hsinks : attachedSinks (past ++ [event]) = attachedSinks past)
    (hstream : event.opensStream = false)
    (hhandlers : now.handlers = log.handlers) (hstreams : now.streams = log.streams)
    (hlevel : now.level = event.level?.getD log.level) :
    now.Reflects (past ++ [event]) := by
  have hopened : streamsOpened (past ++ [event]) = streamsOpened past := by
    rw [streamsOpened_append, hstream]
    rfl
  constructor
  · rw [hsinks, ← hlog.sinks, Log.sinks, hhandlers, Log.sinks]
  · rw [latestStream?, hopened, ← latestStream?, ← hlog.openStreams, Log.openStreams, hhandlers,
      Log.openStreams]
  · rw [hopened, hstreams, hlog.streams]
  · rw [levelSet_append, hlevel, hlog.level]
  · rw [hhandlers]
    exact hlog.distinct

theorem Log.Reflects.attach
    {log : Log} {past : List LogEvent} (hlog : log.Reflects past) (sink : String) :
    (log.attach sink).Reflects (past ++ [.attach sink]) := by
  have hsinks := attachedSinks_append_attach past sink
  rw [← hlog.sinks] at hsinks
  -- A connection adds a handler only the first time.
  by_cases hsink : sink ∈ log.sinks
  · rw [if_pos hsink, hlog.sinks] at hsinks
    rw [attach_of_mem hsink]
    exact hlog.of_handlers_eq hsinks rfl rfl rfl rfl
  · rw [if_neg hsink] at hsinks
    rw [attach_of_not_mem hsink]
    have hopened : streamsOpened (past ++ [.attach sink]) = streamsOpened past :=
      streamsOpened_append past (.attach sink)
    constructor
    · rw [hsinks, Log.sinks, List.filterMap_append]
      rfl
    · rw [latestStream?, hopened, ← latestStream?, ← hlog.openStreams, Log.openStreams,
        List.filterMap_append]
      exact List.append_nil _
    · rw [hopened]
      exact hlog.streams
    · rw [levelSet_append]
      exact hlog.level
    · have hnew : Handler.client sink ∉ log.handlers := by rwa [← mem_sinks]
      have hdistinct := hlog.distinct.concat hnew
      rwa [List.concat_eq_append] at hdistinct

theorem Log.Reflects.setup
    {log : Log} {past : List LogEvent} (hlog : log.Reflects past) (level : Int) :
    (log.setup level).Reflects (past ++ [.setup level]) := by
  have hopened : streamsOpened (past ++ [.setup level]) = streamsOpened past + 1 :=
    streamsOpened_append past (.setup level)
  constructor
  · rw [sinks_setup, hlog.sinks, attachedSinks_append_of_sink?_eq_none past rfl]
  · rw [openStreams_setup, latestStream?, hopened, hlog.streams]
    rfl
  · rw [hopened, ← hlog.streams]
    rfl
  · rw [levelSet_append]
    rfl
  · have hnew : Handler.stream log.streams ∉ log.handlers.filter (!·.isStream) := by
      simp [Handler.isStream]
    have hdistinct := (hlog.distinct.filter _).concat hnew
    rwa [List.concat_eq_append] at hdistinct

theorem Log.Reflects.step
    {log : Log} {past : List LogEvent} (hlog : log.Reflects past) (event : LogEvent) :
    (log.step event).1.Reflects (past ++ [event]) := by
  cases event with
  | attach sink => exact hlog.attach sink
  | setup level => exact hlog.setup level
  | applyLevel value =>
      have hsinks : attachedSinks (past ++ [.applyLevel value]) = attachedSinks past :=
        attachedSinks_append_of_sink?_eq_none past rfl
      exact hlog.of_handlers_eq hsinks rfl rfl rfl rfl
  | emit raises logger record =>
      have hsinks : attachedSinks (past ++ [.emit raises logger record]) = attachedSinks past :=
        attachedSinks_append_of_sink?_eq_none past rfl
      exact hlog.of_handlers_eq hsinks rfl rfl rfl rfl

theorem Log.Reflects.after
    {log : Log} {past : List LogEvent} (hlog : log.Reflects past) (events : List LogEvent) :
    (log.after events).Reflects (past ++ events) := by
  -- The past grows with each event, so it is general in the induction.
  induction events generalizing log past with
  | nil => simpa [Log.after] using hlog
  | cons event rest ih =>
      have hrest := ih (hlog.step event)
      rwa [List.append_assoc, List.singleton_append] at hrest

/-- After any events the log has the handlers and the level that they call for. -/
theorem reflects_after (events : List LogEvent) :
    (Log.initial.after events).Reflects events :=
  reflects_initial.after events

end Shorthand
