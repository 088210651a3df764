import Mathlib.Data.List.Count
import Shorthand.Proofs.Log.Handlers

/-!
# The delivery of records

A record that passes the level of the log is handed to each attached client and to the latest
stream, once each.  What a client does with it concerns nobody else.
-/

namespace Shorthand

/-! ## Names and levels -/

/-- The records of a log reach the server's log if it is that log or one below it. -/
theorem reachesLog_iff {logger : String} :
    reachesLog logger = true ↔ logger = logName ∨ ∃ rest, logger = logName ++ "." ++ rest := by
  rw [reachesLog, Bool.or_eq_true, beq_iff_eq, List.isPrefixOf_iff_prefix]
  apply or_congr_right
  constructor
  · rintro ⟨rest, hrest⟩
    refine ⟨String.ofList rest, ?_⟩
    rw [← String.toList_inj, String.toList_append, String.toList_ofList, hrest]
  · rintro ⟨rest, rfl⟩
    rw [String.toList_append, String.toList_append]
    exact List.prefix_append _ _

theorem passes_iff {level recordLevel : Int} :
    passes level recordLevel = true ↔ 0 < recordLevel ∧ effectiveLevel level ≤ recordLevel := by
  rw [passes, Bool.and_eq_true, decide_eq_true_iff, decide_eq_true_iff]

/-! ## What a receiver is handed -/

/-- The handler that makes a delivery. -/
def Delivery.receiver : Delivery → Handler
  | .toClient sink _ _ => .client sink
  | .toStream number _ => .stream number

def handedTo (receiver : Handler) (handed : List Handover) : List Handover :=
  handed.filter (·.delivery.receiver == receiver)

theorem handle_client (raises : String → Bool) (logger : String) (record : Record)
    (sink : String) :
    (Handler.client sink).handle raises logger record =
      ⟨.toClient sink (.ofLevel record.level) record.message, !raises sink⟩ := by
  cases hraises : raises sink <;>
    simp [Handler.handle, Handler.delivery, Delivery.send, hraises]

theorem handle_receiver (raises : String → Bool) (logger : String) (record : Record)
    (handler : Handler) :
    (handler.handle raises logger record).delivery.receiver = handler := by
  cases handler with
  | client sink => rw [handle_client]; rfl
  | stream number => rfl

/-- A receiver is handed a record once if it is among handlers that are distinct, and not at
all otherwise. -/
theorem handedTo_map_handle
    {handlers : List Handler} (hdistinct : handlers.Nodup) (raises : String → Bool)
    (logger : String) (record : Record) (receiver : Handler) :
    handedTo receiver (handlers.map (Handler.handle raises logger record)) =
      if receiver ∈ handlers then [receiver.handle raises logger record] else [] := by
  have hreceiver : ((·.delivery.receiver == receiver) ∘ Handler.handle raises logger record) =
      (· == receiver) := by
    funext handler
    rw [Function.comp_apply, handle_receiver]
  rw [handedTo, List.filter_map, hreceiver, List.filter_beq, hdistinct.count]
  split <;> rfl

theorem emit_of_passes
    {log : Log} {logger : String} {record : Record} (raises : String → Bool)
    (hlogger : reachesLog logger = true) (hpasses : passes log.level record.level = true) :
    log.emit raises logger record = log.handlers.map (Handler.handle raises logger record) := by
  rw [Log.emit, if_pos]
  rw [hlogger, hpasses]
  rfl

theorem emit_of_not_passes
    {log : Log} {record : Record} (raises : String → Bool) (logger : String)
    (hpasses : ¬passes log.level record.level = true) :
    log.emit raises logger record = [] := by
  rw [Log.emit, if_neg]
  rw [Bool.and_eq_true]
  exact fun hboth => hpasses hboth.2

/-- After any events the log has one client for each connection attached so far, in the order
of their first attachments, and the stream opened last.  A record above level zero that is at
the effective level or above is handed once to each of them, and arrives wherever the receiver
itself does not raise an error; any other record is handed to nobody.  The log stays as it
is. -/
theorem records_reach_each_receiver_once (events : List LogEvent) :
    let log := Log.initial.after events
    log.sinks = attachedSinks events ∧ log.sinks.Nodup ∧
      (∀ sink, sink ∈ log.sinks ↔ .attach sink ∈ events) ∧
      log.openStreams = (latestStream? events).toList ∧
      log.level = levelSet events ∧
      ∀ raises logger record, (logger = logName ∨ ∃ rest, logger = logName ++ "." ++ rest) →
        let outcome := log.step (.emit raises logger record)
        outcome.1 = log ∧
          (0 < record.level → effectiveLevel log.level ≤ record.level →
            (∀ sink, handedTo (.client sink) outcome.2 =
              if sink ∈ log.sinks then
                [⟨.toClient sink (.ofLevel record.level) record.message, !raises sink⟩]
              else []) ∧
            ∀ number, handedTo (.stream number) outcome.2 =
              if latestStream? events = some number then
                [⟨(Handler.stream number).delivery logger record, true⟩]
              else []) ∧
          (record.level ≤ 0 ∨ record.level < effectiveLevel log.level → outcome.2 = []) := by
  intro log
  have hlog : log.Reflects events := reflects_after events
  refine ⟨hlog.sinks, hlog.sinks_nodup, ?_, hlog.openStreams, hlog.level, ?_⟩
  · intro sink
    rw [hlog.sinks, mem_attachedSinks]
  intro raises logger record hlogger outcome
  refine ⟨rfl, ?_, ?_⟩
  · intro himportant hlevel
    have hpasses : passes log.level record.level = true := passes_iff.mpr ⟨himportant, hlevel⟩
    have hhanded : outcome.2 = log.handlers.map (Handler.handle raises logger record) :=
      emit_of_passes raises (reachesLog_iff.mpr hlogger) hpasses
    rw [hhanded]
    constructor
    · intro sink
      rw [handedTo_map_handle hlog.distinct, handle_client]
      simp only [mem_sinks]
    · intro number
      have hstream : Handler.stream number ∈ log.handlers ↔ latestStream? events = some number := by
        rw [← mem_openStreams, hlog.openStreams, Option.mem_toList]
      rw [handedTo_map_handle hlog.distinct]
      simp only [hstream]
      rfl
  · intro hunimportant
    apply emit_of_not_passes
    rw [passes_iff]
    omega

/-- A record below level zero is handed to nobody, also where it is at the level of the log or
above. -/
theorem record_below_zero_reaches_nobody :
    let log := Log.initial.after [.setup (-10), .attach "a"]
    effectiveLevel log.level ≤ -5 ∧ log.handlers = [.stream 0, .client "a"] ∧
      log.emit (fun _ => false) logName ⟨-5, ['x']⟩ = [] := by
  decide

end Shorthand
