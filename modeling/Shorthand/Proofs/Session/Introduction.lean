import Shorthand.Proofs.Session.Documents

/-!
# Introductions

A client that introduces itself gets a configuration, or an error.  With a configuration the
session begins anew with a fresh store; with an error it goes on as it was, except that the
capabilities are noted before anything can fail.  So over a run the store belongs to the client
that was admitted last, and the capabilities to the client that came last.
-/

namespace Shorthand

namespace Session

/-! ## One introduction -/

theorem configuration_eq_ok_iff
    {session : Session} {env : Environment} {client : Introduction} {config : ServerConfig} :
    session.configuration env client = .ok config ↔
      ∃ root options file, workspaceRoot client.rootUri client.rootPath = .ok root ∧
        Options.ofPayload client.options = .ok options ∧
        loadConfig env root session.configPath = .ok file ∧
        config = .merge options file := by
  unfold configuration
  cases workspaceRoot client.rootUri client.rootPath with
  | error error => simp
  | ok root =>
      simp only [ServerConfig.resolve, Except.ok.injEq]
      cases Options.ofPayload client.options with
      | error refusals => simp
      | ok options =>
          simp only [Except.ok.injEq]
          cases hfile : loadConfig env root session.configPath with
          | error error => simp [Except.map, hfile]
          | ok file => simp [Except.map, hfile, eq_comm]

/-- A client is configured, or only its capabilities are noted. -/
theorem initialize_cases (session : Session) (env : Environment) (client : Introduction) :
    let noted := { session with capabilities := client.capabilities }
    (∃ config, session.configuration env client = .ok config ∧
      session.initialize env client = (noted.configured config, .ok ())) ∨
    (∃ error, session.configuration env client = .error error ∧
      session.initialize env client = (noted, .error error)) := by
  intro noted
  have hsame : noted.configuration env client = session.configuration env client := rfl
  cases hconfig : session.configuration env client with
  | error error =>
      rw [hconfig] at hsame
      exact .inr ⟨error, rfl, by simp only [noted, Session.initialize, hsame]⟩
  | ok config =>
      rw [hconfig] at hsame
      exact .inl ⟨config, rfl, by simp only [noted, Session.initialize, hsame]⟩

end Session

/-! ## The introductions of a run -/

/-- The client that introduces itself in an event. -/
def SessionEvent.client? : SessionEvent → Option Introduction
  | .introduce _ client => some client
  | _ => none

theorem SessionEvent.client?_eq_some_iff {event : SessionEvent} {client : Introduction} :
    event.client? = some client ↔ ∃ env, event = .introduce env client := by
  cases event <;> simp [client?]

/-- The clients that introduced themselves, in order. -/
def introduced (events : List SessionEvent) : List Introduction :=
  events.filterMap SessionEvent.client?

theorem introduced_cons (event : SessionEvent) (rest : List SessionEvent) :
    introduced (event :: rest) = event.client?.toList ++ introduced rest := by
  rw [introduced, List.filterMap_cons]
  cases event.client? with
  | none => rfl
  | some client => rfl

namespace Session

/-- The client that a session is configured for by an event. -/
def admits? (session : Session) : SessionEvent → Option Introduction
  | .introduce env client =>
    match session.initialize env client with
    | (_, .ok ()) => some client
    | (_, .error _) => none
  | _ => none

/-- The clients that a session was configured for in a run, in order. -/
def admitted (session : Session) : List SessionEvent → List Introduction
  | [] => []
  | event :: rest => (session.admits? event).toList ++ (session.step event).result.1.admitted rest

theorem pulls_of_forwards
    {session : Session} {event : SessionEvent} {storeEvent : StoreEvent}
    (hforwards : session.Forwards event storeEvent) :
    (session.store.step storeEvent).result.pulls = session.store.pulls := by
  cases hforwards with
  | complete => exact session.store.request_pulls _
  | @configure settings =>
      obtain ⟨default, h⟩ := session.store.change_cases settings
      rw [Store.step, h]
  | close => rfl
  | settle => exact session.store.settle_pulls _ _
  | cancel => exact session.store.cancel_pulls _

theorem pulls_of_client?_eq_none
    {session : Session} {event : SessionEvent} (hevent : event.client? = none) :
    (session.step event).result.1.store.pulls = session.store.pulls := by
  rcases session.step_store_cases event with
    ⟨-, h | ⟨storeEvent, hforwards, h⟩⟩ | ⟨env, client, configured, routing, pulls, rfl, -, -⟩
  · rw [h]
  · rw [h, pulls_of_forwards hforwards]
  · cases hevent

/-- Whether the client is asked for settings is decided for each client that is admitted, and
only then. -/
theorem pulls_step (session : Session) (event : SessionEvent) :
    (session.step event).result.1.store.pulls =
      ((session.admits? event).map (·.capabilities.configuration)).getD session.store.pulls := by
  cases event with
  | introduce env client =>
      rcases session.initialize_cases env client with ⟨config, -, h⟩ | ⟨error, -, h⟩
      · simp only [step, admits?, h]
        rfl
      · simp only [step, admits?, h]
        rfl
  | ready | changeFolders | shutDown | configure | openDocument | edit | closeDocument | complete
  | settle | cancel =>
      exact pulls_of_client?_eq_none rfl

/-- What belongs to the client stays with all other events, and only one that is ready is asked
to send notifications. -/
theorem frame_of_client?_eq_none
    {session : Session} {event : SessionEvent} (hevent : event.client? = none) :
    ∃ phase store retired documents opened calls registered, (session.step event).result.1 =
      { session with phase, store, retired, documents, opened, calls, registered } ∧
      (registered = session.registered ∨
        event = .ready ∧ registered = session.registered ++ session.registrations) := by
  cases event with
  | introduce => cases hevent
  | ready => exact ⟨_, _, _, _, _, _, _, rfl, .inr ⟨rfl, rfl⟩⟩
  | changeFolders | shutDown | configure | openDocument | closeDocument =>
      exact ⟨_, _, _, _, _, _, _, rfl, .inl rfl⟩
  | edit uri text =>
      obtain ⟨documents, h, -⟩ := session.edit_cases uri text
      exact ⟨_, _, _, documents, _, _, _, h, .inl rfl⟩
  | complete engine uri position =>
      rcases session.complete_session_cases engine uri position with h | ⟨number, calls, h, -⟩
      · exact ⟨_, _, _, _, _, _, _, h, .inl rfl⟩
      · exact ⟨_, _, _, _, _, calls, _, h, .inl rfl⟩
  | settle engine generation retrieval answer =>
      obtain ⟨store, retired, calls, h⟩ :=
        (session.resumed_settle engine generation retrieval answer).frame
      exact ⟨_, store, retired, _, _, calls, _, h, .inl rfl⟩
  | cancel engine id =>
      obtain ⟨store, retired, calls, h⟩ := (session.resumed_cancel engine id).frame
      exact ⟨_, store, retired, _, _, calls, _, h, .inl rfl⟩

theorem capabilities_step (session : Session) (event : SessionEvent) :
    (session.step event).result.1.capabilities =
      (event.client?.map (·.capabilities)).getD session.capabilities := by
  cases hevent : event.client? with
  | none =>
      obtain ⟨phase, store, retired, documents, opened, calls, registered, h, -⟩ :=
        session.frame_of_client?_eq_none hevent
      rw [h]
      rfl
  | some client =>
      obtain ⟨env, rfl⟩ := SessionEvent.client?_eq_some_iff.mp hevent
      rcases session.initialize_cases env client with ⟨config, -, h⟩ | ⟨error, -, h⟩
      · simp only [step, h]
        rfl
      · simp only [step, h]
        rfl

theorem configPath_step (session : Session) (event : SessionEvent) :
    (session.step event).result.1.configPath = session.configPath := by
  cases hevent : event.client? with
  | none =>
      obtain ⟨phase, store, retired, documents, opened, calls, registered, h, -⟩ :=
        session.frame_of_client?_eq_none hevent
      rw [h]
  | some client =>
      obtain ⟨env, rfl⟩ := SessionEvent.client?_eq_some_iff.mp hevent
      rcases session.initialize_cases env client with ⟨config, -, h⟩ | ⟨error, -, h⟩
      · simp only [step, h]
        rfl
      · simp only [step, h]

theorem registered_step (session : Session) (event : SessionEvent) :
    (session.step event).result.1.registered = session.registered ∨
      event = .ready ∧ (session.step event).result.1.registered =
        session.registered ++ session.registrations := by
  cases hevent : event.client? with
  | none =>
      obtain ⟨phase, store, retired, documents, opened, calls, registered, h, hregistered⟩ :=
        session.frame_of_client?_eq_none hevent
      rw [h]
      exact hregistered
  | some client =>
      obtain ⟨env, rfl⟩ := SessionEvent.client?_eq_some_iff.mp hevent
      left
      rcases session.initialize_cases env client with ⟨config, -, h⟩ | ⟨error, -, h⟩
      · simp only [step, h]
        rfl
      · simp only [step, h]

/-! ## Any run -/

theorem configPath_after (session : Session) (events : List SessionEvent) :
    (session.after events).configPath = session.configPath := by
  induction events generalizing session with
  | nil => rfl
  | cons event rest ih => rw [after_cons, ih, configPath_step]

/-- The last of some items, where another one may come before them all. -/
theorem getD_getLast?_toList_append
    {α β : Type} (first : Option α) (rest : List α) (f : α → β) (default : β) :
    ((first.toList ++ rest).getLast?.map f).getD default =
      (rest.getLast?.map f).getD ((first.map f).getD default) := by
  rw [List.getLast?_append]
  cases rest.getLast? with
  | some a => rfl
  | none => cases first <;> rfl

theorem pulls_after (session : Session) (events : List SessionEvent) :
    (session.after events).store.pulls =
      ((session.admitted events).getLast?.map (·.capabilities.configuration)).getD
        session.store.pulls := by
  induction events generalizing session with
  | nil => rfl
  | cons event rest ih =>
      rw [after_cons, ih, pulls_step, admitted, getD_getLast?_toList_append]

theorem capabilities_after (session : Session) (events : List SessionEvent) :
    (session.after events).capabilities =
      ((introduced events).getLast?.map (·.capabilities)).getD session.capabilities := by
  induction events generalizing session with
  | nil => rfl
  | cons event rest ih =>
      rw [after_cons, ih, capabilities_step, introduced_cons, getD_getLast?_toList_append]

theorem mem_registered_after
    {session : Session} {events : List SessionEvent} {name : String}
    (hname : name ∈ (session.after events).registered) :
    name ∈ session.registered ∨ session.capabilities.configuration = true ∨
      ∃ client ∈ introduced events, client.capabilities.configuration = true := by
  induction events generalizing session with
  | nil => exact .inl hname
  | cons event rest ih =>
      rw [introduced_cons]
      rw [after_cons] at hname
      rcases ih hname with hbefore | hcapable | ⟨client, hclient, hcapable⟩
      · rcases session.registered_step event with hsame | ⟨-, hmore⟩
        · exact .inl (hsame ▸ hbefore)
        · rw [hmore, List.mem_append] at hbefore
          refine hbefore.imp id fun hnew => .inl ?_
          cases hconfiguration : session.capabilities.configuration with
          | true => rfl
          | false =>
              rw [registrations, hconfiguration] at hnew
              cases hnew
      · rw [capabilities_step] at hcapable
        cases hevent : event.client? with
        | none =>
            rw [hevent] at hcapable
            exact .inr (.inl hcapable)
        | some client =>
            rw [hevent] at hcapable
            exact .inr (.inr ⟨client, List.mem_cons_self, hcapable⟩)
      · exact .inr (.inr ⟨client, List.mem_append_right _ hclient, hcapable⟩)

/-- Notifications are asked for of a client only that can be asked for settings. -/
theorem capable_of_mem_registered
    {configPath : Option (List Char)} {log : Log} {events : List SessionEvent} {name : String}
    (hname : name ∈ ((start configPath log).after events).registered) :
    ∃ client ∈ introduced events, client.capabilities.configuration = true := by
  rcases mem_registered_after hname with hbefore | hcapable | hclient
  · cases hbefore
  · cases hcapable
  · exact hclient

/-- An introduction after any events.  It succeeds, and then the session is initialized with a
fresh store that has the merged routing for its default and asks the client exactly if that is
capable of it; or it fails, and then the session is as before but for the capabilities, which
are the new ones.  So at every point the store asks exactly if the client admitted last was
capable of it, and the capabilities are those of the client that came last; the two agree
unless an introduction has failed since. -/
theorem introduction_succeeds_or_notes_capabilities
    (configPath : Option (List Char)) (log : Log) (past : List SessionEvent) (env : Environment)
    (client : Introduction) :
    let beginning := start configPath log
    let session := beginning.after past
    ((∃ root options file next, workspaceRoot client.rootUri client.rootPath = .ok root ∧
        Options.ofPayload client.options = .ok options ∧
        loadConfig env root session.configPath = .ok file ∧
        session.initialize env client = (next, .ok ()) ∧
        next.phase = .initialized ∧
        next.store = .fresh (ServerConfig.merge options file).routing
          client.capabilities.configuration ∧
        (∀ uri, next.store.cached? uri = none) ∧
        next.capabilities = client.capabilities) ∨
      ∃ error, session.initialize env client =
        ({ session with capabilities := client.capabilities }, .error error)) ∧
    session.store.pulls =
      ((beginning.admitted past).getLast?.map (·.capabilities.configuration)).getD false ∧
    session.capabilities =
      ((introduced past).getLast?.map (·.capabilities)).getD ⟨false, false⟩ ∧
    ((beginning.admitted past).getLast? = (introduced past).getLast? →
      session.store.pulls = session.capabilities.configuration) := by
  intro beginning session
  have hpulls := pulls_after beginning past
  have hcapabilities := capabilities_after beginning past
  refine ⟨?_, hpulls, hcapabilities, ?_⟩
  · rcases session.initialize_cases env client with ⟨config, hconfig, h⟩ | ⟨error, -, h⟩
    · obtain ⟨root, options, file, hroot, hoptions, hfile, rfl⟩ :=
        configuration_eq_ok_iff.mp hconfig
      exact .inl ⟨root, options, file, _, hroot, hoptions, hfile, h, rfl, rfl, fun _ => rfl, rfl⟩
    · exact .inr ⟨error, h⟩
  · intro hlast
    rw [hlast] at hpulls
    change session.store.pulls = _ at hpulls
    change session.capabilities = _ at hcapabilities
    rw [hpulls, hcapabilities]
    cases (introduced past).getLast? with
    | none => rfl
    | some last => rfl

/-- The capabilities of a client that is refused replace those that the store goes by. -/
theorem refused_client_changes_capabilities :
    let env : Environment := ⟨fun _ => .missing, fun _ => true, some ['/'], 900⟩
    let first : Introduction := ⟨⟨true, false⟩, none, none, .null⟩
    let second : Introduction := ⟨⟨false, false⟩, none, none, .object [("logLevel", .int 3)]⟩
    let session := (start none .initial).after [.introduce env first]
    let outcome := session.initialize env second
    session.phase = .initialized ∧ outcome.2.isOk = false ∧
      outcome.1.capabilities ≠ session.capabilities ∧
      outcome.1.store.pulls ≠ outcome.1.capabilities.configuration := by
  decide +kernel

end Session

end Shorthand
