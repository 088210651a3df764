import Shorthand.CommandLine
import Shorthand.Proofs.Session.Introduction

/-!
# The level of a session's log

The command line gives the log its first level, and a client's options and the configuration
file may give it another.  A configuration always names a level, so a client that is configured
without one being given sets the level back to warnings.
-/

namespace Shorthand

/-! ## The level that is given -/

/-- The level in a client's options, null counting as none. -/
def Value.optionLevel? : Value → Option Value
  | .object fields => (Table.option? fields "logLevel" "log_level").filter (!·.isNull)
  | _ => none

def Table.fileLevel? (file : Table) : Option Value := (file.section "logging").get? "level"

/-- The level that a client and a file give, the client first.  An empty one is none. -/
def givenLevel? (payload : Value) (file : Table) : Option Value :=
  (payload.optionLevel?.filter Value.isTruthy).or (file.fileLevel?.filter Value.isTruthy)

theorem map_str_of_optionalText
    {value : Option Value} {text : Option String} (htext : optionalText value = .ok text) :
    text.map Value.str = value.filter (!·.isNull) := by
  unfold optionalText at htext
  split at htext
  · cases htext
    rfl
  · cases htext
    rfl
  · cases htext
    rfl
  · cases htext

theorem Options.logLevel_ofPayload
    {payload : Value} {options : Options} (hoptions : ofPayload payload = .ok options) :
    options.logLevel.map Value.str = payload.optionLevel? := by
  cases payload with
  | object fields =>
      simp only [ofPayload] at hoptions
      split at hoptions
      · next hlevel =>
          cases hoptions
          exact map_str_of_optionalText hlevel
      · cases hoptions
      · cases hoptions
      · cases hoptions
  | _ =>
      cases hoptions
      rfl

theorem ServerConfig.logLevel_merge
    {options : Options} {payload : Value} (hoptions : Options.ofPayload payload = .ok options)
    (file : Table) :
    (merge options file).logLevel =
      ((givenLevel? payload file).map Value.text).getD "warning".toList := by
  have hfirst : ∀ option : Option Value,
      option.toList.find? Value.isTruthy = option.filter Value.isTruthy := by
    intro option
    cases option with
    | none => rfl
    | some value =>
        rw [Option.toList_some, List.find?_singleton, Option.filter_some]
  rw [givenLevel?, ← Options.logLevel_ofPayload hoptions, ← hfirst, ← hfirst,
    ← List.find?_append]
  rfl

namespace Session

/-! ## The log of a session -/

theorem log_step
    {session : Session} {event : SessionEvent} (hevent : session.admits? event = none) :
    (session.step event).result.1.log = session.log := by
  cases hclient : event.client? with
  | none =>
      obtain ⟨phase, store, retired, documents, opened, calls, registered, h, -⟩ :=
        session.frame_of_client?_eq_none hclient
      rw [h]
  | some client =>
      obtain ⟨env, rfl⟩ := SessionEvent.client?_eq_some_iff.mp hclient
      rcases session.initialize_cases env client with ⟨config, -, h⟩ | ⟨error, -, h⟩
      · simp only [admits?, h] at hevent
        cases hevent
      · simp only [step, h]

theorem log_after
    {session : Session} {events : List SessionEvent} (hevents : session.admitted events = []) :
    (session.after events).log = session.log := by
  induction events generalizing session with
  | nil => rfl
  | cons event rest ih =>
      obtain ⟨hevent, hrest⟩ := List.append_eq_nil_iff.mp hevents
      have hnone : session.admits? event = none := Option.toList_eq_nil_iff.mp hevent
      rw [after_cons, ih hrest, log_step hnone]

/-- A client that is admitted sets the level: to the one that is given, if that is the name of
one, and to warnings if none is given. -/
theorem log_initialize
    {session next : Session} {env : Environment} {client : Introduction}
    (hok : session.initialize env client = (next, .ok ())) :
    ∃ root file, workspaceRoot client.rootUri client.rootPath = .ok root ∧
      loadConfig env root session.configPath = .ok file ∧
      next.log = { session.log with
        level :=
          match givenLevel? client.options file with
          | none => warningLevel
          | some value => (parseLevel value.text).getD session.log.level } := by
  rcases session.initialize_cases env client with ⟨config, hconfig, h⟩ | ⟨error, -, h⟩
  · obtain ⟨root, options, file, hroot, hoptions, hfile, rfl⟩ :=
      configuration_eq_ok_iff.mp hconfig
    rw [h] at hok
    cases hok
    refine ⟨root, file, hroot, hfile, ?_⟩
    simp only [configured, ServerConfig.logLevel_merge hoptions]
    cases givenLevel? client.options file with
    | none =>
        have hwarning : parseLevel "warning".toList = some warningLevel := by decide
        simp only [Option.map_none, Option.getD_none, hwarning, Option.getD_some]
    | some value => rfl
  · rw [h] at hok
    cases hok

end Session

/-- A server that runs at the level of its command line, after any events before a client is
admitted, and the first introduction that succeeds.  Until then the log is as the command line
has set it up.  Then the level is the one that the client's options or else the file give; if
what they give names no level it is still that of the command line, but if they give none it
is the level of warnings.  Nothing else of the log changes. -/
theorem level_of_command_line_lasts_until_admission
    (service : Service) (sink : String) (past : List SessionEvent) :
    let beginning := Session.start service.configPath (service.log sink)
    let session := beginning.after past
    beginning.admitted past = [] →
      session.log = service.log sink ∧ session.log.level = service.logLevel ∧
      ∀ env client,
        (∃ noted error, session.initialize env client = (noted, .error error) ∧
          noted.log = session.log) ∨
        ∃ next root file, session.initialize env client = (next, .ok ()) ∧
          workspaceRoot client.rootUri client.rootPath = .ok root ∧
          loadConfig env root service.configPath = .ok file ∧
          next.log.handlers = session.log.handlers ∧
          (givenLevel? client.options file = none → next.log.level = warningLevel) ∧
          ∀ value, givenLevel? client.options file = some value →
            next.log.level = (parseLevel value.text).getD service.logLevel := by
  intro beginning session hpast
  have hlog : session.log = service.log sink := Session.log_after hpast
  have hlevel : session.log.level = service.logLevel := by
    rw [hlog, Service.log, Log.attach]
    split <;> rfl
  have hpath : session.configPath = service.configPath := Session.configPath_after beginning past
  refine ⟨hlog, hlevel, ?_⟩
  intro env client
  rcases session.initialize_cases env client with ⟨config, -, hok⟩ | ⟨error, -, herror⟩
  · obtain ⟨root, file, hroot, hfile, hnext⟩ := Session.log_initialize hok
    rw [hpath] at hfile
    rw [hlevel] at hnext
    refine .inr ⟨_, root, file, hok, hroot, hfile, by rw [hnext], ?_, ?_⟩
    · intro hnone
      rw [hnext, hnone]
    · intro value hvalue
      rw [hnext, hvalue]
  · exact .inl ⟨_, error, herror, rfl⟩

/-- The level of the command line lasts through what is refused, and gives way to that of the
file. -/
theorem level_of_file_replaces_that_of_command_line :
    let service : Service := ⟨.stdio, some "rc.toml".toList, debugLevel⟩
    let env : Environment :=
      ⟨fun _ => .file ("[logging]\nlevel = ' ERROR'".toList.map Char.toNat), fun _ => true,
        some ['/'], 900⟩
    let refused : Introduction := ⟨⟨true, true⟩, none, none, .object [("log_level", .int 3)]⟩
    let client : Introduction := ⟨⟨true, true⟩, none, none, .object [("logLevel", .str "")]⟩
    let beginning := Session.start service.configPath (service.log "client")
    let past := [.openDocument "a" ⟨none, .utf8, []⟩, .introduce env refused]
    let session := beginning.after past
    beginning.admitted past = [] ∧ session.log.level = debugLevel ∧
      ∃ next, session.initialize env client = (next, .ok ()) ∧ next.log.level = errorLevel := by
  intro service env refused client beginning past session
  have hpast : beginning.admitted past = [] := by
    have hcount : (beginning.admitted past).length = 0 := by decide +kernel
    exact List.length_eq_zero_iff.mp hcount
  obtain ⟨-, hlevel, hclient⟩ :=
    level_of_command_line_lasts_until_admission service "client" past hpast
  refine ⟨hpast, hlevel, ?_⟩
  rcases hclient env client with
    ⟨noted, error, herror, -⟩ | ⟨next, root, file, hok, -, hfile, -, -, hgiven⟩
  · have hadmitted : ( session.initialize env client).2.isOk = true := by decide +kernel
    rw [herror] at hadmitted
    cases hadmitted
  · refine ⟨next, hok, ?_⟩
    have hread : (env.tableAt "rc.toml".toList).toOption.bind (fun file =>
        (givenLevel? client.options file).bind fun value => parseLevel value.text) =
        some errorLevel := by
      decide +kernel
    have htable := (loadConfig_explicit env root "rc.toml".toList).symm.trans hfile
    rw [htable] at hread
    have hgivenLevel : (givenLevel? client.options file).bind (fun value =>
        parseLevel value.text) = some errorLevel := hread
    obtain ⟨value, hvalue, hnamed⟩ := Option.bind_eq_some_iff.mp hgivenLevel
    rw [hgiven value hvalue, hnamed]
    rfl

/-- Where no level is given, that of the command line is lost. -/
theorem level_of_command_line_is_lost_at_admission :
    let words := ["serve", "--log-level", "debug"].map String.toList
    let env : Environment := ⟨fun _ => .missing, fun _ => true, some ['/'], 900⟩
    let client : Introduction := ⟨⟨false, false⟩, none, none, .null⟩
    ∃ service, Command.ofWords words = some (.serve service) ∧
      service.logLevel = debugLevel ∧ loadConfig env none service.configPath = .ok [] ∧
      let session := Session.start service.configPath (service.log "client")
      let outcome := session.initialize env client
      session.log.level = service.logLevel ∧ outcome.2.isOk = true ∧
        outcome.1.log.level ≠ service.logLevel := by
  intro words env client
  refine ⟨⟨.stdio, none, debugLevel⟩, ?_, rfl, rfl, ?_⟩
  · decide +kernel
  · decide +kernel

end Shorthand
