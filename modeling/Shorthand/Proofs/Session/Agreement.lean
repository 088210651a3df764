import Shorthand.Proofs.Session.Documents
import Shorthand.Proofs.Session.Resolution
import Shorthand.Proofs.Store.SingleFlight

/-!
# The two ways to an answer

A completion is answered after a wait or at once.  What is read before the wait, the number
of its document and the retrieval that it rests on, holds through all that leaves them
alone; everything else is read after it.  So the answer after the wait is the one that the
same completion gets at once from the retrieval that is kept by then.
-/

namespace Shorthand

namespace Store

/-! ## What a request finds -/

/-- A request that has to wait rests on the retrieval that is kept for its document. -/
theorem rests_of_request_pending
    {store : Store} {uri : String}
    (hpending : (store.request uri).progress? store.requests.length = some .pending) :
    ∃ number, store.pulls = true ∧ (store.request uri).Rests store.requests.length number ∧
      (store.request uri).cached? uri = some number := by
  cases hpulls : store.pulls with
  | false => simp [request, hpulls, progress?, addRequest, progressOf] at hpending
  | true =>
      obtain ⟨number, hrequest, hcached, -⟩ := request_bound uri hpulls
      exact ⟨number, rfl, ⟨_, hrequest, rfl⟩, hcached⟩

/-- A request for a document is served from the retrieval kept for it, once that was
accepted. -/
theorem request_of_accepted
    {store : Store} {uri : String} {number : Nat} {routing : Routing}
    (hpulls : store.pulls = true) (hcached : store.cached? uri = some number)
    (hretrieval : store.retrievals[number]? = some ⟨uri, some (.accepted routing)⟩) :
    (store.request uri).retrievals = store.retrievals ∧
      (store.request uri).progress? store.requests.length = some (.served routing) := by
  have hkeeps : store.Keeps uri number := ⟨hcached, _, hretrieval, by simp⟩
  obtain ⟨bound, hrequest, -, ⟨-, hsame, hretrievals⟩ | ⟨hlacks, -, -⟩⟩ :=
    request_bound uri hpulls
  · obtain rfl := Option.some.inj (hcached.symm.trans hsame)
    refine ⟨hretrievals, ?_⟩
    rw [← hretrievals] at hretrieval
    exact progress?_of_rests hrequest hretrieval
  · exact absurd hlacks hkeeps.not_lacks

theorem settle_accepted
    {store : Store} {uri : String} {number : Nat} {payload : Value} {routing : Routing}
    (hcached : store.cached? uri = some number) (hawaited : store.awaited? number = some uri)
    (hrouting : Routing.ofSettings settingsSection store.default payload = .ok routing) :
    let settled := (store.settle number (.settings payload)).result
    settled.retrievals[number]? = some ⟨uri, some (.accepted routing)⟩ ∧
      settled.cached? uri = some number := by
  intro settled
  have hended := step_settle_retrieval (.settings payload) hawaited
  have hkeeps : store.Keeps uri number :=
    ⟨hcached, _, (awaited?_eq_some_iff _ _ _).mp hawaited, by simp⟩
  constructor
  · simp only [Answer.outcome, hrouting] at hended
    exact hended
  · rcases hkeeps.step (.settle number (.settings payload)) with
      ⟨hkept, -⟩ | hevent | ⟨answer, hevent, -, hfails | hcancellation⟩
    · exact hkept
    · cases hevent
    · cases hevent
      have hsettings := (Routing.ofSettings_ok_iff _ _ _).mp ⟨routing, hrouting⟩
      simp [Answer.fails, hsettings] at hfails
    · subst hcancellation
      cases hevent

theorem progress?_settle_accepted
    {store : Store} (hstore : store.WellFormed) {id number : Nat} {payload : Value}
    {routing : Routing} (hpending : store.progress? id = some .pending)
    (hrests : store.Rests id number)
    (hrouting : Routing.ofSettings settingsSection store.default payload = .ok routing) :
    (store.settle number (.settings payload)).result.progress? id = some (.served routing) := by
  rcases pending_step_cases hstore hpending (.settle number (.settings payload)) with
    ⟨-, -, hother⟩ | ⟨hevent, -⟩ | ⟨other, answer, progress, hevent, -, hended, hends⟩
  · exact absurd hrests (hother number _ rfl)
  · cases hevent
  · cases hevent
    cases hends with
    | accepted hsettings hsame =>
        obtain rfl := Except.ok.inj (hrouting.symm.trans hsame)
        exact hended
    | refused hrefused =>
        have hsettings := (Routing.ofSettings_ok_iff _ _ _).mp ⟨routing, hrouting⟩
        rw [hrefused] at hsettings
        cases hsettings

end Store

namespace Session

/-! ## What leaves a wait alone -/

/-- An event leaves a completion and what it rests on alone.  It neither cancels the
completion nor answers its retrieval, its document is neither closed nor opened anew, and
the session is neither shut down nor configured again. -/
structure Spares (session : Session) (id : RequestId) (retrieval : Nat) (uri : String)
    (event : SessionEvent) : Prop where
  cancelled : ∀ engine, event ≠ .cancel engine id
  answered : ∀ engine answer, event ≠ .settle engine id.generation retrieval answer
  closed : event ≠ .closeDocument uri
  opened : ∀ document, event ≠ .openDocument uri document
  running : event ≠ .shutDown
  configured : ∀ env client, event = .introduce env client →
    ∃ noted error, session.initialize env client = (noted, .error error)

/-- Every event of a run leaves a completion alone, in the state in which it happens. -/
def Undisturbed (session : Session) (id : RequestId) (retrieval : Nat) (uri : String) :
    List SessionEvent → Prop
  | [] => True
  | event :: rest =>
    session.Spares id retrieval uri event ∧
      (session.step event).result.1.Undisturbed id retrieval uri rest

theorem Ends.concerns
    {session : Session} {call : Call} {event : SessionEvent} {reply : Reply}
    {records : List Record} (hends : session.Ends call event reply records) :
    session.Concerns call event := by
  cases hends with
  | cancelled => exact .cancel
  | abandoned hrests => exact .settle hrests
  | served hrests => exact .settle hrests

/-! ## The wait -/

/-- A completion waits for the retrieval that the current store keeps for its document,
which is still open. -/
structure Awaits (session : Session) (call : Call) (uri : String) (retrieval : Nat) : Prop where
  wellFormed : session.WellFormed
  waits : call ∈ session.calls
  phase : session.phase = .initialized
  opened : session.opened? uri = some call.document
  generation : call.id.generation = session.retired.length
  rests : session.store.Rests call.id.request retrieval
  cached : session.store.cached? uri = some retrieval
  pulls : session.store.pulls = true

theorem Awaits.awaited
    {session : Session} {call : Call} {uri : String} {retrieval : Nat}
    (hawaits : session.Awaits call uri retrieval) :
    session.store.progress? call.id.request = some .pending ∧
      session.store.awaited? retrieval = some uri := by
  have hstore := hawaits.wellFormed.stores session.storeOf?_current
  obtain ⟨store, hfound, hpending⟩ := hawaits.wellFormed.pending hawaits.waits
  rw [hawaits.generation, storeOf?_current] at hfound
  obtain rfl := Option.some.inj hfound
  obtain ⟨number, other, hrests, hawaited, -⟩ := Store.rests_of_pending hstore hpending
  obtain rfl := hawaits.rests.unique hrests
  obtain ⟨outcome, hretrieval, -⟩ := hstore.cached hawaits.cached
  rw [Store.awaited?_eq_some_iff] at hawaited
  obtain rfl : other = uri := by
    rw [hretrieval] at hawaited
    simpa using (congrArg Retrieval.uri (Option.some.inj hawaited)).symm
  exact ⟨hpending, (Store.awaited?_eq_some_iff _ _ _).mpr hawaited⟩

theorem Awaits.keeps
    {session : Session} {call : Call} {uri : String} {retrieval : Nat}
    (hawaits : session.Awaits call uri retrieval) : session.store.Keeps uri retrieval :=
  ⟨hawaits.cached, _, (Store.awaited?_eq_some_iff _ _ _).mp hawaits.awaited.2, by simp⟩

/-- A completion that is told to wait waits for what is kept for its open document. -/
theorem awaits_of_waiting
    {session : Session} (hsession : session.WellFormed) {engine : Engine} {uri : String}
    {position : Position} {id : RequestId}
    (hwaiting : (session.complete engine uri position).result.2 = .waiting id) :
    ∃ number retrieval, id = (session.nextCall number position).id ∧
      (session.complete engine uri position).result.1.Awaits (session.nextCall number position)
        uri retrieval := by
  by_cases hphase : session.phase = .initialized
  · cases hopened : session.opened? uri with
    | none =>
        rw [complete_of_not_opened engine position hphase hopened] at hwaiting
        cases hwaiting
    | some number =>
        rcases complete_of_opened hsession engine position hphase hopened with
          ⟨hpending, h⟩ | ⟨routing, document, -, -, h⟩
        · rw [h] at hwaiting ⊢
          cases hwaiting
          obtain ⟨retrieval, hpulls, hrests, hcached⟩ := Store.rests_of_request_pending hpending
          refine ⟨number, retrieval, rfl, ?_⟩
          exact {
            wellFormed := hsession.join position hopened hpending
            waits := List.mem_append_right _ List.mem_cons_self
            phase := hphase
            opened := hopened
            generation := rfl
            rests := hrests
            cached := hcached
            pulls := (session.store.request_pulls uri).trans hpulls }
        · rw [h] at hwaiting
          cases hwaiting
  · rw [complete_of_phase_ne engine uri position hphase] at hwaiting
    cases hwaiting

/-- An event that leaves a completion alone does not concern it. -/
theorem Awaits.not_concerns
    {session : Session} {call : Call} {uri : String} {retrieval : Nat}
    (hawaits : session.Awaits call uri retrieval) {event : SessionEvent}
    (hspares : session.Spares call.id retrieval uri event) : ¬ session.Concerns call event := by
  intro hconcerns
  cases hconcerns with
  | cancel => exact hspares.cancelled _ rfl
  | settle hrests =>
      obtain ⟨store, hstore, hother⟩ := hrests
      rw [hawaits.generation, storeOf?_current] at hstore
      obtain rfl := Option.some.inj hstore
      obtain rfl := hawaits.rests.unique hother
      exact hspares.answered _ _ rfl

/-- Through an event that leaves it alone, the current store goes on to keep what a
completion waits for. -/
theorem Awaits.store_step
    {session : Session} {call : Call} {uri : String} {retrieval : Nat}
    (hawaits : session.Awaits call uri retrieval) {event : SessionEvent}
    (hspares : session.Spares call.id retrieval uri event) :
    let next := (session.step event).result.1
    next.retired.length = session.retired.length ∧
      next.store.Rests call.id.request retrieval ∧
      next.store.cached? uri = some retrieval ∧ next.store.pulls = true := by
  intro next
  rcases session.step_store_cases event with
    ⟨hlength, h | ⟨storeEvent, hforwards, h⟩⟩ |
    ⟨env, client, configured, routing, pulls, hevent, hok, -⟩
  · simp only [next, h]
    exact ⟨hlength, hawaits.rests, hawaits.cached, hawaits.pulls⟩
  · simp only [next, h]
    refine ⟨hlength, hawaits.rests.later (session.store.later_step storeEvent), ?_,
      Store.step_pulls hawaits.pulls storeEvent⟩
    -- Only a closing or an answer would end the keeping, and both are excluded here.
    rcases hawaits.keeps.step storeEvent with ⟨hkept, -⟩ | rfl | ⟨answer, rfl, -, -⟩
    · exact hkept
    · cases hforwards
      exact absurd rfl hspares.closed
    · cases hforwards
      exact absurd rfl (hawaits.generation ▸ hspares.answered _ answer)
  · obtain ⟨noted, error, herror⟩ := hspares.configured env client hevent
    rw [hok] at herror
    cases herror

theorem Awaits.step
    {session : Session} {call : Call} {uri : String} {retrieval : Nat}
    (hawaits : session.Awaits call uri retrieval) {event : SessionEvent}
    (hspares : session.Spares call.id retrieval uri event) :
    (session.step event).result.1.Awaits call uri retrieval ∧
      repliesTo call.id (session.step event).result.2 = [] := by
  obtain ⟨hlength, hrests, hcached, hpulls⟩ := hawaits.store_step hspares
  have hopened : (session.step event).result.1.opened? uri = some call.document := by
    rcases session.step_opened?_cases event uri with hsame | ⟨document, hevent, -⟩ | ⟨hevent, -⟩
    · exact hsame.trans hawaits.opened
    · exact absurd hevent (hspares.opened document)
    · exact absurd hevent hspares.closed
  rcases hawaits.wellFormed.step_call hawaits.waits event with
    ⟨hwaits, hquiet, -⟩ | ⟨reply, -, -, own, front, back, hends, -⟩
  · exact ⟨⟨hawaits.wellFormed.step event, hwaits, phase_step hawaits.phase hspares.running,
      hopened, hawaits.generation.trans hlength.symm, hrests, hcached, hpulls⟩, hquiet⟩
  · exact absurd hends.concerns (hawaits.not_concerns hspares)

theorem Awaits.after
    {session : Session} {call : Call} {uri : String} {retrieval : Nat}
    (hawaits : session.Awaits call uri retrieval) {events : List SessionEvent}
    (hspares : session.Undisturbed call.id retrieval uri events) :
    (session.after events).Awaits call uri retrieval ∧
      repliesTo call.id (session.replied events) = [] := by
  induction events generalizing session with
  | nil => exact ⟨hawaits, rfl⟩
  | cons event rest ih =>
      obtain ⟨hnext, hquiet⟩ := hawaits.step hspares.1
      obtain ⟨hlast, hrest⟩ := ih hnext hspares.2
      refine ⟨hlast, ?_⟩
      rw [replied_cons, repliesTo_append, hquiet, hrest]
      rfl

/-! ## The end of the wait -/

/-- Once the settings are there, the completion is answered from its document as it is. -/
theorem Awaits.settle
    {session : Session} {call : Call} {uri : String} {retrieval : Nat}
    (hawaits : session.Awaits call uri retrieval) (engine : Engine) {payload : Value}
    {routing : Routing} {document : Document}
    (hrouting : Routing.ofSettings settingsSection session.store.default payload = .ok routing)
    (hdocument : session.documents[call.document]? = some document) :
    let event : SessionEvent :=
      .settle engine call.id.generation retrieval (.settings payload)
    let store := (session.store.settle retrieval (.settings payload)).result
    (∃ calls, (session.step event).result.1 = { session with store, calls }) ∧
      repliesTo call.id (session.step event).result.2 =
        [.items (document.complete engine routing session.replaces call.position).result] := by
  intro event store
  have hcurrent : session.storeOf? call.id.generation = some session.store := by
    rw [hawaits.generation, storeOf?_current]
  let moment := session.setStore call.id.generation store
  have hmoment : moment = { session with store } := by
    simp only [moment, hawaits.generation, setStore_current]
  have hstep : (session.step event).result = (moment.resume engine).result := by
    simp only [event, Session.step, Session.settle, hcurrent]
    rfl
  have hserved : moment.progress call = .served routing := by
    have hstore := hawaits.wellFormed.stores hcurrent
    have hprogress := Store.progress?_settle_accepted hstore hawaits.awaited.1 hawaits.rests
      hrouting
    rw [progress_setStore_self store hcurrent, hprogress]
    rfl
  have hwaits : call ∈ moment.calls := by
    rw [hmoment]
    exact hawaits.waits
  have hnodup : (moment.calls.map Call.id).Nodup := by
    rw [hmoment]
    exact hawaits.wellFormed.nodup
  have hready : moment.progress call ≠ .pending := by simp [hserved]
  obtain ⟨-, honce, -⟩ := resume_of_not_pending engine hnodup hwaits hready
  obtain ⟨calls, hcalls⟩ := moment.resume_frame engine
  refine ⟨⟨calls, ?_⟩, ?_⟩
  · rw [hstep, hcalls, hmoment]
  · rw [hstep, honce, hserved, hmoment]
    simp only [reply, hdocument]

/-- A completion for an open document is answered at once from the retrieval that is kept
for it, once that was accepted, and no other is begun. -/
theorem complete_of_accepted
    {session : Session} (hsession : session.WellFormed) (engine : Engine) {uri : String}
    (position : Position) {number retrieval : Nat} {routing : Routing} {document : Document}
    (hphase : session.phase = .initialized) (hopened : session.opened? uri = some number)
    (hdocument : session.documents[number]? = some document)
    (hpulls : session.store.pulls = true)
    (hcached : session.store.cached? uri = some retrieval)
    (hretrieval : session.store.retrievals[retrieval]? =
      some ⟨uri, some (.accepted routing)⟩) :
    let completed := session.complete engine uri position
    completed.result.2 =
        .items (document.complete engine routing session.replaces position).result ∧
      completed.result.1.store.retrievals = session.store.retrievals := by
  intro completed
  obtain ⟨hretrievals, hserved⟩ := Store.request_of_accepted hpulls hcached hretrieval
  rcases complete_of_opened hsession engine position hphase hopened with
    ⟨hpending, -⟩ | ⟨found, same, hfound, hsame, h⟩
  · have hboth := hpending.symm.trans hserved
    cases hboth
  · obtain rfl := Progress.served.inj (Option.some.inj (hserved.symm.trans hfound))
    obtain rfl := Option.some.inj (hdocument.symm.trans hsame)
    refine ⟨by simp only [completed, h], ?_⟩
    simp only [completed, h]
    exact hretrievals

/-- A completion that waited for settings is answered as the same completion is right
after it, from what is kept. -/
theorem Awaits.answered_alike
    {session : Session} {call : Call} {uri : String} {retrieval : Nat}
    (hawaits : session.Awaits call uri retrieval) (engine : Engine) {payload : Value}
    (hpayload : payload.isSettings = true) :
    let settled :=
      session.step (.settle engine call.id.generation retrieval (.settings payload))
    let later := settled.result.1.complete engine uri call.position
    ∃ document routing,
      session.documents[call.document]? = some document ∧
      Routing.ofSettings settingsSection session.store.default payload = .ok routing ∧
      let items := (document.complete engine routing session.replaces call.position).result
      repliesTo call.id settled.result.2 = [.items items] ∧
      later.result.2 = .items items ∧
      settled.result.1.store.cached? uri = some retrieval ∧
      later.result.1.store.retrievals = settled.result.1.store.retrievals := by
  intro settled later
  have hlt := hawaits.wellFormed.document hawaits.waits
  have hdocument : session.documents[call.document]? = some session.documents[call.document] :=
    List.getElem?_eq_getElem hlt
  obtain ⟨routing, hrouting⟩ :=
    (Routing.ofSettings_ok_iff settingsSection session.store.default payload).mpr hpayload
  obtain ⟨⟨calls, hsettled⟩, hreply⟩ := hawaits.settle engine hrouting hdocument
  obtain ⟨hended, hcached⟩ := Store.settle_accepted hawaits.cached hawaits.awaited.2 hrouting
  have hpulls := (session.store.settle_pulls retrieval (.settings payload)).trans hawaits.pulls
  have hnext : settled.result.1.WellFormed := hawaits.wellFormed.step _
  change settled.result.1 = _ at hsettled
  rw [hsettled] at hnext
  obtain ⟨hlater, hretrievals⟩ := complete_of_accepted hnext engine call.position hawaits.phase
    hawaits.opened hdocument hpulls hcached hended
  refine ⟨_, routing, hdocument, hrouting, hreply, ?_, ?_, ?_⟩
  · simp only [later, hsettled]
    exact hlater
  · rw [hsettled]
    exact hcached
  · simp only [later, hsettled]
    exact hretrievals

/-- Every session and every completion in it that has to wait.  It waits for a retrieval of
its open document.  Whatever happens meanwhile and leaves the two alone, settings that can
be read answer it from the text and the default of that moment, and the same completion is
then answered alike from what is kept, without a retrieval of its own. -/
theorem waiting_reply_eq_cached_reply
    (configPath : Option (List Char)) (log : Log) (past : List SessionEvent)
    (engine : Engine) (uri : String) (position : Position) (id : RequestId)
    (hwaiting : (((start configPath log).after past).complete engine uri position).result.2 =
      .waiting id) :
    let session := (start configPath log).after past
    let asked := (session.complete engine uri position).result.1
    ∃ number retrieval,
      asked.opened? uri = some number ∧ asked.store.Rests id.request retrieval ∧
      asked.store.awaited? retrieval = some uri ∧
      ∀ meanwhile, asked.Undisturbed id retrieval uri meanwhile →
        ∀ payload : Value, payload.isSettings = true →
        let moment := asked.after meanwhile
        let settled := moment.step (.settle engine id.generation retrieval (.settings payload))
        let later := settled.result.1.complete engine uri position
        repliesTo id (asked.replied meanwhile) = [] ∧
        ∃ document routing,
          moment.opened? uri = some number ∧
          moment.documents[number]? = some document ∧
          Routing.ofSettings settingsSection moment.store.default payload = .ok routing ∧
          let items := (contain (completeLine engine
            (document.line moment.replaces position)
            (routing.grammars document.language))).result
          repliesTo id settled.result.2 = [.items items] ∧
          later.result.2 = .items items ∧
          settled.result.1.store.cached? uri = some retrieval ∧
          later.result.1.store.retrievals = settled.result.1.store.retrievals := by
  intro session asked
  have hsession : session.WellFormed := wellFormed_after_start configPath log past
  obtain ⟨number, retrieval, rfl, hasked⟩ := awaits_of_waiting hsession hwaiting
  refine ⟨number, retrieval, hasked.opened, hasked.rests, hasked.awaited.2, ?_⟩
  intro meanwhile hundisturbed payload hpayload moment settled later
  obtain ⟨hmoment, hquiet⟩ := hasked.after hundisturbed
  obtain ⟨document, routing, hdocument, hrouting, hanswered⟩ :=
    hmoment.answered_alike engine hpayload
  refine ⟨hquiet, document, routing, hmoment.opened, hdocument, hrouting, ?_⟩
  rw [document.complete_eq_contain] at hanswered
  exact hanswered

/-- The document is edited and the default changed while a completion waits.  Its answer
knows of both, and so does the same completion after it. -/
theorem edited_document_answers_alike :
    let engine : Engine :=
      ⟨fun _ line cursor => .ok (some ⟨0, line.take cursor⟩),
        fun _ _ abbreviation => .ok [.text abbreviation]⟩
    let client : Introduction := ⟨⟨true, false⟩, none, none, .null⟩
    let session := (start none .initial).after
      [.introduce ⟨fun _ => .missing, fun _ => true, some ['/'], 900⟩ client,
        .openDocument "a" ⟨some "html", .utf16, ['b', 'c']⟩]
    let asked := (session.complete engine "a" ⟨0, 2⟩).result.1
    let moment := asked.after
      [.edit "a" ['d', 'e'], .configure (.object [(markupKey, .list [])])]
    let id : RequestId := ⟨1, 0⟩
    let payload : Value := .object [(stylesheetKey, .str "html")]
    let settled := moment.step (.settle engine id.generation 0 (.settings payload))
    let items : List Item := [.of ['d', 'e'] ⟨['d', 'e'], ['d', 'e'], ⟨⟨0, 0⟩, ⟨0, 0⟩⟩⟩]
    repliesTo id settled.result.2 = [.items items] ∧
      (settled.result.1.complete engine "a" ⟨0, 2⟩).result.2 = .items items := by
  intro engine client session asked moment id payload settled items
  have hwaiting : (session.complete engine "a" ⟨0, 2⟩).result.2 = .waiting id := by
    decide +kernel
  obtain ⟨number, retrieval, -, hrests, -, hanswers⟩ :=
    waiting_reply_eq_cached_reply none .initial _ engine "a" ⟨0, 2⟩ id hwaiting
  have hfirst : asked.store.Rests 0 0 := ⟨⟨"a", .retrieval 0, false⟩, by decide +kernel, rfl⟩
  obtain rfl : 0 = retrieval := hfirst.unique hrests
  obtain ⟨-, document, routing, -, -, -, hreply, hlater, -⟩ :=
    hanswers [.edit "a" ['d', 'e'], .configure (.object [(markupKey, .list [])])]
      ⟨⟨nofun, nofun, nofun, nofun, nofun, nofun⟩, ⟨nofun, nofun, nofun, nofun, nofun, nofun⟩,
        trivial⟩ payload rfl
  have hitems : repliesTo id settled.result.2 = [.items items] := by decide +kernel
  refine ⟨hitems, ?_⟩
  rw [hlater]
  -- Both equations speak of one reply, but comparing their left sides would run the session.
  simp only [settled, moment, asked, session] at hitems
  rw [hitems] at hreply
  exact (List.cons.inj hreply).1.symm

end Session

end Shorthand
