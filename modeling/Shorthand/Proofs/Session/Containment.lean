import Shorthand.Proofs.Session.Resolution

/-!
# Completions do no harm

One completion, in any state that a session reaches and with any engine.  It yields items,
at most one for each grammar of its document, or it is cancelled, and that only by its own
cancellation or by that of the retrieval for which it waits.  It touches nothing of the
session but the store that it asks, and of that store nothing but the entry of its document.
-/

namespace Shorthand

namespace Session

/-- A session that differs from another in its retrievals, in what waits for them, and in
what is kept for one document. -/
structure Frame (session next : Session) (uri : String) : Prop where
  phase : next.phase = session.phase
  replaces : next.replaces = session.replaces
  configPath : next.configPath = session.configPath
  capabilities : next.capabilities = session.capabilities
  log : next.log = session.log
  documents : next.documents = session.documents
  opened : next.opened = session.opened
  registered : next.registered = session.registered
  default : next.store.default = session.store.default
  pulls : next.store.pulls = session.store.pulls
  cached : ∀ other, other ≠ uri → next.store.cached? other = session.store.cached? other

theorem Frame.refl (session : Session) (uri : String) : session.Frame session uri :=
  ⟨rfl, rfl, rfl, rfl, rfl, rfl, rfl, rfl, rfl, rfl, fun _ _ => rfl⟩

theorem frame_complete
    (session : Session) (engine : Engine) (uri : String) (position : Position) :
    session.Frame (session.complete engine uri position).result.1 uri := by
  rcases session.complete_session_cases engine uri position with h | ⟨number, calls, h, -⟩
  · rw [h]
    exact Frame.refl session uri
  · rw [h]
    exact ⟨rfl, rfl, rfl, rfl, rfl, rfl, rfl, rfl, session.store.request_default uri,
      session.store.request_pulls uri, fun _ hne => session.store.cached?_request_of_ne hne⟩

theorem frame_setStore
    {session : Session} {generation : Nat} {store next : Store} {uri : String}
    (hstore : session.storeOf? generation = some store)
    (hdefault : next.default = store.default) (hpulls : next.pulls = store.pulls)
    (hcached : ∀ other, other ≠ uri → next.cached? other = store.cached? other) :
    session.Frame (session.setStore generation next) uri := by
  by_cases hcurrent : generation = session.retired.length
  · subst generation
    obtain rfl := Option.some.inj (session.storeOf?_current.symm.trans hstore)
    rw [setStore_current]
    exact ⟨rfl, rfl, rfl, rfl, rfl, rfl, rfl, rfl, hdefault, hpulls, hcached⟩
  · rw [setStore, if_neg hcurrent]
    exact ⟨rfl, rfl, rfl, rfl, rfl, rfl, rfl, rfl, rfl, rfl, fun _ _ => rfl⟩

/-- A resumption changes nothing but what waits. -/
theorem Frame.resume
    {session next : Session} {uri : String} (hframe : session.Frame next uri)
    (engine : Engine) : session.Frame (next.resume engine).result.1 uri :=
  ⟨hframe.phase, hframe.replaces, hframe.configPath, hframe.capabilities, hframe.log,
    hframe.documents, hframe.opened, hframe.registered, hframe.default, hframe.pulls, hframe.cached⟩

/-! ## What a completion asked for -/

/-- A completion asked for the routing of a document. -/
def Asked (session : Session) (call : Call) (uri : String) : Prop :=
  ∃ store request, session.storeOf? call.id.generation = some store ∧
    store.requests[call.id.request]? = some request ∧ request.uri = uri

theorem Asked.after
    {session : Session} {call : Call} {uri : String} (hasked : session.Asked call uri)
    (events : List SessionEvent) : (session.after events).Asked call uri := by
  induction events generalizing session with
  | nil => exact hasked
  | cons event rest ih =>
      obtain ⟨store, request, hstore, hrequest, huri⟩ := hasked
      obtain ⟨next, hnext, hlater⟩ := later_store hstore event
      obtain ⟨isCancelled, hkept, -⟩ := hlater.request hrequest
      exact ih ⟨next, _, hnext, hkept, huri⟩

theorem asked_nextCall (session : Session) (uri : String) (number : Nat) (position : Position) :
    (session.asked uri).Asked (session.nextCall number position) uri := by
  obtain ⟨basis, hrequests⟩ := session.store.request_requests uri
  refine ⟨_, ⟨uri, basis, false⟩, (session.asked uri).storeOf?_current, ?_, rfl⟩
  simp [asked, nextCall, hrequests]

/-- The retrieval that a completion rests on is one of the document it asked for, so the
answer to it touches what is kept for that document only. -/
theorem Asked.cached?_settle
    {session : Session} (hsession : session.WellFormed) {call : Call} {uri other : String}
    {store : Store} {number : Nat} (hasked : session.Asked call uri)
    (hrests : session.Rests call number)
    (hstore : session.storeOf? call.id.generation = some store) (answer : Answer)
    (hne : other ≠ uri) :
    (store.settle number answer).result.cached? other = store.cached? other := by
  obtain ⟨same, request, hsame, hrequest, huri⟩ := hasked
  obtain rfl := Option.some.inj (hstore.symm.trans hsame)
  obtain ⟨again, hagain, bound, hbound, hbasis⟩ := hrests
  obtain rfl := Option.some.inj (hstore.symm.trans hagain)
  obtain rfl := Option.some.inj (hrequest.symm.trans hbound)
  obtain ⟨outcome, hretrieval⟩ := (hsession.stores hstore).basis hrequest hbasis
  apply store.cached?_settle_of_ne answer hretrieval
  rw [huri]
  exact hne

/-- What ends the wait of a completion leaves the rest of the session as it was. -/
theorem Ends.frame
    {session : Session} (hsession : session.WellFormed) {call : Call} {uri : String}
    {event : SessionEvent} {reply : Reply} {records : List Record}
    (hasked : session.Asked call uri) (hends : session.Ends call event reply records) :
    session.Frame (session.step event).result.1 uri := by
  have hsettle : ∀ engine number answer, session.Rests call number →
      session.Frame (session.step (.settle engine call.id.generation number answer)).result.1
        uri := by
    intro engine number answer hrests
    rcases session.settle_cases engine call.id.generation number answer with
      ⟨-, h⟩ | ⟨store, hstore, h⟩
    · simp only [step, h]
      exact Frame.refl session uri
    · simp only [step, h]
      apply Frame.resume
      apply frame_setStore hstore (store.settle_default number answer)
        (store.settle_pulls number answer)
      intro other hne
      exact hasked.cached?_settle hsession hrests hstore answer hne
  cases hends with
  | @cancelled engine =>
      rcases session.cancel_cases engine call.id with ⟨-, h⟩ | ⟨store, hstore, h⟩
      · simp only [step, h]
        exact Frame.refl session uri
      · simp only [step, h]
        apply Frame.resume
        apply frame_setStore hstore (store.cancel_default call.id.request)
          (store.cancel_pulls call.id.request)
        intro other _
        exact store.cached?_cancel call.id.request other
  | abandoned hrests => exact hsettle _ _ _ hrests
  | served hrests => exact hsettle _ _ _ hrests

/-! ## When a completion is cancelled -/

/-- In a run a completion is cancelled while it waits, or its retrieval is. -/
def Abandons (session : Session) (events : List SessionEvent) (call : Call) : Prop :=
  ∃ before event rest, events = before ++ event :: rest ∧
    call ∈ (session.after before).calls ∧
    ((∃ engine, event = .cancel engine call.id) ∨
      ∃ engine number, event = .settle engine call.id.generation number .cancellation ∧
        (session.after before).Rests call number)

/-- A waiting completion is replied to as cancelled exactly if it was, or its retrieval was. -/
theorem WellFormed.cancelled_iff_abandons
    {session : Session} (hsession : session.WellFormed) {call : Call}
    (hcall : call ∈ session.calls) (events : List SessionEvent) :
    .cancelled ∈ repliesTo call.id (session.replied events) ↔ session.Abandons events call := by
  constructor
  · intro hcancelled
    rcases hsession.run_call hcall events with
      ⟨-, hquiet, -⟩ | ⟨before, event, rest, reply, heq, hmem,
        ⟨-, -, own, front, back, hends, -⟩, honce, -⟩
    · rw [hquiet] at hcancelled
      cases hcancelled
    · rw [honce, List.mem_singleton] at hcancelled
      subst reply
      refine ⟨before, event, rest, heq, hmem, ?_⟩
      cases hends with
      | @cancelled engine => exact .inl ⟨engine, rfl⟩
      | @abandoned engine number hrests => exact .inr ⟨engine, number, rfl, hrests⟩
  · rintro ⟨before, event, rest, rfl, hmem, hcause⟩
    have hmoment : (session.after before).WellFormed := hsession.after before
    have hreply : .cancelled ∈ repliesTo call.id ((session.after before).step event).result.2 := by
      rcases hmoment.step_call hmem event with
        ⟨-, -, hnone⟩ | ⟨reply, -, honce, own, -, -, hends, -⟩
      · rcases hcause with ⟨engine, rfl⟩ | ⟨engine, number, rfl, hrests⟩
        · exact absurd .cancel hnone
        · exact absurd (.settle hrests) hnone
      · rw [honce, List.mem_singleton]
        rcases hcause with ⟨engine, rfl⟩ | ⟨engine, number, rfl, -⟩
        · cases hends
          rfl
        · cases hends with
          | abandoned => rfl
          | served _ _ hserved => cases hserved
    rw [replied_append, replied_cons, repliesTo_append, repliesTo_append]
    exact List.mem_append_right _ (List.mem_append_left _ hreply)

/-- One completion in a session that any run reaches.  Outside of the initialized phase, and
for a document that is not open, it yields nothing, and only the second leaves a warning.
Otherwise it is served at once, or waits until an event concerns it; that event gives it
its only reply, and that is a cancellation exactly if it was abandoned.  What it is served
is contained, and no step of it changes anything else of the session. -/
theorem completion_contained
    (configPath : Option (List Char)) (log : Log) (past : List SessionEvent)
    (engine : Engine) (uri : String) (position : Position) :
    let session := (start configPath log).after past
    let completed := session.complete engine uri position
    let next := completed.result.1
    session.Frame next uri ∧
    (session.phase ≠ .initialized → completed = ⟨(session, .items []), []⟩) ∧
    (session.phase = .initialized → session.opened? uri = none →
      completed = ⟨(session, .items []), [unknownDocument uri]⟩ ∧
      (effectiveLevel session.log.level ≤ warningLevel →
        clientMessages session.log.level completed.records =
          [(.warning, (unknownDocument uri).message)])) ∧
    (session.phase = .initialized → ∀ number, session.opened? uri = some number →
      let call := session.nextCall number position
      (∃ routing document items,
        next.store.progress? call.id.request = some (.served routing) ∧
        session.documents[number]? = some document ∧
        completed.result.2 = .items items ∧ next.calls = session.calls ∧
        Contained engine (document.line session.replaces position)
          (routing.grammars document.language) items completed.records) ∨
      (completed.result.2 = .waiting call.id ∧ completed.records = [] ∧
        next.calls = session.calls ++ [call] ∧ (∃ number, next.Rests call number) ∧
        ∀ future,
          let replies := repliesTo call.id (next.replied future)
          (.cancelled ∈ replies ↔ next.Abandons future call) ∧
          ((replies = [] ∧ call ∈ (next.after future).calls ∧
              ∀ before event rest, future = before ++ event :: rest →
                ¬ (next.after before).Concerns call event) ∨
            ∃ before event rest reply own front back,
              future = before ++ event :: rest ∧
              let moment := next.after before
              call ∈ moment.calls ∧ moment.Ends call event reply own ∧
              moment.Frame (moment.step event).result.1 uri ∧
              (moment.step event).records = front ++ own ++ back ∧
              replies = [reply]))) := by
  intro session completed next
  have hsession : session.WellFormed := wellFormed_after_start configPath log past
  have hnext : next.WellFormed := hsession.complete engine uri position
  refine ⟨session.frame_complete engine uri position, ?_, ?_, ?_⟩
  · exact complete_of_phase_ne engine uri position
  · intro hphase hopened
    have hcompleted : completed = ⟨(session, .items []), [unknownDocument uri]⟩ :=
      complete_of_not_opened engine position hphase hopened
    refine ⟨hcompleted, ?_⟩
    intro hlevel
    rw [hcompleted, clientMessages_of_warningLevel_le hlevel]
    · rfl
    · intro record hrecord
      rw [List.mem_singleton.mp hrecord]
      exact Int.le_refl _
  · intro hphase number hopened call
    rcases complete_of_opened hsession engine position hphase hopened with
      ⟨-, h⟩ | ⟨routing, document, hserved, hdocument, h⟩
    · have hcompleted : completed =
          ⟨({ session.asked uri with calls := session.calls ++ [call] }, .waiting call.id), []⟩ := h
      have hcalls : next.calls = session.calls ++ [call] := by
        simp only [next, hcompleted]
      have hcall : call ∈ next.calls := by simp [hcalls]
      have hasked : next.Asked call uri := by
        simp only [next, hcompleted]
        exact session.asked_nextCall uri number position
      refine .inr ⟨by rw [hcompleted], by rw [hcompleted], hcalls, hnext.exists_rests hcall, ?_⟩
      intro future replies
      refine ⟨hnext.cancelled_iff_abandons hcall future, ?_⟩
      rcases hnext.run_call hcall future with
        ⟨hwaits, hquiet, hnone⟩ | ⟨before, event, rest, reply, heq, hmem,
          ⟨-, -, own, front, back, hends, hrecords⟩, honce, -⟩
      · exact .inl ⟨hquiet, hwaits, hnone⟩
      · have hframe := hends.frame (hnext.after before) (hasked.after before)
        exact .inr ⟨before, event, rest, reply, own, front, back, heq, hmem, hends, hframe,
          hrecords, honce⟩
    · have hcompleted : completed = _ := h
      have hstore : next.store = session.store.request uri := by
        simp only [next, hcompleted]
        rfl
      refine .inl ⟨routing, document, _, ?_, hdocument, by rw [hcompleted], ?_, ?_⟩
      · rw [hstore]
        exact hserved
      · simp only [next, hcompleted]
        rfl
      · rw [hcompleted]
        exact document.contained_complete engine routing session.replaces position

end Session

end Shorthand
