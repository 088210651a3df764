import Shorthand.Proofs.Session.Waiting

/-!
# Documents and what is kept for them

A session has two tables of documents: those that are open, and those for which its store
keeps a retrieval.  They are written by different events, around the wait of a completion.
Still whatever is kept is kept for an open document: only a completion begins to keep
something, it does so in the same event in which it finds its document open, and nothing
that happens after a wait keeps anything.
-/

namespace Shorthand

namespace Session

/-! ## The current store -/

/-- An event of a session is an event of its current store. -/
inductive Forwards (session : Session) : SessionEvent → StoreEvent → Prop
  | complete {engine : Engine} {uri : String} {position : Position} {number : Nat} :
      session.opened? uri = some number →
      Forwards session (.complete engine uri position) (.request uri)
  | configure {settings : Value} : Forwards session (.configure settings) (.change settings)
  | close {uri : String} : Forwards session (.closeDocument uri) (.close uri)
  | settle {engine : Engine} {retrieval : Nat} {answer : Answer} :
      Forwards session (.settle engine session.retired.length retrieval answer)
        (.settle retrieval answer)
  | cancel {engine : Engine} {id : RequestId} :
      id.generation = session.retired.length →
      Forwards session (.cancel engine id) (.cancel id.request)

theorem resume_frame (session : Session) (engine : Engine) :
    ∃ calls, (session.resume engine).result.1 = { session with calls } :=
  ⟨_, rfl⟩

/-- The store of a generation is the current one, or leaves that one alone. -/
theorem setStore_cases (session : Session) (generation : Nat) (next : Store) :
    (generation = session.retired.length ∧
      session.setStore generation next = { session with store := next }) ∨
    (generation ≠ session.retired.length ∧
      session.setStore generation next =
        { session with retired := session.retired.set generation next }) := by
  by_cases hcurrent : generation = session.retired.length
  · exact .inl ⟨hcurrent, by rw [setStore, if_pos hcurrent]⟩
  · exact .inr ⟨hcurrent, by rw [setStore, if_neg hcurrent]⟩

/-- An event of one of a session's stores, after which some completions go on.  Where there
is no such store, nothing happens. -/
def Resumed (session next : Session) (generation : Nat) (event : StoreEvent) : Prop :=
  next = session ∨
    ∃ store calls, session.storeOf? generation = some store ∧
      next = { session.setStore generation (store.step event).result with calls }

theorem resumed_settle
    (session : Session) (engine : Engine) (generation retrieval : Nat) (answer : Answer) :
    session.Resumed (session.step (.settle engine generation retrieval answer)).result.1
      generation (.settle retrieval answer) := by
  rcases session.settle_cases engine generation retrieval answer with
    ⟨-, h⟩ | ⟨store, hstore, h⟩
  · exact .inl (by simp only [step, h])
  · obtain ⟨calls, hcalls⟩ := resume_frame
      (session.setStore generation (store.step (.settle retrieval answer)).result) engine
    exact .inr ⟨store, calls, hstore, by simp only [step, h, ← hcalls]⟩

theorem resumed_cancel (session : Session) (engine : Engine) (id : RequestId) :
    session.Resumed (session.step (.cancel engine id)).result.1 id.generation
      (.cancel id.request) := by
  rcases session.cancel_cases engine id with ⟨-, h⟩ | ⟨store, hstore, h⟩
  · exact .inl (by simp only [step, h])
  · obtain ⟨calls, hcalls⟩ := resume_frame
      (session.setStore id.generation (store.step (.cancel id.request)).result) engine
    exact .inr ⟨store, calls, hstore, by simp only [step, h, ← hcalls]⟩

/-- The event was one of the current store, or left that one in its place. -/
theorem Resumed.store_cases
    {session next : Session} {generation : Nat} {event : StoreEvent}
    (hresumed : session.Resumed next generation event) :
    next.retired.length = session.retired.length ∧
      (next.store = session.store ∨
        generation = session.retired.length ∧ next.store = (session.store.step event).result) := by
  rcases hresumed with rfl | ⟨store, calls, hstore, rfl⟩
  · exact ⟨rfl, .inl rfl⟩
  · rcases session.setStore_cases generation (store.step event).result with
      ⟨rfl, hset⟩ | ⟨-, hset⟩
    · obtain rfl := Option.some.inj (hstore.symm.trans session.storeOf?_current)
      rw [hset]
      exact ⟨rfl, .inr ⟨rfl, rfl⟩⟩
    · rw [hset]
      exact ⟨List.length_set, .inl rfl⟩

theorem Resumed.frame
    {session next : Session} {generation : Nat} {event : StoreEvent}
    (hresumed : session.Resumed next generation event) :
    ∃ store retired calls, next = { session with store, retired, calls } := by
  rcases hresumed with rfl | ⟨store, calls, -, rfl⟩
  · exact ⟨next.store, next.retired, next.calls, rfl⟩
  · obtain ⟨current, retired, hset⟩ :=
      session.setStore_frame generation (store.step event).result
    exact ⟨current, retired, calls, by rw [hset]⟩

theorem Resumed.phase_opened
    {session next : Session} {generation : Nat} {event : StoreEvent}
    (hresumed : session.Resumed next generation event) :
    next.phase = session.phase ∧ next.opened = session.opened := by
  obtain ⟨store, retired, calls, rfl⟩ := hresumed.frame
  exact ⟨rfl, rfl⟩

/-- An event leaves the current store in its place, or makes it do an event of its own; only
a client that introduces itself with success puts another one there. -/
theorem step_store_cases (session : Session) (event : SessionEvent) :
    let next := (session.step event).result.1
    (next.retired.length = session.retired.length ∧
      (next.store = session.store ∨
        ∃ storeEvent, session.Forwards event storeEvent ∧
          next.store = (session.store.step storeEvent).result)) ∨
    (∃ env client configured routing pulls, event = .introduce env client ∧
      session.initialize env client = (configured, .ok ()) ∧
      next.store = .fresh routing pulls) := by
  intro next
  cases event with
  | introduce env client =>
      cases hconfig : Session.configuration { session with capabilities := client.capabilities }
          env client with
      | error error =>
          have hnext : next = { session with capabilities := client.capabilities } := by
            simp only [next, step, Session.initialize, hconfig]
          exact .inl ⟨by rw [hnext], .inl (by rw [hnext])⟩
      | ok config =>
          refine .inr ⟨env, client, next, config.routing, client.capabilities.configuration,
            rfl, ?_, ?_⟩
          · simp only [next, step, Session.initialize, hconfig]
          · simp only [next, step, Session.initialize, hconfig]
            rfl
  | ready | changeFolders | shutDown | openDocument => exact .inl ⟨rfl, .inl rfl⟩
  | configure settings => exact .inl ⟨rfl, .inr ⟨_, .configure, rfl⟩⟩
  | edit uri text =>
      obtain ⟨documents, h, -⟩ := session.edit_cases uri text
      have hnext : next = { session with documents } := h
      exact .inl ⟨by rw [hnext], .inl (by rw [hnext])⟩
  | closeDocument uri => exact .inl ⟨rfl, .inr ⟨_, .close, rfl⟩⟩
  | complete engine uri position =>
      have hstep : next = (session.complete engine uri position).result.1 := rfl
      rw [hstep]
      by_cases hphase : session.phase = .initialized
      · cases hopened : session.opened? uri with
        | none =>
            rw [complete_of_not_opened engine position hphase hopened]
            exact .inl ⟨rfl, .inl rfl⟩
        | some number =>
            rcases session.complete_session_cases engine uri position with
              h | ⟨document, calls, h, -⟩
            · exact .inl ⟨by rw [h], .inl (by rw [h])⟩
            · exact .inl ⟨by rw [h]; rfl, .inr ⟨_, .complete hopened, by rw [h]; rfl⟩⟩
      · rw [complete_of_phase_ne engine uri position hphase]
        exact .inl ⟨rfl, .inl rfl⟩
  | settle engine generation retrieval answer =>
      obtain ⟨hlength, hsame | ⟨rfl, hstore⟩⟩ :=
        (session.resumed_settle engine generation retrieval answer).store_cases
      · exact .inl ⟨hlength, .inl hsame⟩
      · exact .inl ⟨hlength, .inr ⟨_, .settle, hstore⟩⟩
  | cancel engine id =>
      obtain ⟨hlength, hsame | ⟨hgeneration, hstore⟩⟩ :=
        (session.resumed_cancel engine id).store_cases
      · exact .inl ⟨hlength, .inl hsame⟩
      · exact .inl ⟨hlength, .inr ⟨_, .cancel hgeneration, hstore⟩⟩

/-! ## The open documents -/

/-- What an event does to the phase and to the open documents.  All but four kinds leave
both alone. -/
theorem step_phase_opened_cases (session : Session) (event : SessionEvent) :
    let next := (session.step event).result.1
    (next.phase = session.phase ∧ next.opened = session.opened) ∨
    (∃ env client, event = .introduce env client ∧ next.phase = .initialized ∧
      next.opened = session.opened) ∨
    (event = .shutDown ∧ next = session.shutDown) ∨
    (∃ uri document, event = .openDocument uri document ∧
      next = session.openDocument uri document) ∨
    (∃ uri, event = .closeDocument uri ∧ next = session.closeDocument uri) := by
  intro next
  cases event with
  | introduce env client =>
      obtain ⟨noted, rfl, h | ⟨config, h⟩⟩ := session.introduce_cases env client
      · exact .inl ⟨by simp only [next, h], by simp only [next, h]⟩
      · exact .inr (.inl ⟨env, client, rfl, by simp only [next, h]; rfl,
          by simp only [next, h]; rfl⟩)
  | shutDown => exact .inr (.inr (.inl ⟨rfl, rfl⟩))
  | ready | changeFolders | configure => exact .inl ⟨rfl, rfl⟩
  | openDocument uri document => exact .inr (.inr (.inr (.inl ⟨uri, document, rfl, rfl⟩)))
  | edit uri text =>
      obtain ⟨documents, h, -⟩ := session.edit_cases uri text
      have hnext : next = { session with documents } := h
      exact .inl ⟨by rw [hnext], by rw [hnext]⟩
  | closeDocument uri => exact .inr (.inr (.inr (.inr ⟨uri, rfl, rfl⟩)))
  | complete engine uri position =>
      have hstep : next = (session.complete engine uri position).result.1 := rfl
      rcases session.complete_session_cases engine uri position with h | ⟨number, calls, h, -⟩
      · exact .inl ⟨by rw [hstep, h], by rw [hstep, h]⟩
      · exact .inl ⟨by rw [hstep, h]; rfl, by rw [hstep, h]; rfl⟩
  | settle engine generation retrieval answer =>
      exact .inl (session.resumed_settle engine generation retrieval answer).phase_opened
  | cancel engine id => exact .inl (session.resumed_cancel engine id).phase_opened

theorem phase_step
    {session : Session} (hphase : session.phase = .initialized) {event : SessionEvent}
    (hrunning : event ≠ .shutDown) : (session.step event).result.1.phase = .initialized := by
  rcases session.step_phase_opened_cases event with
    ⟨hsame, -⟩ | ⟨env, client, -, hinitialized, -⟩ | ⟨hevent, -⟩ | ⟨uri, document, -, h⟩ |
    ⟨uri, -, h⟩
  · exact hsame.trans hphase
  · exact hinitialized
  · exact absurd hevent hrunning
  · rw [h]
    exact hphase
  · rw [h]
    exact hphase

theorem step_opened?_cases (session : Session) (event : SessionEvent) (uri : String) :
    let next := (session.step event).result.1
    next.opened? uri = session.opened? uri ∨
    (∃ document, event = .openDocument uri document ∧
      next.opened? uri = some session.documents.length) ∨
    (event = .closeDocument uri ∧ next.opened? uri = none) := by
  intro next
  have hkept : next.opened = session.opened → next.opened? uri = session.opened? uri := by
    intro hopened
    simp only [opened?, hopened]
  rcases session.step_phase_opened_cases event with
    ⟨-, hsame⟩ | ⟨env, client, -, -, hsame⟩ | ⟨-, h⟩ | ⟨other, document, hevent, h⟩ |
    ⟨other, hevent, h⟩
  · exact .inl (hkept hsame)
  · exact .inl (hkept hsame)
  · exact .inl (hkept (by simp only [next, h]; rfl))
  · by_cases hother : uri = other
    · subst other
      refine .inr (.inl ⟨document, hevent, ?_⟩)
      simp only [next, h, opened?_openDocument_self]
    · refine .inl ?_
      simp only [next, h, session.opened?_openDocument_of_ne document hother]
  · by_cases hother : uri = other
    · subst other
      refine .inr (.inr ⟨hevent, ?_⟩)
      simp only [next, h, opened?_closeDocument_self]
    · refine .inl ?_
      simp only [next, h, session.opened?_closeDocument_of_ne hother]

theorem not_opened_after
    {session : Session} {uri : String} (hclosed : session.opened? uri = none)
    {events : List SessionEvent} (hnever : ∀ document, .openDocument uri document ∉ events) :
    (session.after events).opened? uri = none := by
  induction events generalizing session with
  | nil => exact hclosed
  | cons event rest ih =>
      have hrest : ∀ document, .openDocument uri document ∉ rest := by
        intro document hmem
        exact hnever document (List.mem_cons_of_mem _ hmem)
      rcases session.step_opened?_cases event uri with hsame | ⟨document, rfl, -⟩ | ⟨-, hnone⟩
      · exact ih (hsame.trans hclosed) hrest
      · exact absurd List.mem_cons_self (hnever document)
      · exact ih hnone hrest

/-! ## What is kept -/

/-- What is kept after an event was kept before it, or is kept by a completion for its open
document. -/
theorem cached?_step
    {session : Session} {event : SessionEvent} {uri : String} {number : Nat}
    (hcached : (session.step event).result.1.store.cached? uri = some number) :
    session.store.cached? uri = some number ∨
      ∃ engine position document, event = .complete engine uri position ∧
        session.opened? uri = some document := by
  rcases session.step_store_cases event with
    ⟨-, h | ⟨storeEvent, hforwards, h⟩⟩ | ⟨env, client, configured, routing, pulls, -, -, h⟩
  · rw [h] at hcached
    exact .inl hcached
  · rw [h] at hcached
    rcases session.store.step_cached?_cases storeEvent uri with
      hsame | ⟨rfl, -⟩ | ⟨-, hnone⟩ | ⟨retrieval, answer, -, -, -, -, hnone⟩
    · exact .inl (hsame.symm.trans hcached)
    · cases hforwards with
      | @complete engine _ position document hopened =>
          exact .inr ⟨engine, position, document, rfl, hopened⟩
    · rw [hnone] at hcached
      cases hcached
    · rw [hnone] at hcached
      cases hcached
  · rw [h] at hcached
    cases hcached

/-- Whatever the store of a session keeps is kept for an open document. -/
def KeepsOpen (session : Session) : Prop :=
  ∀ uri number, session.store.cached? uri = some number →
    ∃ document, session.opened? uri = some document

theorem KeepsOpen.step
    {session : Session} (hsession : session.KeepsOpen) (event : SessionEvent) :
    (session.step event).result.1.KeepsOpen := by
  intro uri number hcached
  rcases session.step_opened?_cases event uri with hsame | ⟨document, -, hopened⟩ | ⟨rfl, -⟩
  · rw [hsame]
    rcases cached?_step hcached with hbefore | ⟨engine, position, document, -, hopened⟩
    · exact hsession uri number hbefore
    · exact ⟨document, hopened⟩
  · exact ⟨_, hopened⟩
  · have hforgotten := session.store.cached?_forget_self uri
    have hstore : (session.step (.closeDocument uri)).result.1.store =
        session.store.forget uri := rfl
    rw [hstore, hforgotten] at hcached
    cases hcached

theorem KeepsOpen.after
    {session : Session} (hsession : session.KeepsOpen) (events : List SessionEvent) :
    (session.after events).KeepsOpen := by
  induction events generalizing session with
  | nil => exact hsession
  | cons event rest ih => exact ih (hsession.step event)

theorem keepsOpen_start (configPath : Option (List Char)) (log : Log) :
    (start configPath log).KeepsOpen := by
  intro uri number hcached
  cases hcached

/-- Every state of every session.  What its store keeps is kept for an open document; an
event begins to keep something only as a completion for an open document; and a document that
was closed is not kept again before it is opened, whatever still waited for it. -/
theorem cached_documents_are_open
    (configPath : Option (List Char)) (log : Log) (past : List SessionEvent) :
    let session := (start configPath log).after past
    (∀ uri number, session.store.cached? uri = some number →
      ∃ document, session.opened? uri = some document) ∧
    (∀ event uri number, (session.step event).result.1.store.cached? uri = some number →
      session.store.cached? uri = some number ∨
        ∃ engine position document, event = .complete engine uri position ∧
          session.opened? uri = some document) ∧
    ∀ uri future, (∀ document, .openDocument uri document ∉ future) →
      let later := (session.closeDocument uri).after future
      later.opened? uri = none ∧ later.store.cached? uri = none := by
  intro session
  have hsession : session.KeepsOpen := (keepsOpen_start configPath log).after past
  refine ⟨hsession, fun event uri number => cached?_step, ?_⟩
  intro uri future hnever later
  have hclosed : later.opened? uri = none :=
    not_opened_after (session.opened?_closeDocument_self uri) hnever
  have hlater : later.KeepsOpen := (hsession.step (.closeDocument uri)).after future
  refine ⟨hclosed, ?_⟩
  cases hcached : later.store.cached? uri with
  | none => rfl
  | some number =>
      obtain ⟨document, hopened⟩ := hlater uri number hcached
      rw [hclosed] at hopened
      cases hopened

end Session

end Shorthand
