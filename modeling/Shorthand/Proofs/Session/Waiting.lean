import Shorthand.Proofs.Session.Run

/-!
# Completions that wait

In every state that a session reaches, the completions on its list are those that wait:
each has a request of its own, which is pending in the store that it asked, and a
document that the session still holds.
-/

namespace Shorthand

namespace Session

/-- A request was made in a session. -/
def Issued (session : Session) (id : RequestId) : Prop :=
  ∃ store, session.storeOf? id.generation = some store ∧ id.request < store.requests.length

/-- What a session refers to is there: its stores keep what they name, an open document
has a place, and a waiting completion has its document and a request of its own. -/
structure Sound (session : Session) : Prop where
  stores : ∀ {generation : Nat} {store : Store},
    session.storeOf? generation = some store → store.WellFormed
  opened : ∀ {uri : String} {number : Nat},
    session.opened? uri = some number → number < session.documents.length
  document : ∀ {call : Call}, call ∈ session.calls →
    call.document < session.documents.length
  request : ∀ {call : Call}, call ∈ session.calls → session.Issued call.id
  nodup : (session.calls.map Call.id).Nodup

/-- A sound session in which exactly what is still pending waits. -/
structure WellFormed (session : Session) : Prop extends Sound session where
  waiting : ∀ {call : Call}, call ∈ session.calls → session.progress call = .pending

theorem wellFormed_start (configPath : Option (List Char)) (log : Log) :
    (start configPath log).WellFormed where
  stores := by
    intro generation store hstore
    rw [storeOf?_eq] at hstore
    have hmem := List.mem_of_getElem? hstore
    rw [List.mem_singleton.mp hmem]
    exact Store.wellFormed_fresh _ _
  opened := by simp [start, opened?]
  document := by simp [start]
  request := by simp [start]
  nodup := by simp [start]
  waiting := by simp [start]

/-! ## Where a waiting completion stands -/

theorem progress_of_storeOf?
    {session : Session} {call : Call} {store : Store}
    (hstore : session.storeOf? call.id.generation = some store) :
    session.progress call = (store.progress? call.id.request).getD .pending := by
  simp [progress, hstore]

theorem WellFormed.pending
    {session : Session} (hsession : session.WellFormed) {call : Call}
    (hcall : call ∈ session.calls) :
    ∃ store, session.storeOf? call.id.generation = some store ∧
      store.progress? call.id.request = some .pending := by
  obtain ⟨store, hstore, hlt⟩ := hsession.request hcall
  have hwaits := hsession.waiting hcall
  refine ⟨store, hstore, ?_⟩
  rw [progress_of_storeOf? hstore] at hwaits
  simpa [Store.progress?, List.getElem?_eq_getElem hlt] using hwaits

theorem progress_setStore_of_ne
    {session : Session} {generation : Nat} {store : Store}
    (hstore : session.storeOf? generation = some store) (next : Store) {call : Call}
    (hother : call.id.generation ≠ generation) :
    (session.setStore generation next).progress call = session.progress call := by
  simp only [progress, storeOf?_setStore hstore, if_neg hother]

theorem progress_setStore_self
    {session : Session} {store : Store} (next : Store) {call : Call}
    (hstore : session.storeOf? call.id.generation = some store) :
    (session.setStore call.id.generation next).progress call =
      (next.progress? call.id.request).getD .pending := by
  simp [progress, storeOf?_setStore hstore]

/-! ## What an event of one store leaves true -/

theorem Sound.setStore
    {session : Session} (hsession : session.Sound) {generation : Nat} {store : Store}
    (hstore : session.storeOf? generation = some store) (event : StoreEvent) :
    (session.setStore generation (store.step event).result).Sound where
  stores := by
    intro other found hfound
    rw [storeOf?_setStore hstore] at hfound
    split at hfound
    · cases hfound
      exact (hsession.stores hstore).step event
    · exact hsession.stores hfound
  opened := by
    intro uri number hopened
    obtain ⟨current, retired, h⟩ := session.setStore_frame generation (store.step event).result
    rw [h] at hopened ⊢
    exact hsession.opened hopened
  document := by
    intro call hcall
    rw [setStore_calls] at hcall
    rw [setStore_documents]
    exact hsession.document hcall
  request := by
    intro call hcall
    rw [setStore_calls] at hcall
    obtain ⟨found, hfound, hlt⟩ := hsession.request hcall
    rw [Issued, storeOf?_setStore hstore]
    by_cases hgeneration : call.id.generation = generation
    · rw [hgeneration, hstore] at hfound
      obtain rfl := Option.some.inj hfound
      have hle := (store.later_step event).requests_length_le
      exact ⟨_, if_pos hgeneration, Nat.lt_of_lt_of_le hlt hle⟩
    · exact ⟨found, by rw [if_neg hgeneration, hfound], hlt⟩
  nodup := by
    rw [setStore_calls]
    exact hsession.nodup

/-- Completions go on to wait through an event of a store that neither cancels nor
answers. -/
theorem WellFormed.setStore
    {session : Session} (hsession : session.WellFormed) {generation : Nat} {store : Store}
    (hstore : session.storeOf? generation = some store) (event : StoreEvent)
    (hcancel : ∀ id, event ≠ .cancel id)
    (hsettle : ∀ number answer, event ≠ .settle number answer) :
    (session.setStore generation (store.step event).result).WellFormed where
  toSound := hsession.toSound.setStore hstore event
  waiting := by
    intro call hcall
    rw [setStore_calls] at hcall
    by_cases hgeneration : call.id.generation = generation
    · subst generation
      obtain ⟨found, hfound, hpending⟩ := hsession.pending hcall
      rw [hstore] at hfound
      obtain rfl := Option.some.inj hfound
      rw [progress_setStore_self _ hstore]
      rcases Store.pending_step_cases (hsession.stores hstore) hpending event with
        ⟨hstays, -, -⟩ | ⟨hevent, -⟩ | ⟨number, answer, progress, hevent, -⟩
      · rw [hstays]
        rfl
      · exact absurd hevent (hcancel _)
      · exact absurd hevent (hsettle number answer)
    · rw [progress_setStore_of_ne hstore _ hgeneration]
      exact hsession.waiting hcall

/-- After a resumption exactly what is still pending waits. -/
theorem Sound.resume
    {session : Session} (hsession : session.Sound) (engine : Engine) :
    (session.resume engine).result.1.WellFormed where
  stores := hsession.stores
  opened := hsession.opened
  document := by
    intro call hcall
    exact hsession.document (List.mem_filter.mp hcall).1
  request := by
    intro call hcall
    exact hsession.request (List.mem_filter.mp hcall).1
  nodup := by
    have hsublist : ((session.resume engine).result.1.calls).Sublist session.calls :=
      List.filter_sublist
    exact hsession.nodup.sublist (hsublist.map Call.id)
  waiting := by
    intro call hcall
    have hpending := (List.mem_filter.mp hcall).2
    exact eq_of_beq hpending

/-! ## Every event -/

theorem WellFormed.introduce
    {session : Session} (hsession : session.WellFormed) (env : Environment)
    (client : Introduction) :
    (session.step (.introduce env client)).result.1.WellFormed := by
  obtain ⟨noted, rfl, h | ⟨config, h⟩⟩ := session.introduce_cases env client
  · rw [h]
    exact ⟨⟨hsession.stores, hsession.opened, hsession.document, hsession.request,
      hsession.nodup⟩, hsession.waiting⟩
  · rw [h]
    -- The generations of waiting completions are older than the new one.
    have hold : ∀ call ∈ session.calls, call.id.generation ≠ session.retired.length + 1 := by
      intro call hcall hnew
      obtain ⟨store, hstore, -⟩ := hsession.request hcall
      rw [storeOf?_eq] at hstore
      have hlt := (List.getElem?_eq_some_iff.mp hstore).1
      rw [stores_length] at hlt
      omega
    refine ⟨⟨?_, hsession.opened, hsession.document, ?_, hsession.nodup⟩, ?_⟩
    · intro generation store hstore
      rw [storeOf?_configured] at hstore
      split at hstore
      · cases hstore
        exact Store.wellFormed_fresh _ _
      · exact hsession.stores hstore
    · intro call hcall
      rw [Issued, storeOf?_configured, if_neg (hold call hcall)]
      exact hsession.request hcall
    · intro call hcall
      have hwaits := hsession.waiting hcall
      simp only [progress, storeOf?_configured, if_neg (hold call hcall)] at hwaits ⊢
      exact hwaits

theorem WellFormed.openDocument
    {session : Session} (hsession : session.WellFormed) (uri : String) (document : Document) :
    (session.openDocument uri document).WellFormed := by
  have hlength : (session.openDocument uri document).documents.length =
      session.documents.length + 1 := by
    simp [Session.openDocument]
  refine ⟨⟨hsession.stores, ?_, ?_, hsession.request, hsession.nodup⟩, hsession.waiting⟩
  · intro other number hopened
    rw [hlength]
    by_cases hother : other = uri
    · rw [hother, opened?_openDocument_self] at hopened
      cases hopened
      exact Nat.lt_succ_self _
    · rw [opened?_openDocument_of_ne session document hother] at hopened
      exact Nat.lt_succ_of_lt (hsession.opened hopened)
  · intro call hcall
    rw [hlength]
    exact Nat.lt_succ_of_lt (hsession.document hcall)

theorem WellFormed.edit
    {session : Session} (hsession : session.WellFormed) (uri : String) (text : List Char) :
    (session.edit uri text).WellFormed := by
  obtain ⟨documents, h, hlength⟩ := session.edit_cases uri text
  rw [h]
  refine ⟨⟨hsession.stores, ?_, ?_, hsession.request, hsession.nodup⟩, hsession.waiting⟩
  · intro other number hopened
    have hlt := hsession.opened hopened
    exact hlength ▸ hlt
  · intro call hcall
    have hlt := hsession.document hcall
    exact hlength ▸ hlt

theorem WellFormed.closeDocument
    {session : Session} (hsession : session.WellFormed) (uri : String) :
    (session.closeDocument uri).WellFormed := by
  have hforgotten := hsession.setStore session.storeOf?_current (.close uri)
    (by simp) (by simp)
  rw [setStore_current] at hforgotten
  refine ⟨⟨hforgotten.stores, ?_, hsession.document, hforgotten.request, hsession.nodup⟩,
    hforgotten.waiting⟩
  intro other number hopened
  by_cases hother : other = uri
  · rw [hother, opened?_closeDocument_self] at hopened
    cases hopened
  · rw [opened?_closeDocument_of_ne session hother] at hopened
    exact hsession.opened hopened

/-! ## A new completion -/

/-- A completion for an open document is served from what its store knows, or waits. -/
theorem complete_of_opened
    {session : Session} (hsession : session.WellFormed) (engine : Engine) {uri : String}
    {number : Nat} (position : Position) (hphase : session.phase = .initialized)
    (hopened : session.opened? uri = some number) :
    let call := session.nextCall number position
    let store := session.store.request uri
    (store.progress? call.id.request = some .pending ∧
      session.complete engine uri position =
        ⟨({ session.asked uri with calls := session.calls ++ [call] }, .waiting call.id), []⟩) ∨
    ∃ routing document, store.progress? call.id.request = some (.served routing) ∧
      session.documents[number]? = some document ∧
      let completed := document.complete engine routing session.replaces position
      session.complete engine uri position =
        ⟨(session.asked uri, .items completed.result), completed.records⟩ := by
  intro call store
  have hlt := hsession.opened hopened
  have hdocument : session.documents[number]? = some session.documents[number] :=
    List.getElem?_eq_getElem hlt
  rcases Store.progress?_request (hsession.stores session.storeOf?_current) uri with
    hpending | ⟨routing, hserved⟩
  · refine .inl ⟨hpending, ?_⟩
    simp [complete, hphase, hopened, hpending, reply, asked, call, nextCall]
  · refine .inr ⟨routing, _, hserved, hdocument, ?_⟩
    simp [complete, hphase, hopened, hserved, reply, asked, hdocument]

theorem WellFormed.asked
    {session : Session} (hsession : session.WellFormed) (uri : String) :
    (session.asked uri).WellFormed := by
  have hasked := hsession.setStore session.storeOf?_current (.request uri)
    (by simp) (by simp)
  rwa [setStore_current] at hasked

theorem Issued.ne_nextCall
    {session : Session} {id : RequestId} (hissued : session.Issued id) (document : Nat)
    (position : Position) : (session.nextCall document position).id ≠ id := by
  rintro rfl
  obtain ⟨store, hstore, hlt⟩ := hissued
  have hcurrent := session.storeOf?_current
  obtain rfl := Option.some.inj (hstore.symm.trans hcurrent)
  exact Nat.lt_irrefl _ hlt

theorem WellFormed.join
    {session : Session} (hsession : session.WellFormed) {uri : String} {number : Nat}
    (position : Position) (hopened : session.opened? uri = some number)
    (hpending : (session.store.request uri).progress? session.store.requests.length =
      some .pending) :
    WellFormed { session.asked uri with
      calls := session.calls ++ [session.nextCall number position] } := by
  have hasked := hsession.asked uri
  have hcurrent : (session.asked uri).storeOf? session.retired.length =
      some (session.store.request uri) := (session.asked uri).storeOf?_current
  refine ⟨⟨hasked.stores, hasked.opened, ?_, ?_, ?_⟩, ?_⟩
  · intro call hcall
    rcases List.mem_append.mp hcall with hold | hnew
    · exact hsession.document hold
    · rw [List.mem_singleton.mp hnew]
      exact hsession.opened hopened
  · intro call hcall
    rcases List.mem_append.mp hcall with hold | hnew
    · exact hasked.request hold
    · rw [List.mem_singleton.mp hnew]
      obtain ⟨basis, hrequests⟩ := session.store.request_requests uri
      refine ⟨_, hcurrent, ?_⟩
      simp [hrequests, nextCall]
  · rw [List.map_append, List.nodup_append]
    refine ⟨hsession.nodup, by simp, ?_⟩
    intro id hid other hother
    obtain ⟨call, hcall, rfl⟩ := List.mem_map.mp hid
    rw [List.mem_singleton.mp hother]
    exact ((hsession.request hcall).ne_nextCall number position).symm
  · intro call hcall
    rcases List.mem_append.mp hcall with hold | hnew
    · exact hasked.waiting hold
    · rw [List.mem_singleton.mp hnew]
      have hprogress : (session.asked uri).progress (session.nextCall number position) =
          ((session.store.request uri).progress? session.store.requests.length).getD .pending :=
        progress_of_storeOf? hcurrent
      rw [hpending] at hprogress
      exact hprogress

theorem WellFormed.complete
    {session : Session} (hsession : session.WellFormed) (engine : Engine) (uri : String)
    (position : Position) :
    (session.complete engine uri position).result.1.WellFormed := by
  by_cases hphase : session.phase = .initialized
  · cases hopened : session.opened? uri with
    | none =>
        rw [complete_of_not_opened engine position hphase hopened]
        exact hsession
    | some number =>
        rcases complete_of_opened hsession engine position hphase hopened with
          ⟨hpending, h⟩ | ⟨routing, document, -, -, h⟩
        · rw [h]
          exact hsession.join position hopened hpending
        · rw [h]
          exact hsession.asked uri
  · rw [complete_of_phase_ne engine uri position hphase]
    exact hsession

/-! ## Every run -/

theorem WellFormed.step
    {session : Session} (hsession : session.WellFormed) (event : SessionEvent) :
    (session.step event).result.1.WellFormed := by
  cases event with
  | introduce env client => exact hsession.introduce env client
  | ready | shutDown =>
      exact ⟨⟨hsession.stores, hsession.opened, hsession.document, hsession.request,
        hsession.nodup⟩, hsession.waiting⟩
  | changeFolders => exact hsession
  | configure settings =>
      have hchanged := hsession.setStore session.storeOf?_current (.change settings)
        (by simp) (by simp)
      rwa [setStore_current] at hchanged
  | openDocument uri document => exact hsession.openDocument uri document
  | edit uri text => exact hsession.edit uri text
  | closeDocument uri => exact hsession.closeDocument uri
  | complete engine uri position => exact hsession.complete engine uri position
  | settle engine generation retrieval answer =>
      rcases session.settle_cases engine generation retrieval answer with
        ⟨-, h⟩ | ⟨store, hstore, h⟩
      · simp only [Session.step, h]
        exact hsession
      · simp only [Session.step, h]
        exact (hsession.toSound.setStore hstore _).resume engine
  | cancel engine id =>
      rcases session.cancel_cases engine id with ⟨-, h⟩ | ⟨store, hstore, h⟩
      · simp only [Session.step, h]
        exact hsession
      · simp only [Session.step, h]
        exact (hsession.toSound.setStore hstore _).resume engine

theorem WellFormed.after
    {session : Session} (hsession : session.WellFormed) (events : List SessionEvent) :
    (session.after events).WellFormed := by
  induction events generalizing session with
  | nil => exact hsession
  | cons event rest ih => exact ih (hsession.step event)

theorem wellFormed_after_start
    (configPath : Option (List Char)) (log : Log) (events : List SessionEvent) :
    ((start configPath log).after events).WellFormed :=
  (wellFormed_start configPath log).after events

end Session

end Shorthand
