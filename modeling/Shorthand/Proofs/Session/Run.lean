import Shorthand.Session
import Shorthand.Proofs.Store.Waiting

/-!
# Runs of a session

A session keeps every store that it had, so a completion finds the one that it asked
although the client has introduced itself again.  An event reaches one store at most.
-/

namespace Shorthand

namespace Session

def after (session : Session) (events : List SessionEvent) : Session :=
  (session.run events).result.1

/-- The replies to completions that had to wait, in the order of a run. -/
def replied (session : Session) (events : List SessionEvent) : List (RequestId × Reply) :=
  (session.run events).result.2

@[simp] theorem after_nil (session : Session) : session.after [] = session := rfl

@[simp] theorem after_cons (session : Session) (event : SessionEvent)
    (rest : List SessionEvent) :
    session.after (event :: rest) = (session.step event).result.1.after rest := rfl

@[simp] theorem after_append (session : Session) (events more : List SessionEvent) :
    session.after (events ++ more) = (session.after events).after more := by
  induction events generalizing session with
  | nil => rfl
  | cons event rest ih =>
      simp only [List.cons_append, after_cons]
      exact ih (session.step event).result.1

@[simp] theorem replied_nil (session : Session) : session.replied [] = [] := rfl

@[simp] theorem replied_cons (session : Session) (event : SessionEvent)
    (rest : List SessionEvent) :
    session.replied (event :: rest) =
      (session.step event).result.2 ++ (session.step event).result.1.replied rest := rfl

@[simp] theorem replied_append (session : Session) (events more : List SessionEvent) :
    session.replied (events ++ more) =
      session.replied events ++ (session.after events).replied more := by
  induction events generalizing session with
  | nil => rfl
  | cons event rest ih =>
      simp only [List.cons_append, replied_cons, after_cons, List.append_assoc]
      rw [ih (session.step event).result.1]

/-! ## The stores of a session -/

/-- The stores that a session has had, by their generations. -/
def stores (session : Session) : List Store := session.retired ++ [session.store]

theorem stores_length (session : Session) :
    session.stores.length = session.retired.length + 1 := by
  simp [stores]

theorem storeOf?_eq (session : Session) (generation : Nat) :
    session.storeOf? generation = session.stores[generation]? := by
  simp only [storeOf?, stores]
  by_cases hcurrent : generation = session.retired.length
  · simp [hcurrent]
  · rw [if_neg hcurrent, List.getElem?_append]
    by_cases hlt : generation < session.retired.length
    · rw [if_pos hlt]
    · have hbeyond : session.retired.length < generation := by omega
      have hpositive : generation - session.retired.length ≠ 0 := by omega
      rw [if_neg hlt, List.getElem?_eq_none (by omega)]
      simp [hpositive]

theorem storeOf?_current (session : Session) :
    session.storeOf? session.retired.length = some session.store := by
  simp [storeOf?]

theorem setStore_current (session : Session) (next : Store) :
    session.setStore session.retired.length next = { session with store := next } := by
  simp [setStore]

theorem stores_setStore
    {session : Session} {generation : Nat} {store : Store}
    (hstore : session.storeOf? generation = some store) (next : Store) :
    (session.setStore generation next).stores = session.stores.set generation next := by
  simp only [setStore, stores]
  by_cases hcurrent : generation = session.retired.length
  · rw [if_pos hcurrent, hcurrent, List.set_append_right _ _ (Nat.le_refl _)]
    simp
  · rw [storeOf?_eq] at hstore
    have hlt := (List.getElem?_eq_some_iff.mp hstore).1
    rw [stores_length] at hlt
    rw [if_neg hcurrent, List.set_append_left _ _ (by omega)]

theorem storeOf?_setStore
    {session : Session} {generation : Nat} {store : Store}
    (hstore : session.storeOf? generation = some store) (next : Store) (other : Nat) :
    (session.setStore generation next).storeOf? other =
      if other = generation then some next else session.storeOf? other := by
  rw [storeOf?_eq, stores_setStore hstore]
  by_cases hother : other = generation
  · rw [storeOf?_eq] at hstore
    have hlt := (List.getElem?_eq_some_iff.mp hstore).1
    rw [if_pos hother, hother, List.getElem?_set_self hlt]
  · rw [if_neg hother, List.getElem?_set_ne (Ne.symm hother), storeOf?_eq]

theorem setStore_frame (session : Session) (generation : Nat) (next : Store) :
    ∃ store retired, session.setStore generation next = { session with store, retired } := by
  unfold setStore
  split
  · exact ⟨next, session.retired, rfl⟩
  · exact ⟨session.store, session.retired.set generation next, rfl⟩

@[simp] theorem setStore_calls (session : Session) (generation : Nat) (next : Store) :
    (session.setStore generation next).calls = session.calls := by
  obtain ⟨store, retired, h⟩ := session.setStore_frame generation next
  rw [h]

@[simp] theorem setStore_documents (session : Session) (generation : Nat) (next : Store) :
    (session.setStore generation next).documents = session.documents := by
  obtain ⟨store, retired, h⟩ := session.setStore_frame generation next
  rw [h]

@[simp] theorem setStore_replaces (session : Session) (generation : Nat) (next : Store) :
    (session.setStore generation next).replaces = session.replaces := by
  obtain ⟨store, retired, h⟩ := session.setStore_frame generation next
  rw [h]

/-- A new configuration begins a new generation. -/
theorem storeOf?_configured (session : Session) (config : ServerConfig) (generation : Nat) :
    (session.configured config).storeOf? generation =
      if generation = session.retired.length + 1
      then some (.fresh config.routing session.capabilities.configuration)
      else session.storeOf? generation := by
  have hstores : (session.configured config).stores =
      session.stores ++ [.fresh config.routing session.capabilities.configuration] := rfl
  rw [storeOf?_eq, hstores, storeOf?_eq, ← stores_length]
  by_cases hnew : generation = session.stores.length
  · simp [hnew]
  · rw [if_neg hnew]
    by_cases hlt : generation < session.stores.length
    · rw [List.getElem?_append_left hlt]
    · rw [List.getElem?_eq_none (by simp; omega), List.getElem?_eq_none (by omega)]

/-! ## The documents of a session -/

theorem opened?_openDocument_self (session : Session) (uri : String) (document : Document) :
    (session.openDocument uri document).opened? uri = some session.documents.length := by
  simp [opened?, openDocument]

theorem opened?_openDocument_of_ne
    (session : Session) {uri other : String} (document : Document) (hne : other ≠ uri) :
    (session.openDocument uri document).opened? other = session.opened? other := by
  have hhead : (uri == other) = false := by simpa using hne.symm
  have hrest := find?_filter_key_of_ne session.opened hne
  simp only [opened?, openDocument, List.find?_cons, hhead, hrest]

theorem opened?_closeDocument_self (session : Session) (uri : String) :
    (session.closeDocument uri).opened? uri = none := by
  simp only [opened?, closeDocument, find?_filter_key_self, Option.map_none]

theorem opened?_closeDocument_of_ne
    (session : Session) {uri other : String} (hne : other ≠ uri) :
    (session.closeDocument uri).opened? other = session.opened? other := by
  simp only [opened?, closeDocument, find?_filter_key_of_ne session.opened hne]

/-! ## One event -/

/-- A session whose client introduces itself is configured at most. -/
theorem introduce_cases (session : Session) (env : Environment) (client : Introduction) :
    ∃ noted, noted = { session with capabilities := client.capabilities } ∧
      ((session.step (.introduce env client)).result = (noted, []) ∨
        ∃ config, (session.step (.introduce env client)).result =
          (noted.configured config, [])) := by
  refine ⟨_, rfl, ?_⟩
  simp only [step, Session.initialize]
  split
  · exact .inl rfl
  · next config _ => exact .inr ⟨config, rfl⟩

theorem edit_cases (session : Session) (uri : String) (text : List Char) :
    ∃ documents, session.edit uri text = { session with documents } ∧
      documents.length = session.documents.length := by
  unfold edit
  split
  · exact ⟨session.documents, rfl, rfl⟩
  · exact ⟨_, rfl, List.length_modify _ _ _⟩

/-- The completion that asks a session next, for a document with a number. -/
def nextCall (session : Session) (document : Nat) (position : Position) : Call :=
  ⟨⟨session.retired.length, session.store.requests.length⟩, document, position⟩

def asked (session : Session) (uri : String) : Session :=
  { session with store := session.store.request uri }

theorem complete_of_phase_ne
    {session : Session} (engine : Engine) (uri : String) (position : Position)
    (hphase : session.phase ≠ .initialized) :
    session.complete engine uri position = ⟨(session, .items []), []⟩ := by
  simp [complete, hphase]

theorem complete_of_not_opened
    {session : Session} (engine : Engine) {uri : String} (position : Position)
    (hphase : session.phase = .initialized) (hopened : session.opened? uri = none) :
    session.complete engine uri position =
      ⟨(session, .items []), [unknownDocument uri]⟩ := by
  simp [complete, hphase, hopened]

/-- A completion asks a store and joins those that wait, at most. -/
theorem complete_session_cases
    (session : Session) (engine : Engine) (uri : String) (position : Position) :
    (session.complete engine uri position).result.1 = session ∨
    ∃ number calls,
      (session.complete engine uri position).result.1 = { session.asked uri with calls } ∧
      (calls = session.calls ∨ calls = session.calls ++ [session.nextCall number position]) := by
  by_cases hphase : session.phase = .initialized
  · cases hopened : session.opened? uri with
    | none =>
        left
        rw [complete_of_not_opened engine position hphase hopened]
    | some number =>
        right
        let progress := (session.store.request uri).progress? session.store.requests.length
        by_cases hpending : progress.getD .pending = .pending
        · exact ⟨number, session.calls ++ [session.nextCall number position],
            by simp_all [complete, asked, nextCall, progress], .inr rfl⟩
        · exact ⟨number, session.calls,
            by simp_all [complete, asked, progress], .inl rfl⟩
  · left
    rw [complete_of_phase_ne engine uri position hphase]

theorem mem_complete
    (session : Session) {call : Call} (hcall : call ∈ session.calls) (engine : Engine)
    (uri : String) (position : Position) :
    call ∈ (session.complete engine uri position).result.1.calls := by
  rcases session.complete_session_cases engine uri position with
    h | ⟨number, calls, h, rfl | rfl⟩
  · rw [h]
    exact hcall
  · rw [h]
    exact hcall
  · rw [h]
    exact List.mem_append_left _ hcall

theorem settle_cases (session : Session) (engine : Engine) (generation retrieval : Nat)
    (answer : Answer) :
    (session.storeOf? generation = none ∧
      session.settle engine generation retrieval answer = ⟨(session, []), []⟩) ∨
    ∃ store, session.storeOf? generation = some store ∧
      let settled := store.step (.settle retrieval answer)
      let resumed := (session.setStore generation settled.result).resume engine
      session.settle engine generation retrieval answer =
        ⟨resumed.result, settled.records ++ resumed.records⟩ := by
  cases hstore : session.storeOf? generation with
  | none => exact .inl ⟨rfl, by simp [settle, hstore]⟩
  | some store => exact .inr ⟨store, rfl, by simp [settle, hstore, Store.step]⟩

theorem cancel_cases (session : Session) (engine : Engine) (id : RequestId) :
    (session.storeOf? id.generation = none ∧
      session.cancel engine id = ⟨(session, []), []⟩) ∨
    ∃ store, session.storeOf? id.generation = some store ∧
      session.cancel engine id =
        (session.setStore id.generation (store.step (.cancel id.request)).result).resume
          engine := by
  cases hstore : session.storeOf? id.generation with
  | none => exact .inl ⟨rfl, by simp [cancel, hstore]⟩
  | some store => exact .inr ⟨store, rfl, by simp [cancel, hstore, Store.step]⟩

/-! ## The replies of a resumption -/

theorem replies_result (session : Session) (engine : Engine) (calls : List Call) :
    (session.replies engine calls).result =
      calls.map fun call =>
        (call.id, (session.reply engine call (session.progress call)).result) := by
  induction calls with
  | nil => rfl
  | cons call rest ih =>
      simp only [List.map_cons, ← ih]
      rfl

theorem replies_records (session : Session) (engine : Engine) (calls : List Call) :
    (session.replies engine calls).records =
      calls.flatMap fun call =>
        (session.reply engine call (session.progress call)).records := by
  induction calls with
  | nil => rfl
  | cons call rest ih =>
      simp only [List.flatMap_cons, ← ih]
      rfl

/-- A resumption replies to the completions that need not wait, in order, and changes
nothing but the list of those that wait. -/
theorem resume_eq (session : Session) (engine : Engine) :
    let waits (call : Call) : Bool := session.progress call == .pending
    let ready := session.calls.filter (!waits ·)
    session.resume engine =
      ⟨({ session with calls := session.calls.filter waits },
          ready.map fun call =>
            (call.id, (session.reply engine call (session.progress call)).result)),
        ready.flatMap fun call =>
          (session.reply engine call (session.progress call)).records⟩ := by
  intro waits ready
  rw [← replies_result, ← replies_records]
  rfl

/-! ## Any event -/

/-- An event replies to nobody and adds to those that wait at most, or it resumes those
that need not wait any more. -/
theorem step_calls_cases (session : Session) (event : SessionEvent) :
    ((session.step event).result.2 = [] ∧
      ((session.step event).result.1.calls = session.calls ∨
        ∃ number position, (session.step event).result.1.calls =
          session.calls ++ [session.nextCall number position])) ∨
    ∃ moment engine, moment.calls = session.calls ∧
      (session.step event).result = (resume moment engine).result := by
  cases event with
  | introduce env client =>
      obtain ⟨noted, rfl, h | ⟨config, h⟩⟩ := session.introduce_cases env client
      · exact .inl ⟨by rw [h], .inl (by rw [h])⟩
      · exact .inl ⟨by rw [h], .inl (by rw [h]; rfl)⟩
  | ready | changeFolders | shutDown | configure | openDocument => exact .inl ⟨rfl, .inl rfl⟩
  | edit uri text =>
      obtain ⟨documents, h, -⟩ := session.edit_cases uri text
      exact .inl ⟨rfl, .inl (by simp only [step, h])⟩
  | closeDocument uri => exact .inl ⟨rfl, .inl rfl⟩
  | complete engine uri position =>
      refine .inl ⟨rfl, ?_⟩
      have hstep : (session.step (.complete engine uri position)).result.1 =
          (session.complete engine uri position).result.1 := rfl
      rw [hstep]
      rcases session.complete_session_cases engine uri position with
        h | ⟨number, calls, h, rfl | rfl⟩
      · exact .inl (by rw [h])
      · exact .inl (by rw [h])
      · exact .inr ⟨number, position, by rw [h]⟩
  | settle engine generation retrieval answer =>
      rcases session.settle_cases engine generation retrieval answer with
        ⟨-, h⟩ | ⟨store, -, h⟩
      · exact .inl ⟨by simp only [step, h], .inl (by simp only [step, h])⟩
      · let settled := store.step (.settle retrieval answer)
        refine .inr ⟨session.setStore generation settled.result, engine, ?_, ?_⟩
        · exact setStore_calls _ _ _
        · simp only [step, h, settled]
  | cancel engine id =>
      rcases session.cancel_cases engine id with ⟨-, h⟩ | ⟨store, -, h⟩
      · exact .inl ⟨by simp only [step, h], .inl (by simp only [step, h])⟩
      · let cancelled := store.step (.cancel id.request)
        refine .inr ⟨session.setStore id.generation cancelled.result, engine, ?_, ?_⟩
        · exact setStore_calls _ _ _
        · simp only [step, h, cancelled]

/-- An event leaves the stores alone, begins a generation, or is an event of one store. -/
theorem step_storeOf?_cases (session : Session) (event : SessionEvent) :
    let next := (session.step event).result.1
    (∀ generation, next.storeOf? generation = session.storeOf? generation) ∨
    (∃ routing pulls, ∀ generation, next.storeOf? generation =
      if generation = session.retired.length + 1 then some (.fresh routing pulls)
      else session.storeOf? generation) ∨
    (∃ generation store storeEvent, session.storeOf? generation = some store ∧
      ∀ other, next.storeOf? other =
        if other = generation then some (store.step storeEvent).result
        else session.storeOf? other) := by
  intro next
  have hcurrent : ∀ storeEvent : StoreEvent,
      (∀ other, next.storeOf? other =
        { session with store := (session.store.step storeEvent).result }.storeOf? other) →
      ∃ generation store storeEvent, session.storeOf? generation = some store ∧
        ∀ other, next.storeOf? other =
          if other = generation then some (store.step storeEvent).result
          else session.storeOf? other := by
    intro storeEvent hnext
    refine ⟨_, _, storeEvent, session.storeOf?_current, ?_⟩
    intro other
    rw [hnext, ← setStore_current, storeOf?_setStore session.storeOf?_current]
  cases event with
  | introduce env client =>
      obtain ⟨noted, rfl, h | ⟨config, h⟩⟩ := session.introduce_cases env client
      · left
        intro generation
        simp only [next, h]
        rfl
      · refine .inr (.inl ⟨config.routing, client.capabilities.configuration, ?_⟩)
        intro generation
        simp only [next, h]
        exact storeOf?_configured _ config generation
  | ready | changeFolders | shutDown | openDocument => exact .inl fun _ => rfl
  | configure settings => exact .inr (.inr (hcurrent (.change settings) fun _ => rfl))
  | edit uri text =>
      obtain ⟨documents, h, -⟩ := session.edit_cases uri text
      left
      intro generation
      simp only [next, step, h]
      rfl
  | closeDocument uri => exact .inr (.inr (hcurrent (.close uri) fun _ => rfl))
  | complete engine uri position =>
      have hstep : next = (session.complete engine uri position).result.1 := rfl
      rcases session.complete_session_cases engine uri position with h | ⟨number, calls, h, -⟩
      · left
        intro generation
        rw [hstep, h]
      · refine .inr (.inr (hcurrent (.request uri) ?_))
        intro other
        rw [hstep, h]
        rfl
  | settle engine generation retrieval answer =>
      rcases session.settle_cases engine generation retrieval answer with
        ⟨-, h⟩ | ⟨store, hstore, h⟩
      · left
        simp only [next, step, h, implies_true]
      · refine .inr (.inr ⟨generation, store, .settle retrieval answer, hstore, ?_⟩)
        intro other
        simp only [next, step, h]
        exact storeOf?_setStore hstore _ other
  | cancel engine id =>
      rcases session.cancel_cases engine id with ⟨-, h⟩ | ⟨store, hstore, h⟩
      · left
        simp only [next, step, h, implies_true]
      · refine .inr (.inr ⟨id.generation, store, .cancel id.request, hstore, ?_⟩)
        intro other
        simp only [next, step, h]
        exact storeOf?_setStore hstore _ other

theorem later_store
    {session : Session} {generation : Nat} {store : Store}
    (hstore : session.storeOf? generation = some store) (event : SessionEvent) :
    ∃ next, (session.step event).result.1.storeOf? generation = some next ∧
      store.Later next := by
  rcases session.step_storeOf?_cases event with
    h | ⟨routing, pulls, h⟩ | ⟨other, found, storeEvent, hfound, h⟩
  · exact ⟨store, by rw [h, hstore], Store.Later.refl store⟩
  · have hlt := hstore
    rw [storeOf?_eq] at hlt
    replace hlt := (List.getElem?_eq_some_iff.mp hlt).1
    rw [stores_length] at hlt
    refine ⟨store, ?_, Store.Later.refl store⟩
    rw [h, if_neg (Nat.ne_of_lt hlt), hstore]
  · by_cases hgeneration : generation = other
    · subst other
      obtain rfl := Option.some.inj (hstore.symm.trans hfound)
      exact ⟨_, by rw [h, if_pos rfl], store.later_step storeEvent⟩
    · exact ⟨store, by rw [h, if_neg hgeneration, hstore], Store.Later.refl store⟩

end Session

end Shorthand
