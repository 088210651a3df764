import Shorthand.Proofs.Store.Step

/-!
# Histories of a settings store

Nothing that has happened in a store is taken back: retrievals and requests keep
their numbers, a retrieval keeps its outcome, and a request keeps what it rests on.
What is kept for a document is always a retrieval of that document which has not
fallen back, and a request rests on a retrieval of its own document.
-/

namespace Shorthand

namespace Store

/-- A store that another one may become. -/
structure Later (store later : Store) : Prop where
  retrieval : ∀ {number : Nat} {retrieval : Retrieval},
    store.retrievals[number]? = some retrieval →
      ∃ outcome, later.retrievals[number]? = some ⟨retrieval.uri, outcome⟩ ∧
        (retrieval.outcome ≠ none → outcome = retrieval.outcome)
  request : ∀ {id : Nat} {request : Request},
    store.requests[id]? = some request →
      ∃ isCancelled, later.requests[id]? = some ⟨request.uri, request.basis, isCancelled⟩ ∧
        (request.isCancelled = true → isCancelled = true)

theorem Later.refl (store : Store) : store.Later store where
  retrieval := fun {_ retrieval} hretrieval => ⟨retrieval.outcome, hretrieval, fun _ => rfl⟩
  request := fun {_ request} hrequest => ⟨request.isCancelled, hrequest, id⟩

theorem Later.trans
    {first second third : Store} (hfirst : first.Later second) (hsecond : second.Later third) :
    first.Later third where
  retrieval := by
    intro number retrieval hretrieval
    obtain ⟨outcome, hmiddle, hkept⟩ := hfirst.retrieval hretrieval
    obtain ⟨last, hlast, hkeptAgain⟩ := hsecond.retrieval hmiddle
    refine ⟨last, hlast, ?_⟩
    intro hended
    rw [hkeptAgain (by rwa [hkept hended]), hkept hended]
  request := by
    intro id request hrequest
    obtain ⟨isCancelled, hmiddle, hkept⟩ := hfirst.request hrequest
    obtain ⟨last, hlast, hkeptAgain⟩ := hsecond.request hmiddle
    exact ⟨last, hlast, fun hcancelled => hkeptAgain (hkept hcancelled)⟩

theorem Later.retrievals_length_le {store later : Store} (hlater : store.Later later) :
    store.retrievals.length ≤ later.retrievals.length := by
  apply Nat.le_of_not_lt
  intro hlt
  obtain ⟨outcome, hretrieval, -⟩ := hlater.retrieval (List.getElem?_eq_getElem hlt)
  simp at hretrieval

theorem Later.requests_length_le {store later : Store} (hlater : store.Later later) :
    store.requests.length ≤ later.requests.length := by
  apply Nat.le_of_not_lt
  intro hlt
  obtain ⟨isCancelled, hrequest, -⟩ := hlater.request (List.getElem?_eq_getElem hlt)
  simp at hrequest

/-! ## Each event leads to a later store -/

theorem getElem?_append_of_eq_some
    {α : Type} {items more : List α} {index : Nat} {item : α}
    (hitem : items[index]? = some item) : (items ++ more)[index]? = some item := by
  have hlt := (List.getElem?_eq_some_iff.mp hitem).1
  rwa [List.getElem?_append_left hlt]

theorem later_step (store : Store) (event : StoreEvent) :
    store.Later (store.step event).result where
  retrieval := by
    intro number retrieval hretrieval
    rcases store.step_retrievals_cases event with
      h | ⟨uri, -, -, -, h⟩ | ⟨ended, answer, uri, -, hwaits, h⟩
    · exact ⟨retrieval.outcome, by rw [h, hretrieval], fun _ => rfl⟩
    · refine ⟨retrieval.outcome, ?_, fun _ => rfl⟩
      rw [h]
      exact getElem?_append_of_eq_some hretrieval
    · by_cases hnumber : ended = number
      · subst ended
        obtain rfl := Option.some.inj (hwaits.symm.trans hretrieval)
        have hlt := (List.getElem?_eq_some_iff.mp hwaits).1
        refine ⟨some (answer.outcome store.default uri).result, ?_, fun hended => absurd rfl hended⟩
        rw [h, List.getElem?_set_self hlt]
      · refine ⟨retrieval.outcome, ?_, fun _ => rfl⟩
        rw [h, List.getElem?_set_ne hnumber, hretrieval]
  request := by
    intro id request hrequest
    rcases store.step_requests_cases event with
      h | ⟨uri, basis, -, h⟩ | ⟨cancelled, marked, -, hmarked, -, h⟩
    · exact ⟨request.isCancelled, by rw [h, hrequest], fun hcancelled => hcancelled⟩
    · refine ⟨request.isCancelled, ?_, fun hcancelled => hcancelled⟩
      rw [h]
      exact getElem?_append_of_eq_some hrequest
    · by_cases hid : cancelled = id
      · subst cancelled
        obtain rfl := Option.some.inj (hmarked.symm.trans hrequest)
        have hlt := (List.getElem?_eq_some_iff.mp hmarked).1
        refine ⟨true, ?_, fun _ => rfl⟩
        rw [h, List.getElem?_set_self hlt]
      · refine ⟨request.isCancelled, ?_, fun hcancelled => hcancelled⟩
        rw [h, List.getElem?_set_ne hid, hrequest]

theorem later_after (store : Store) (events : List StoreEvent) :
    store.Later (store.after events) := by
  induction events generalizing store with
  | nil => exact Later.refl store
  | cons event rest ih => exact (store.later_step event).trans (ih _)

/-! ## What is kept and what is waited for -/

/-- What is kept for a document is a retrieval of it that has not fallen back, and
what a request rests on is a retrieval of its document; only such a request can be
cancelled. -/
structure WellFormed (store : Store) : Prop where
  cached : ∀ {uri : String} {number : Nat}, store.cached? uri = some number →
    ∃ outcome, store.retrievals[number]? = some ⟨uri, outcome⟩ ∧
      ∀ routing, outcome ≠ some (.fallback routing)
  basis : ∀ {id : Nat} {request : Request} {number : Nat},
    store.requests[id]? = some request → request.basis = .retrieval number →
      ∃ outcome, store.retrievals[number]? = some ⟨request.uri, outcome⟩
  cancelled : ∀ {id : Nat} {request : Request},
    store.requests[id]? = some request → request.isCancelled = true →
      ∃ number, request.basis = .retrieval number

theorem wellFormed_fresh (default : Routing) (pulls : Bool) :
    (fresh default pulls).WellFormed := by
  constructor <;> simp [fresh, cached?]

theorem WellFormed.addRequest
    {store : Store} (hstore : store.WellFormed) {uri : String} {basis : Basis}
    (hbasis : ∀ {number}, basis = .retrieval number →
      ∃ outcome, store.retrievals[number]? = some ⟨uri, outcome⟩) :
    (store.addRequest uri basis).WellFormed where
  cached := hstore.cached
  basis := by
    intro id request number hrequest hrests
    simp only [Store.addRequest, List.getElem?_append, List.getElem?_singleton] at hrequest
    split at hrequest
    · exact hstore.basis hrequest hrests
    · split at hrequest
      · cases hrequest
        exact hbasis hrests
      · cases hrequest
  cancelled := by
    intro id request hrequest hcancelled
    simp only [Store.addRequest, List.getElem?_append, List.getElem?_singleton] at hrequest
    split at hrequest
    · exact hstore.cancelled hrequest hcancelled
    · split at hrequest
      · cases hrequest
        cases hcancelled
      · cases hrequest

theorem WellFormed.retrieve
    {store : Store} (hstore : store.WellFormed) {uri : String} :
    (store.retrieve uri).WellFormed where
  cached := by
    intro other number hcached
    by_cases hother : other = uri
    · subst other
      rw [cached?_retrieve_self] at hcached
      cases hcached
      exact ⟨none, by simp [Store.retrieve], by simp⟩
    · rw [cached?_retrieve_of_ne store hother] at hcached
      obtain ⟨outcome, hretrieval, hkept⟩ := hstore.cached hcached
      exact ⟨outcome, getElem?_append_of_eq_some hretrieval, hkept⟩
  basis := by
    intro id request number hrequest hrests
    obtain ⟨outcome, hretrieval⟩ := hstore.basis hrequest hrests
    exact ⟨outcome, getElem?_append_of_eq_some hretrieval⟩
  cancelled := hstore.cancelled

theorem WellFormed.request
    {store : Store} (hstore : store.WellFormed) (uri : String) :
    (store.request uri).WellFormed := by
  rcases store.request_cases uri with ⟨-, h⟩ | ⟨number, -, -, hcached, h⟩ | ⟨-, -, h⟩
  · rw [h]
    exact hstore.addRequest (by simp)
  · rw [h]
    apply hstore.addRequest
    rintro _ ⟨rfl⟩
    obtain ⟨outcome, hretrieval, -⟩ := hstore.cached hcached
    exact ⟨outcome, hretrieval⟩
  · rw [h]
    apply hstore.retrieve.addRequest
    rintro _ ⟨rfl⟩
    exact ⟨none, by simp [Store.retrieve]⟩

/-- Only what rests on a retrieval can wait, so only that is ever cancelled. -/
theorem exists_basis_of_pending
    {store : Store} {request : Request} (hpending : store.progressOf request = .pending) :
    ∃ number, request.basis = .retrieval number := by
  rcases request with ⟨uri, basis, isCancelled⟩
  cases basis with
  | default routing => cases isCancelled <;> simp [progressOf] at hpending
  | retrieval number => exact ⟨number, rfl⟩

theorem WellFormed.cancel
    {store : Store} (hstore : store.WellFormed) (id : Nat) :
    (store.cancel id).WellFormed := by
  rcases store.cancel_cases id with ⟨-, h⟩ | ⟨request, hrequest, hpending, h⟩
  · rw [h]
    exact hstore
  · have hlt := (List.getElem?_eq_some_iff.mp hrequest).1
    rw [h]
    refine ⟨hstore.cached, ?_, ?_⟩
    · intro other otherRequest number hother hrests
      by_cases hid : id = other
      · subst other
        simp only [List.getElem?_set_self hlt, Option.some.injEq] at hother
        subst otherRequest
        obtain ⟨outcome, hretrieval⟩ := hstore.basis hrequest hrests
        exact ⟨outcome, hretrieval⟩
      · simp only [List.getElem?_set_ne hid] at hother
        exact hstore.basis hother hrests
    · intro other otherRequest hother hcancelled
      by_cases hid : id = other
      · subst other
        simp only [List.getElem?_set_self hlt, Option.some.injEq] at hother
        subst otherRequest
        obtain ⟨number, hrested⟩ := exists_basis_of_pending hpending
        exact ⟨number, hrested⟩
      · simp only [List.getElem?_set_ne hid] at hother
        exact hstore.cancelled hother hcancelled

/-- The end of a retrieval keeps the invariant, since a fallback is not kept. -/
theorem WellFormed.settle
    {store : Store} (hstore : store.WellFormed) (number : Nat) (answer : Answer) :
    (store.settle number answer).result.WellFormed := by
  have hlater : store.Later (store.settle number answer).result :=
    store.later_step (.settle number answer)
  rcases store.settle_cases number answer with ⟨-, h⟩ | ⟨uri, hwaits, h⟩
  · rw [h]
    exact hstore
  · rw [h] at hlater ⊢
    refine ⟨?_, ?_, ?_⟩
    · intro other kept hcached
      rw [cached?_finish] at hcached
      split at hcached
      · cases hcached
      · next hstays =>
        obtain ⟨outcome, hretrieval, hkept⟩ := hstore.cached hcached
        by_cases hnumber : number = kept
        · subst kept
          obtain ⟨rfl, rfl⟩ : uri = other ∧ none = outcome := by
            simpa using hwaits.symm.trans hretrieval
          have hlt := (List.getElem?_eq_some_iff.mp hwaits).1
          refine ⟨_, List.getElem?_set_self hlt, ?_⟩
          intro routing hfallback
          rw [Option.some.inj hfallback] at hstays
          exact hstays ⟨rfl, hcached, rfl⟩
        · refine ⟨outcome, ?_, hkept⟩
          rw [finish_retrievals, List.getElem?_set_ne hnumber, hretrieval]
    · intro id request resting hrequest hrests
      rw [finish_requests] at hrequest
      obtain ⟨old, hretrieval⟩ := hstore.basis hrequest hrests
      obtain ⟨last, hlast, -⟩ := hlater.retrieval hretrieval
      exact ⟨last, hlast⟩
    · intro id request hrequest hcancelled
      rw [finish_requests] at hrequest
      exact hstore.cancelled hrequest hcancelled

theorem WellFormed.forget
    {store : Store} (hstore : store.WellFormed) (uri : String) :
    (store.forget uri).WellFormed where
  cached := by
    intro other number hcached
    by_cases hother : other = uri
    · subst other
      rw [cached?_forget_self] at hcached
      cases hcached
    · rw [cached?_forget_of_ne store hother] at hcached
      exact hstore.cached hcached
  basis := hstore.basis
  cancelled := hstore.cancelled

theorem WellFormed.step
    {store : Store} (hstore : store.WellFormed) (event : StoreEvent) :
    (store.step event).result.WellFormed := by
  cases event with
  | request uri => exact hstore.request uri
  | cancel id => exact hstore.cancel id
  | settle number answer => exact hstore.settle number answer
  | change payload =>
      obtain ⟨default, h⟩ := store.change_cases payload
      simp only [Store.step, h]
      exact ⟨hstore.cached, hstore.basis, hstore.cancelled⟩
  | close uri => exact hstore.forget uri
  | enablePull => exact ⟨hstore.cached, hstore.basis, hstore.cancelled⟩

theorem WellFormed.after
    {store : Store} (hstore : store.WellFormed) (events : List StoreEvent) :
    (store.after events).WellFormed := by
  induction events generalizing store with
  | nil => exact hstore
  | cons event rest ih => exact ih (hstore.step event)

theorem wellFormed_after_fresh
    (default : Routing) (pulls : Bool) (events : List StoreEvent) :
    ((fresh default pulls).after events).WellFormed :=
  (wellFormed_fresh default pulls).after events

end Store

end Shorthand
