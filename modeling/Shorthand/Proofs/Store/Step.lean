import Shorthand.Proofs.Store.Cache

/-!
# What the events of a settings store do

One lemma for each event says all that it changes.  From these come two facts about
every event, which the histories of whole runs rest on: no retrieval and no request
is ever taken back (`Store.Later`), and what is kept or waited for exists
(`Store.WellFormed`).
-/

namespace Shorthand

namespace Store

/-- A store after events in order, without what was reported on the way. -/
def after (store : Store) (events : List StoreEvent) : Store := (store.run events).result

@[simp] theorem after_nil (store : Store) : store.after [] = store := rfl

@[simp] theorem after_cons (store : Store) (event : StoreEvent) (rest : List StoreEvent) :
    store.after (event :: rest) = (store.step event).result.after rest := rfl

@[simp] theorem after_append (store : Store) (events more : List StoreEvent) :
    store.after (events ++ more) = (store.after events).after more := by
  induction events generalizing store with
  | nil => rfl
  | cons event rest ih =>
      simp only [List.cons_append, after_cons]
      exact ih (store.step event).result

/-! ## One event -/

/-- A request rests on the default, on the retrieval that is shared, or on one that
it begins. -/
theorem request_cases (store : Store) (uri : String) :
    (store.pulls = false ∧
      store.request uri = store.addRequest uri (.default store.default)) ∨
    (∃ number, store.pulls = true ∧ ¬ store.Lacks uri ∧ store.cached? uri = some number ∧
      store.request uri = store.addRequest uri (.retrieval number)) ∨
    (store.pulls = true ∧ store.Lacks uri ∧
      store.request uri =
        (store.retrieve uri).addRequest uri (.retrieval store.retrievals.length)) := by
  cases hpulls : store.pulls with
  | false => simp [request, hpulls]
  | true =>
      rw [← shared?_eq_none_iff]
      cases hshared : store.shared? uri with
      | none => simp [request, hpulls, hshared]
      | some number => simp [request, hpulls, hshared, cached?_of_shared? hshared]

theorem request_requests (store : Store) (uri : String) :
    ∃ basis, (store.request uri).requests = store.requests ++ [⟨uri, basis, false⟩] := by
  rcases store.request_cases uri with ⟨-, h⟩ | ⟨number, -, -, -, h⟩ | ⟨-, -, h⟩
  · exact ⟨.default store.default, by rw [h]; rfl⟩
  · exact ⟨.retrieval number, by rw [h]; rfl⟩
  · exact ⟨.retrieval store.retrievals.length, by rw [h]; rfl⟩

theorem cancel_cases (store : Store) (id : Nat) :
    (store.progress? id ≠ some .pending ∧ store.cancel id = store) ∨
    ∃ request, store.requests[id]? = some request ∧
      store.progressOf request = .pending ∧
      store.cancel id =
        { store with requests := store.requests.set id { request with isCancelled := true } } := by
  cases hrequest : store.requests[id]? with
  | none => simp [cancel, progress?, hrequest]
  | some request =>
      by_cases hpending : store.progressOf request = .pending
      · exact .inr ⟨request, rfl, hpending, by simp [cancel, hrequest, hpending]⟩
      · exact .inl ⟨by simp [progress?, hrequest, hpending],
          by simp [cancel, hrequest, hpending]⟩

/-- A retrieval is awaited exactly if it is there and has no outcome. -/
theorem awaited?_eq_some_iff (store : Store) (number : Nat) (uri : String) :
    store.awaited? number = some uri ↔ store.retrievals[number]? = some ⟨uri, none⟩ := by
  cases hretrieval : store.retrievals[number]? with
  | none => simp [awaited?, hretrieval]
  | some retrieval =>
      rcases retrieval with ⟨other, outcome⟩
      cases outcome <;> simp [awaited?, hretrieval, Option.filter]

/-- An answer ends a retrieval that waits, and does nothing else to one that does not. -/
theorem settle_cases (store : Store) (number : Nat) (answer : Answer) :
    (store.awaited? number = none ∧ store.settle number answer = ⟨store, []⟩) ∨
    ∃ uri, store.retrievals[number]? = some ⟨uri, none⟩ ∧
      (store.settle number answer).result =
        store.finish number uri (answer.outcome store.default uri).result := by
  cases hawaited : store.awaited? number with
  | none => exact .inl ⟨rfl, by simp [settle, hawaited]⟩
  | some uri =>
      exact .inr ⟨uri, (store.awaited?_eq_some_iff number uri).mp hawaited,
        by simp [settle, hawaited]⟩

/-- A change of the settings changes the default at most. -/
theorem change_cases (store : Store) (payload : Value) :
    ∃ default, (store.change payload).result = { store with default } := by
  unfold change
  split
  · exact ⟨_, rfl⟩
  · exact ⟨store.default, rfl⟩

/-! ## The end of a retrieval -/

@[simp] theorem finish_default (store : Store) (number : Nat) (uri : String) (outcome : Outcome) :
    (store.finish number uri outcome).default = store.default := by
  simp only [finish]
  split <;> rfl

@[simp] theorem finish_pulls (store : Store) (number : Nat) (uri : String) (outcome : Outcome) :
    (store.finish number uri outcome).pulls = store.pulls := by
  simp only [finish]
  split <;> rfl

@[simp] theorem finish_requests (store : Store) (number : Nat) (uri : String)
    (outcome : Outcome) :
    (store.finish number uri outcome).requests = store.requests := by
  simp only [finish]
  split <;> rfl

@[simp] theorem finish_retrievals (store : Store) (number : Nat) (uri : String)
    (outcome : Outcome) :
    (store.finish number uri outcome).retrievals =
      store.retrievals.set number ⟨uri, some outcome⟩ := rfl

/-- The end of a retrieval takes it from the cache if it fell back and is the one kept. -/
theorem finish_cache (store : Store) (number : Nat) (uri : String) (outcome : Outcome) :
    (store.finish number uri outcome).cache =
      if outcome.isFallback = true ∧ store.cached? uri = some number
      then (store.forget uri).cache
      else store.cache := by
  simp only [finish, Bool.and_eq_true, beq_iff_eq]
  split <;> rfl

theorem finish_cache_of_not_cached
    {store : Store} {number : Nat} {uri : String} (outcome : Outcome)
    (hother : store.cached? uri ≠ some number) :
    (store.finish number uri outcome).cache = store.cache := by
  simp [finish_cache, hother]

/-- Only a fallback leaves the cache, and only as the entry of its own document. -/
theorem cached?_finish (store : Store) (number : Nat) (uri other : String) (outcome : Outcome) :
    (store.finish number uri outcome).cached? other =
      if outcome.isFallback = true ∧ store.cached? uri = some number ∧ other = uri then none
      else store.cached? other := by
  have hcache := store.finish_cache number uri outcome
  by_cases hevicts : outcome.isFallback = true ∧ store.cached? uri = some number
  · rw [if_pos hevicts] at hcache
    rw [cached?_eq_of_cache_eq hcache]
    by_cases hother : other = uri
    · subst other
      simp [hevicts, cached?_forget_self]
    · simp [hother, cached?_forget_of_ne]
  · rw [if_neg hevicts] at hcache
    rw [cached?_eq_of_cache_eq hcache, if_neg]
    rintro ⟨hfallback, hnumber, -⟩
    exact hevicts ⟨hfallback, hnumber⟩

/-! ## What stays -/

theorem settle_default (store : Store) (number : Nat) (answer : Answer) :
    (store.settle number answer).result.default = store.default := by
  rcases store.settle_cases number answer with ⟨-, h⟩ | ⟨uri, -, h⟩
  · rw [h]
  · rw [h, finish_default]

theorem settle_pulls (store : Store) (number : Nat) (answer : Answer) :
    (store.settle number answer).result.pulls = store.pulls := by
  rcases store.settle_cases number answer with ⟨-, h⟩ | ⟨uri, -, h⟩
  · rw [h]
  · rw [h, finish_pulls]

theorem cancel_default (store : Store) (id : Nat) : (store.cancel id).default = store.default := by
  rcases store.cancel_cases id with ⟨-, h⟩ | ⟨request, -, -, h⟩
  · rw [h]
  · rw [h]

theorem cancel_pulls (store : Store) (id : Nat) : (store.cancel id).pulls = store.pulls := by
  rcases store.cancel_cases id with ⟨-, h⟩ | ⟨request, -, -, h⟩
  · rw [h]
  · rw [h]

theorem request_default (store : Store) (uri : String) :
    (store.request uri).default = store.default := by
  rcases store.request_cases uri with ⟨-, h⟩ | ⟨number, -, -, -, h⟩ | ⟨-, -, h⟩
  · rw [h]
    rfl
  · rw [h]
    rfl
  · rw [h]
    rfl

theorem request_pulls (store : Store) (uri : String) :
    (store.request uri).pulls = store.pulls := by
  rcases store.request_cases uri with ⟨-, h⟩ | ⟨number, -, -, -, h⟩ | ⟨-, -, h⟩
  · rw [h]
    rfl
  · rw [h]
    rfl
  · rw [h]
    rfl

theorem cached?_request_of_ne
    (store : Store) {uri other : String} (hne : other ≠ uri) :
    (store.request uri).cached? other = store.cached? other := by
  rcases store.request_cases uri with ⟨-, h⟩ | ⟨number, -, -, -, h⟩ | ⟨-, -, h⟩
  · rw [h]
    rfl
  · rw [h]
    rfl
  · rw [h]
    exact store.cached?_retrieve_of_ne hne

theorem cached?_cancel (store : Store) (id : Nat) (uri : String) :
    (store.cancel id).cached? uri = store.cached? uri := by
  rcases store.cancel_cases id with ⟨-, h⟩ | ⟨request, -, -, h⟩
  · rw [h]
  · rw [h]
    rfl

/-- An answer touches the entry of the document whose retrieval it ends, and no other. -/
theorem cached?_settle_of_ne
    (store : Store) {number : Nat} {uri other : String} {outcome : Option Outcome}
    (answer : Answer) (hretrieval : store.retrievals[number]? = some ⟨uri, outcome⟩)
    (hne : other ≠ uri) :
    (store.settle number answer).result.cached? other = store.cached? other := by
  rcases store.settle_cases number answer with ⟨-, h⟩ | ⟨waiting, hwaits, h⟩
  · rw [h]
  · obtain ⟨rfl, -⟩ : waiting = uri ∧ none = outcome := by
      simpa using hwaits.symm.trans hretrieval
    rw [h, cached?_finish, if_neg]
    rintro ⟨-, -, hsame⟩
    exact hne hsame

/-! ## Any event -/

/-- An event begins a retrieval at most, or ends one. -/
theorem step_retrievals_cases (store : Store) (event : StoreEvent) :
    (store.step event).result.retrievals = store.retrievals ∨
    (∃ uri, event = .request uri ∧ store.pulls = true ∧ store.Lacks uri ∧
      (store.step event).result.retrievals = store.retrievals ++ [⟨uri, none⟩]) ∨
    (∃ number answer uri, event = .settle number answer ∧
      store.retrievals[number]? = some ⟨uri, none⟩ ∧
      (store.step event).result.retrievals =
        store.retrievals.set number ⟨uri, some (answer.outcome store.default uri).result⟩) := by
  cases event with
  | request uri =>
      rcases store.request_cases uri with ⟨-, h⟩ | ⟨number, -, -, -, h⟩ | ⟨hpulls, hlacks, h⟩
      · exact .inl (by rw [step, h]; rfl)
      · exact .inl (by rw [step, h]; rfl)
      · exact .inr (.inl ⟨uri, rfl, hpulls, hlacks, by rw [step, h]; rfl⟩)
  | cancel id =>
      rcases store.cancel_cases id with ⟨-, h⟩ | ⟨request, -, -, h⟩
      · exact .inl (by rw [step, h])
      · exact .inl (by rw [step, h])
  | settle number answer =>
      rcases store.settle_cases number answer with ⟨-, h⟩ | ⟨uri, hwaits, h⟩
      · exact .inl (by rw [step, h])
      · exact .inr (.inr ⟨number, answer, uri, rfl, hwaits, by rw [step, h, finish_retrievals]⟩)
  | change payload =>
      obtain ⟨default, h⟩ := store.change_cases payload
      exact .inl (by rw [step, h])
  | close uri => exact .inl rfl
  | enablePull => exact .inl rfl

/-- An event adds a request at most, or cancels one that waits. -/
theorem step_requests_cases (store : Store) (event : StoreEvent) :
    (store.step event).result.requests = store.requests ∨
    (∃ uri basis, event = .request uri ∧
      (store.step event).result.requests = store.requests ++ [⟨uri, basis, false⟩]) ∨
    (∃ id request, event = .cancel id ∧ store.requests[id]? = some request ∧
      store.progressOf request = .pending ∧
      (store.step event).result.requests =
        store.requests.set id { request with isCancelled := true }) := by
  cases event with
  | request uri =>
      obtain ⟨basis, h⟩ := store.request_requests uri
      exact .inr (.inl ⟨uri, basis, rfl, h⟩)
  | cancel id =>
      rcases store.cancel_cases id with ⟨-, h⟩ | ⟨request, hrequest, hpending, h⟩
      · exact .inl (by rw [step, h])
      · exact .inr (.inr ⟨id, request, rfl, hrequest, hpending, by rw [step, h]⟩)
  | settle number answer =>
      rcases store.settle_cases number answer with ⟨-, h⟩ | ⟨uri, -, h⟩
      · exact .inl (by rw [step, h])
      · exact .inl (by rw [step, h, finish_requests])
  | change payload =>
      obtain ⟨default, h⟩ := store.change_cases payload
      exact .inl (by rw [step, h])
  | close uri => exact .inl rfl
  | enablePull => exact .inl rfl

/-- An event leaves the entry of a document alone, unless it begins a retrieval for the
document, closes it, or ends the retrieval kept for it with a fallback. -/
theorem step_cached?_cases (store : Store) (event : StoreEvent) (uri : String) :
    (store.step event).result.cached? uri = store.cached? uri ∨
    (event = .request uri ∧ store.pulls = true ∧ store.Lacks uri ∧
      (store.step event).result.cached? uri = some store.retrievals.length) ∨
    (event = .close uri ∧ (store.step event).result.cached? uri = none) ∨
    (∃ number answer, event = .settle number answer ∧ store.cached? uri = some number ∧
      store.retrievals[number]? = some ⟨uri, none⟩ ∧
      (answer.outcome store.default uri).result.isFallback = true ∧
      (store.step event).result.cached? uri = none) := by
  cases event with
  | request other =>
      rcases store.request_cases other with ⟨-, h⟩ | ⟨number, -, -, -, h⟩ | ⟨hpulls, hlacks, h⟩
      · exact .inl (by rw [step, h]; rfl)
      · exact .inl (by rw [step, h]; rfl)
      · have hcached : (store.step (.request other)).result.cached? uri =
            (store.retrieve other).cached? uri := by
          rw [step, h]
          rfl
        by_cases hother : uri = other
        · subst other
          exact .inr (.inl ⟨rfl, hpulls, hlacks, by rw [hcached, cached?_retrieve_self]⟩)
        · exact .inl (by rw [hcached, cached?_retrieve_of_ne store hother])
  | cancel id =>
      rcases store.cancel_cases id with ⟨-, h⟩ | ⟨request, -, -, h⟩
      · exact .inl (by rw [step, h])
      · exact .inl (by rw [step, h]; rfl)
  | settle number answer =>
      rcases store.settle_cases number answer with ⟨-, h⟩ | ⟨other, hwaits, h⟩
      · exact .inl (by rw [step, h])
      · have hcached := store.cached?_finish number other uri
          (answer.outcome store.default other).result
        rw [← h] at hcached
        split at hcached
        · next hevicted =>
          obtain ⟨hfallback, hnumber, rfl⟩ := hevicted
          exact .inr (.inr (.inr ⟨number, answer, rfl, hnumber, hwaits, hfallback, hcached⟩))
        · exact .inl hcached
  | change payload =>
      obtain ⟨default, h⟩ := store.change_cases payload
      exact .inl (by rw [step, h]; rfl)
  | close other =>
      by_cases hother : uri = other
      · subst other
        exact .inr (.inr (.inl ⟨rfl, store.cached?_forget_self uri⟩))
      · exact .inl (store.cached?_forget_of_ne hother)
  | enablePull => exact .inl rfl

theorem step_pulls {store : Store} (hpulls : store.pulls = true) (event : StoreEvent) :
    (store.step event).result.pulls = true := by
  cases event with
  | request uri => rw [step, request_pulls, hpulls]
  | cancel id => rw [step, cancel_pulls, hpulls]
  | settle number answer => rw [step, settle_pulls, hpulls]
  | change payload =>
      obtain ⟨default, h⟩ := store.change_cases payload
      rw [step, h, hpulls]
  | close uri => exact hpulls
  | enablePull => rfl

theorem after_pulls {store : Store} (hpulls : store.pulls = true) (events : List StoreEvent) :
    (store.after events).pulls = true := by
  induction events generalizing store with
  | nil => exact hpulls
  | cons event rest ih => exact ih (step_pulls hpulls event)

end Store

end Shorthand
