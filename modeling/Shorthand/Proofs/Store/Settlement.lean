import Shorthand.Proofs.Store.History

/-!
# Requests end with their retrieval

A request for the routing of a document ends with the retrieval that it was bound to
when it was issued, and with nothing else: what the client answers is read under the
default of the moment at which the retrieval ends, whatever the store did before and
whatever it does afterwards.
-/

namespace Shorthand

/-- Whether settings can be read from a payload. -/
def Value.isSettings : Value → Bool
  | .null | .object _ => true
  | _ => false

theorem Routing.ofSettings_ok_iff (sectionName : String) (fallback : Routing) (payload : Value) :
    (∃ routing, Routing.ofSettings sectionName fallback payload = .ok routing) ↔
      payload.isSettings = true := by
  cases payload <;> simp [Routing.ofSettings, Value.isSettings]

/-- How an answer ends the requests that wait for it, under the default of that moment. -/
inductive Answer.Ends (default : Routing) : Answer → Progress → Prop
  | accepted {payload : Value} {routing : Routing} :
      payload.isSettings = true →
      Routing.ofSettings settingsSection default payload = .ok routing →
      Ends default (.settings payload) (.served routing)
  | refused {payload : Value} :
      payload.isSettings = false → Ends default (.settings payload) (.served default)
  | failed {message : List Char} : Ends default (.failure message) (.served default)
  | cancelled : Ends default .cancellation .cancelled

/-- The outcome of a retrieval is the end that its answer calls for. -/
theorem Answer.ends_outcome (default : Routing) (uri : String) (answer : Answer) :
    answer.Ends default (Retrieval.progress ⟨uri, some (answer.outcome default uri).result⟩) := by
  cases answer with
  | settings payload =>
      cases hpayload : Routing.ofSettings settingsSection default payload with
      | ok routing =>
          have hsettings := (Routing.ofSettings_ok_iff _ _ _).mp ⟨routing, hpayload⟩
          simpa [Answer.outcome, hpayload, Retrieval.progress] using
            Ends.accepted hsettings hpayload
      | error error =>
          have hsettings : payload.isSettings = false := by
            rw [← Bool.not_eq_true, ← Routing.ofSettings_ok_iff settingsSection default]
            rintro ⟨routing, hrouting⟩
            rw [hpayload] at hrouting
            cases hrouting
          simpa [Answer.outcome, hpayload, Retrieval.progress] using Ends.refused hsettings
  | failure message => exact Ends.failed
  | cancellation => exact Ends.cancelled

namespace Store

/-! ## The settlement of a retrieval -/

/-- In a run of a store a retrieval that waits is answered under a default. -/
def Settles (store : Store) (events : List StoreEvent) (number : Nat) (answer : Answer)
    (default : Routing) : Prop :=
  ∃ before rest, events = before ++ .settle number answer :: rest ∧
    (∃ uri, (store.after before).awaited? number = some uri) ∧
    (store.after before).default = default

theorem Settles.append_left
    {store : Store} {before events : List StoreEvent} {number : Nat} {answer : Answer}
    {default : Routing} (hsettles : (store.after before).Settles events number answer default) :
    store.Settles (before ++ events) number answer default := by
  obtain ⟨middle, rest, rfl, hawaited, hdefault⟩ := hsettles
  refine ⟨before ++ middle, rest, by rw [List.append_assoc], ?_, ?_⟩
  · simpa only [after_append] using hawaited
  · simpa only [after_append] using hdefault

theorem Settles.cons
    {store : Store} {event : StoreEvent} {events : List StoreEvent} {number : Nat}
    {answer : Answer} {default : Routing}
    (hsettles : (store.step event).result.Settles events number answer default) :
    store.Settles (event :: events) number answer default := by
  have hrun : (store.after [event]).Settles events number answer default := hsettles
  exact hrun.append_left

theorem step_settle_retrieval
    {store : Store} {number : Nat} {uri : String} (answer : Answer)
    (hawaited : store.awaited? number = some uri) :
    (store.step (.settle number answer)).result.retrievals[number]? =
      some ⟨uri, some (answer.outcome store.default uri).result⟩ := by
  rcases store.settle_cases number answer with ⟨hnone, -⟩ | ⟨other, hwaits, h⟩
  · rw [hawaited] at hnone
    cases hnone
  · rw [awaited?_eq_some_iff] at hawaited
    obtain rfl : uri = other := by simpa using hawaited.symm.trans hwaits
    have hlt := (List.getElem?_eq_some_iff.mp hwaits).1
    rw [step, h, finish_retrievals]
    exact List.getElem?_set_self hlt

/-- A retrieval that was answered has the outcome of that answer for good. -/
theorem Settles.outcome
    {store : Store} {events : List StoreEvent} {number : Nat} {answer : Answer}
    {default : Routing} (hsettles : store.Settles events number answer default) :
    ∃ uri, (store.after events).retrievals[number]? =
      some ⟨uri, some (answer.outcome default uri).result⟩ := by
  obtain ⟨before, rest, rfl, ⟨uri, hawaited⟩, rfl⟩ := hsettles
  have hended := step_settle_retrieval answer hawaited
  obtain ⟨last, hlast, hkept⟩ := (later_after _ rest).retrieval hended
  refine ⟨uri, ?_⟩
  rw [after_append, after_cons, hlast, hkept (by simp)]

/-- Only an answer ends a retrieval. -/
theorem settle_of_outcome_step
    {store : Store} {event : StoreEvent} {number : Nat} {uri : String} {outcome : Outcome}
    (hopen : ∀ retrieval, store.retrievals[number]? = some retrieval →
      retrieval.outcome = none)
    (hended : (store.step event).result.retrievals[number]? = some ⟨uri, some outcome⟩) :
    ∃ answer, event = .settle number answer ∧ store.awaited? number = some uri := by
  have hsame : store.retrievals[number]? ≠ some ⟨uri, some outcome⟩ := by
    intro hretrieval
    exact absurd (hopen _ hretrieval) (by simp)
  rcases store.step_retrievals_cases event with
    h | ⟨other, -, -, -, h⟩ | ⟨other, answer, waiting, rfl, hwaits, h⟩
  · rw [h] at hended
    exact absurd hended hsame
  · rw [h, List.getElem?_append, List.getElem?_singleton] at hended
    split at hended
    · exact absurd hended hsame
    · split at hended <;> simp at hended
  · rw [h] at hended
    by_cases hother : other = number
    · subst other
      have hlt := (List.getElem?_eq_some_iff.mp hwaits).1
      rw [List.getElem?_set_self hlt] at hended
      obtain ⟨rfl, -⟩ : waiting = uri ∧ _ := by simpa using hended
      exact ⟨answer, rfl, (awaited?_eq_some_iff _ _ _).mpr hwaits⟩
    · rw [List.getElem?_set_ne hother] at hended
      exact absurd hended hsame

/-- A retrieval that ends in a run is answered in it. -/
theorem exists_settles
    {store : Store} {events : List StoreEvent} {number : Nat} {uri : String} {outcome : Outcome}
    (hopen : ∀ retrieval, store.retrievals[number]? = some retrieval →
      retrieval.outcome = none)
    (hended : (store.after events).retrievals[number]? = some ⟨uri, some outcome⟩) :
    ∃ answer default, store.Settles events number answer default := by
  induction events generalizing store with
  | nil => exact absurd (hopen _ hended) (by simp)
  | cons event rest ih =>
      by_cases hnext : ∃ uri outcome,
          (store.step event).result.retrievals[number]? = some ⟨uri, some outcome⟩
      · obtain ⟨other, first, hfirst⟩ := hnext
        obtain ⟨answer, rfl, hawaited⟩ := settle_of_outcome_step hopen hfirst
        exact ⟨answer, store.default, [], rest, rfl, ⟨other, hawaited⟩, rfl⟩
      · have hopenNext : ∀ retrieval,
            (store.step event).result.retrievals[number]? = some retrieval →
              retrieval.outcome = none := by
          rintro ⟨other, _ | first⟩ hretrieval
          · rfl
          · exact absurd ⟨other, first, hretrieval⟩ hnext
        obtain ⟨answer, default, hsettles⟩ := ih hopenNext hended
        exact ⟨answer, default, Settles.cons hsettles⟩

/-! ## The cancellation of a request -/

/-- In a run of a store a request is cancelled while it waits. -/
def Cancels (store : Store) (events : List StoreEvent) (id : Nat) : Prop :=
  ∃ before rest, events = before ++ .cancel id :: rest ∧
    (store.after before).progress? id = some .pending

theorem Cancels.cons
    {store : Store} {event : StoreEvent} {events : List StoreEvent} {id : Nat}
    (hcancels : (store.step event).result.Cancels events id) :
    store.Cancels (event :: events) id := by
  obtain ⟨before, rest, rfl, hpending⟩ := hcancels
  exact ⟨event :: before, rest, rfl, hpending⟩

theorem Cancels.isCancelled
    {store : Store} {events : List StoreEvent} {id : Nat} (hcancels : store.Cancels events id) :
    ∃ request, (store.after events).requests[id]? = some request ∧
      request.isCancelled = true := by
  obtain ⟨before, rest, rfl, hpending⟩ := hcancels
  rcases (store.after before).cancel_cases id with ⟨hother, -⟩ | ⟨request, hrequest, -, h⟩
  · exact absurd hpending hother
  · have hlt := (List.getElem?_eq_some_iff.mp hrequest).1
    have hmarked :
        ((store.after before).cancel id).requests[id]? =
          some { request with isCancelled := true } := by
      rw [h]
      exact List.getElem?_set_self hlt
    obtain ⟨isCancelled, hlast, hkept⟩ :=
      (later_after ((store.after before).cancel id) rest).request hmarked
    refine ⟨⟨request.uri, request.basis, isCancelled⟩, ?_, hkept rfl⟩
    rw [after_append]
    exact hlast

/-- Only a cancellation marks a request. -/
theorem cancel_of_isCancelled_step
    {store : Store} {event : StoreEvent} {id : Nat} {request : Request}
    (hopen : ∀ request, store.requests[id]? = some request → request.isCancelled = false)
    (hrequest : (store.step event).result.requests[id]? = some request)
    (hcancelled : request.isCancelled = true) :
    event = .cancel id ∧ store.progress? id = some .pending := by
  have hfresh : store.requests[id]? ≠ some request := by
    intro hold
    rw [hopen request hold] at hcancelled
    cases hcancelled
  rcases store.step_requests_cases event with
    h | ⟨uri, basis, -, h⟩ | ⟨other, marked, rfl, hmarked, hpending, h⟩
  · rw [h] at hrequest
    exact absurd hrequest hfresh
  · rw [h, List.getElem?_append, List.getElem?_singleton] at hrequest
    split at hrequest
    · exact absurd hrequest hfresh
    · split at hrequest
      · cases hrequest
        cases hcancelled
      · cases hrequest
  · by_cases hother : other = id
    · subst other
      exact ⟨rfl, by simp [progress?, hmarked, hpending]⟩
    · rw [h, List.getElem?_set_ne hother] at hrequest
      exact absurd hrequest hfresh

/-- A request that is marked in a run is cancelled in it. -/
theorem cancels_of_isCancelled
    {store : Store} {events : List StoreEvent} {id : Nat} {request : Request}
    (hopen : ∀ request, store.requests[id]? = some request → request.isCancelled = false)
    (hrequest : (store.after events).requests[id]? = some request)
    (hcancelled : request.isCancelled = true) :
    store.Cancels events id := by
  induction events generalizing store with
  | nil =>
      rw [hopen request hrequest] at hcancelled
      cases hcancelled
  | cons event rest ih =>
      by_cases hnext : ∃ marked, (store.step event).result.requests[id]? = some marked ∧
          marked.isCancelled = true
      · obtain ⟨marked, hmarked, hfirst⟩ := hnext
        obtain ⟨rfl, hpending⟩ := cancel_of_isCancelled_step hopen hmarked hfirst
        exact ⟨[], rest, rfl, hpending⟩
      · apply Cancels.cons
        apply ih _ hrequest
        intro other hother
        rw [← Bool.not_eq_true]
        intro hmarked
        exact hnext ⟨other, hother, hmarked⟩

/-! ## Where a request stands -/

/-- In a run from the start a request is marked exactly if it was cancelled. -/
theorem isCancelled_iff_cancels
    {default : Routing} {pulls : Bool} {events : List StoreEvent} {id : Nat} {request : Request}
    (hrequest : ((fresh default pulls).after events).requests[id]? = some request) :
    request.isCancelled = true ↔ (fresh default pulls).Cancels events id := by
  constructor
  · intro hcancelled
    apply cancels_of_isCancelled _ hrequest hcancelled
    simp [fresh]
  · intro hcancels
    obtain ⟨other, hother, hcancelled⟩ := hcancels.isCancelled
    rw [hrequest] at hother
    rwa [Option.some.inj hother]

theorem progress?_of_cancels
    {store : Store} {events : List StoreEvent} {id : Nat} (hcancels : store.Cancels events id) :
    (store.after events).progress? id = some .cancelled := by
  obtain ⟨request, hrequest, hcancelled⟩ := hcancels.isCancelled
  simp [progress?, progressOf, hrequest, hcancelled]

theorem progress?_of_not_cancels
    {default : Routing} {pulls : Bool} {events : List StoreEvent} {id number : Nat}
    {request : Request}
    (hrequest : ((fresh default pulls).after events).requests[id]? = some request)
    (hrests : request.basis = .retrieval number)
    (hcancels : ¬ (fresh default pulls).Cancels events id) :
    ∃ retrieval, ((fresh default pulls).after events).retrievals[number]? = some retrieval ∧
      retrieval.uri = request.uri ∧
      ((fresh default pulls).after events).progress? id = some retrieval.progress := by
  obtain ⟨outcome, hretrieval⟩ :=
    (wellFormed_after_fresh default pulls events).basis hrequest hrests
  have hmarked : request.isCancelled = false := by
    rw [← Bool.not_eq_true, isCancelled_iff_cancels hrequest]
    exact hcancels
  refine ⟨⟨request.uri, outcome⟩, hretrieval, rfl, ?_⟩
  simp [progress?, progressOf, hrequest, hmarked, hrests, hretrieval]

/-- A retrieval stands as the answer that it got, under the default of that moment. -/
theorem ends_of_settles
    {store : Store} {events : List StoreEvent} {number : Nat} {retrieval : Retrieval}
    {answer : Answer} {default : Routing}
    (hretrieval : (store.after events).retrievals[number]? = some retrieval)
    (hsettles : store.Settles events number answer default) :
    answer.Ends default retrieval.progress := by
  obtain ⟨uri, hended⟩ := hsettles.outcome
  rw [hretrieval] at hended
  rw [Option.some.inj hended]
  exact answer.ends_outcome default uri

/-- A retrieval that got no answer waits. -/
theorem pending_of_not_settles
    {default : Routing} {pulls : Bool} {events : List StoreEvent} {number : Nat}
    {retrieval : Retrieval}
    (hretrieval :
      ((fresh default pulls).after events).retrievals[number]? = some retrieval)
    (hsettles : ∀ answer default', ¬ (fresh default pulls).Settles events number answer default') :
    retrieval.progress = .pending := by
  rw [Retrieval.progress_eq_pending_iff]
  rcases retrieval with ⟨uri, _ | outcome⟩
  · rfl
  · obtain ⟨answer, default', hended⟩ := exists_settles (by simp [fresh]) hretrieval
    exact absurd hended (hsettles answer default')

theorem request_basis_after
    {store : Store} {uri : String} {basis : Basis} (after : List StoreEvent)
    (hissued : (store.request uri).requests[store.requests.length]? =
      some ⟨uri, basis, false⟩) :
    ∃ isCancelled, ((store.request uri).after after).requests[store.requests.length]? =
      some ⟨uri, basis, isCancelled⟩ := by
  obtain ⟨isCancelled, hrequest, -⟩ := (later_after (store.request uri) after).request hissued
  exact ⟨isCancelled, hrequest⟩

/-- A request is bound to the retrieval that is kept after it, which is the one kept
before unless there was none or it was cancelled. -/
theorem request_bound
    {store : Store} (uri : String) (hpulls : store.pulls = true) :
    ∃ number,
      (store.request uri).requests[store.requests.length]? =
        some ⟨uri, .retrieval number, false⟩ ∧
      (store.request uri).cached? uri = some number ∧
      ((¬ store.Lacks uri ∧ store.cached? uri = some number ∧
          (store.request uri).retrievals = store.retrievals) ∨
        (store.Lacks uri ∧ number = store.retrievals.length ∧
          (store.request uri).retrievals = store.retrievals ++ [⟨uri, none⟩])) := by
  rcases store.request_cases uri with ⟨hno, -⟩ | ⟨number, -, hhas, hcached, h⟩ | ⟨-, hlacks, h⟩
  · rw [hpulls] at hno
    cases hno
  · refine ⟨number, ?_, ?_, .inl ⟨hhas, hcached, ?_⟩⟩
    · simp [h, addRequest]
    · rw [h]
      exact hcached
    · rw [h]
      rfl
  · refine ⟨store.retrievals.length, ?_, ?_, .inr ⟨hlacks, rfl, ?_⟩⟩
    · simp [h, addRequest, retrieve]
    · rw [h]
      exact store.cached?_retrieve_self uri
    · rw [h]
      rfl

/-! ## An end is final -/

theorem progress?_step
    {store : Store} {id : Nat} {progress : Progress} (event : StoreEvent)
    (hprogress : store.progress? id = some progress) (hended : progress ≠ .pending) :
    (store.step event).result.progress? id = some progress := by
  obtain ⟨request, hrequest, rfl⟩ := Option.map_eq_some_iff.mp hprogress
  have hlater := store.later_step event
  obtain ⟨isCancelled, hnext, hkept⟩ := hlater.request hrequest
  have hmark : isCancelled = request.isCancelled := by
    cases hold : request.isCancelled with
    | true => exact hkept hold
    | false =>
        rw [← Bool.not_eq_true]
        intro hmarked
        have hopen : ∀ other, store.requests[id]? = some other → other.isCancelled = false := by
          intro other hother
          rwa [← Option.some.inj (hrequest.symm.trans hother)]
        obtain ⟨-, hpending⟩ := cancel_of_isCancelled_step hopen hnext hmarked
        rw [hprogress] at hpending
        exact hended (Option.some.inj hpending)
  simp only [progress?, hnext, Option.map_some, Option.some.injEq]
  rcases request with ⟨uri, _ | number, _ | _⟩
  · rw [hmark]
    rfl
  · rw [hmark]
    rfl
  · rw [hmark]
    simp only [progressOf, Bool.false_eq_true, if_false] at hended ⊢
    cases hretrieval : store.retrievals[number]? with
    | none => simp [hretrieval] at hended
    | some retrieval =>
        obtain ⟨outcome, hsame, hstays⟩ := hlater.retrieval hretrieval
        have hsettled : retrieval.outcome ≠ none := by
          intro hnone
          simp [hretrieval, Retrieval.progress, hnone] at hended
        rw [hsame, hstays hsettled]
  · rw [hmark]
    rfl

/-- A request that has ended stands as it does for the rest of the run. -/
theorem progress?_after
    {store : Store} {id : Nat} {progress : Progress} (events : List StoreEvent)
    (hprogress : store.progress? id = some progress) (hended : progress ≠ .pending) :
    (store.after events).progress? id = some progress := by
  induction events generalizing store with
  | nil => exact hprogress
  | cons event rest ih => exact ih (progress?_step event hprogress hended)

/-- Every request of every run.  Without pulling it gets the default of its moment.
With pulling it is bound to one retrieval of its own document, and ends as that does
unless it is cancelled itself: the answer is read under the default of the moment at
which the retrieval is settled. -/
theorem request_linearized_at_settlement
    (default : Routing) (pulls : Bool) (before after : List StoreEvent) (uri : String) :
    let start := fresh default pulls
    let events := before ++ .request uri :: after
    let issued := start.after before
    let id := issued.requests.length
    let final := start.after events
    (issued.pulls = false → final.progress? id = some (.served issued.default)) ∧
    (issued.pulls = true → ∃ number,
      (issued.request uri).requests[id]? = some ⟨uri, .retrieval number, false⟩ ∧
      (issued.request uri).cached? uri = some number ∧
      ((¬ issued.Lacks uri ∧ issued.cached? uri = some number ∧
          (issued.request uri).retrievals = issued.retrievals) ∨
        (issued.Lacks uri ∧ number = issued.retrievals.length ∧
          (issued.request uri).retrievals = issued.retrievals ++ [⟨uri, none⟩])) ∧
      (∃ outcome, final.retrievals[number]? = some ⟨uri, outcome⟩) ∧
      (start.Cancels events id → final.progress? id = some .cancelled) ∧
      (¬ start.Cancels events id → ∃ progress,
        final.progress? id = some progress ∧
        (∀ answer moment, start.Settles events number answer moment →
          answer.Ends moment progress) ∧
        ((∀ answer moment, ¬ start.Settles events number answer moment) →
          progress = .pending) ∧
        ∀ other request, final.requests[other]? = some request →
          request.basis = .retrieval number → ¬ start.Cancels events other →
            final.progress? other = some progress)) := by
  intro start events issued id final
  have hfinal : final = (issued.request uri).after after := by
    simp only [final, events, issued, after_append, after_cons]
    rfl
  constructor
  · intro hpulls
    have hissued :
        (issued.request uri).requests[id]? = some ⟨uri, .default issued.default, false⟩ := by
      rcases issued.request_cases uri with ⟨-, h⟩ | ⟨number, hyes, -⟩ | ⟨hyes, -⟩
      · simp [h, addRequest, id]
      · rw [hpulls] at hyes
        cases hyes
      · rw [hpulls] at hyes
        cases hyes
    obtain ⟨isCancelled, hrequest⟩ := request_basis_after after hissued
    rw [← hfinal] at hrequest
    change final.requests[id]? = _ at hrequest
    have hmarked : isCancelled = false := by
      rw [← Bool.not_eq_true]
      intro hcancelled
      obtain ⟨number, hrests⟩ :=
        (wellFormed_after_fresh default pulls events).cancelled hrequest hcancelled
      cases hrests
    simp [progress?, progressOf, hrequest, hmarked]
  · intro hpulls
    obtain ⟨number, hissued, hcached, hbound⟩ := request_bound uri hpulls
    obtain ⟨isCancelled, hrequest⟩ := request_basis_after after hissued
    rw [← hfinal] at hrequest
    obtain ⟨outcome, hretrieval⟩ :=
      (wellFormed_after_fresh default pulls events).basis hrequest rfl
    refine ⟨number, hissued, hcached, hbound, ⟨outcome, hretrieval⟩, progress?_of_cancels, ?_⟩
    intro hcancels
    have hstands : ∀ other request, final.requests[other]? = some request →
        request.basis = .retrieval number → ¬ start.Cancels events other →
          final.progress? other = some (Retrieval.progress ⟨uri, outcome⟩) := by
      intro other request hother hrests hnot
      obtain ⟨retrieval, hsame, -, hprogress⟩ := progress?_of_not_cancels hother hrests hnot
      obtain rfl := Option.some.inj (hsame.symm.trans hretrieval)
      exact hprogress
    refine ⟨_, hstands id _ hrequest rfl hcancels, ?_, ?_, hstands⟩
    · intro answer moment hsettles
      exact ends_of_settles hretrieval hsettles
    · exact pending_of_not_settles hretrieval

/-- The default of the settlement counts, not the one of the request. -/
example :
    let payload := .object [("css_filetypes", .list [])]
    let events := [.request "a", .change payload, .settle 0 (.failure [])]
    ((fresh .initial true).after events).progress? 0 = some (.served ⟨["html"], []⟩) := by
  decide

end Store

end Shorthand
