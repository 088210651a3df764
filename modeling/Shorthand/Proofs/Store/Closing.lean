import Shorthand.Proofs.Store.Settlement

/-!
# Closing a document

What was retrieved for a document before it was closed does not reach the requests
that come after.  A retrieval that a closing cut off may still end: then the requests
that waited for it end with it, and nothing else in the store changes.
-/

namespace Shorthand

namespace Store

/-! ## Later retrievals only -/

/-- If only retrievals from a number on are kept for a document, so it stays. -/
theorem le_of_cached?_after
    {store : Store} {uri : String} {bound : Nat} (events : List StoreEvent)
    (hbound : bound ≤ store.retrievals.length)
    (hcached : ∀ number, store.cached? uri = some number → bound ≤ number) :
    ∀ number, (store.after events).cached? uri = some number → bound ≤ number := by
  induction events generalizing store with
  | nil => exact hcached
  | cons event rest ih =>
      have hnext : ∀ number, (store.step event).result.cached? uri = some number →
          bound ≤ number := by
        intro number hnumber
        rcases store.step_cached?_cases event uri with
          hsame | ⟨-, -, -, hbegun⟩ | ⟨-, hnone⟩ | ⟨ended, answer, -, -, -, -, hnone⟩
        · rw [hsame] at hnumber
          exact hcached number hnumber
        · rw [hbegun] at hnumber
          cases hnumber
          exact hbound
        · rw [hnone] at hnumber
          cases hnumber
        · rw [hnone] at hnumber
          cases hnumber
      have hgrown := (store.later_step event).retrievals_length_le
      exact ih (Nat.le_trans hbound hgrown) hnext

/-- After a closing only later retrievals are kept for the document. -/
theorem le_of_cached?_after_forget
    (store : Store) (uri : String) (events : List StoreEvent) :
    ∀ number, ((store.forget uri).after events).cached? uri = some number →
      store.retrievals.length ≤ number := by
  have hbound : store.retrievals.length ≤ (store.forget uri).retrievals.length := Nat.le_refl _
  apply le_of_cached?_after events hbound
  intro number hnumber
  rw [cached?_forget_self] at hnumber
  cases hnumber

/-- A request rests on a later retrieval if only such are kept. -/
theorem le_of_request_basis
    {store : Store} {uri : String} {bound : Nat} (hbound : bound ≤ store.retrievals.length)
    (hcached : ∀ number, store.cached? uri = some number → bound ≤ number) :
    ∃ basis, (store.request uri).requests[store.requests.length]? = some ⟨uri, basis, false⟩ ∧
      ∀ number, basis = .retrieval number → bound ≤ number := by
  rcases store.request_cases uri with ⟨-, h⟩ | ⟨kept, -, -, hkept, h⟩ | ⟨-, -, h⟩
  · exact ⟨.default store.default, by simp [h, addRequest], by simp⟩
  · refine ⟨.retrieval kept, by simp [h, addRequest], ?_⟩
    rintro number ⟨rfl⟩
    exact hcached kept hkept
  · refine ⟨.retrieval store.retrievals.length, by simp [h, addRequest, retrieve], ?_⟩
    rintro number ⟨rfl⟩
    exact hbound

/-! ## The end of what was cut off -/

/-- A retrieval that is not kept for its document ends without a trace in the cache. -/
theorem settle_cache_of_not_cached
    {store : Store} {number : Nat} {retrieval : Retrieval} (answer : Answer)
    (hretrieval : store.retrievals[number]? = some retrieval)
    (hother : store.cached? retrieval.uri ≠ some number) :
    (store.settle number answer).result.cache = store.cache := by
  rcases store.settle_cases number answer with ⟨-, h⟩ | ⟨uri, hwaits, h⟩
  · rw [h]
  · obtain rfl := Option.some.inj (hwaits.symm.trans hretrieval)
    rw [h]
    exact finish_cache_of_not_cached _ hother

theorem settle_requests (store : Store) (number : Nat) (answer : Answer) :
    (store.settle number answer).result.requests = store.requests := by
  rcases store.settle_cases number answer with ⟨-, h⟩ | ⟨uri, -, h⟩
  · rw [h]
  · rw [h, finish_requests]

theorem settle_retrieval_of_ne
    (store : Store) {number other : Nat} (answer : Answer) (hother : number ≠ other) :
    (store.settle number answer).result.retrievals[other]? = store.retrievals[other]? := by
  rcases store.settle_cases number answer with ⟨-, h⟩ | ⟨uri, -, h⟩
  · rw [h]
  · rw [h, finish_retrievals, List.getElem?_set_ne hother]

theorem ends_of_settle
    {store : Store} {id number : Nat} {uri : String} (answer : Answer)
    (hrequest : store.requests[id]? = some ⟨uri, .retrieval number, false⟩)
    (hawaited : store.awaited? number = some uri) :
    ∃ progress, (store.settle number answer).result.progress? id = some progress ∧
      progress ≠ .pending ∧ answer.Ends store.default progress := by
  have hended := step_settle_retrieval answer hawaited
  change (store.settle number answer).result.retrievals[number]? = _ at hended
  refine ⟨_, ?_, ?_, answer.ends_outcome store.default uri⟩
  · simp [progress?, progressOf, settle_requests, hrequest, hended]
  · simp [Retrieval.progress_eq_pending_iff]

/-- After a document was closed no request for it gets what was retrieved before; what
was cut off ends without a trace in the cache or the default, and still serves the
requests that waited for it; and closing again changes nothing. -/
theorem closed_retrieval_stays_away
    (default : Routing) (pulls : Bool) (before middle : List StoreEvent) (uri : String) :
    let start := fresh default pulls
    let opened := start.after before
    let closed := start.after (before ++ [.close uri])
    let now := closed.after middle
    (∀ rest, ∃ request,
      ((now.request uri).after rest).requests[now.requests.length]? = some request ∧
        ∀ number, request.basis = .retrieval number → opened.retrievals.length ≤ number) ∧
    (∀ number retrieval answer, opened.retrievals[number]? = some retrieval →
      retrieval.uri = uri →
        (now.settle number answer).result.cache = now.cache ∧
        (now.settle number answer).result.default = now.default ∧
        (now.settle number answer).result.requests = now.requests ∧
        ∀ other, number ≠ other →
          (now.settle number answer).result.retrievals[other]? = now.retrievals[other]?) ∧
    (∀ id number answer rest,
      opened.requests[id]? = some ⟨uri, .retrieval number, false⟩ →
      now.awaited? number = some uri → ¬ closed.Cancels middle id →
        ∃ progress,
          ((now.settle number answer).result.after rest).progress? id = some progress ∧
            answer.Ends now.default progress) ∧
    (now.cached? uri = none → now.step (.close uri) = ⟨now, []⟩) ∧
    (now.step (.close uri)).result.step (.close uri) = ⟨(now.step (.close uri)).result, []⟩ := by
  intro start opened closed now
  have hclosed : closed = opened.forget uri := by
    simp only [closed, opened, after_append, after_cons, after_nil]
    rfl
  have hlater : opened.Later now := by
    have hrun := later_after opened (.close uri :: middle)
    rwa [after_cons, show (opened.step (.close uri)).result = closed from hclosed.symm] at hrun
  have hkept : ∀ number, now.cached? uri = some number → opened.retrievals.length ≤ number := by
    intro number hnumber
    apply le_of_cached?_after_forget opened uri middle number
    rw [← hclosed]
    exact hnumber
  refine ⟨?_, ?_, ?_, ?_, ?_⟩
  · intro rest
    obtain ⟨basis, hissued, hbasis⟩ :=
      le_of_request_basis hlater.retrievals_length_le hkept
    obtain ⟨isCancelled, hrequest⟩ := request_basis_after rest hissued
    exact ⟨_, hrequest, hbasis⟩
  · intro number retrieval answer hretrieval huri
    obtain ⟨outcome, hsame, -⟩ := hlater.retrieval hretrieval
    have hother : now.cached? retrieval.uri ≠ some number := by
      intro hcached
      rw [huri] at hcached
      have hlt := (List.getElem?_eq_some_iff.mp hretrieval).1
      exact absurd (hkept number hcached) (Nat.not_le_of_lt hlt)
    exact ⟨settle_cache_of_not_cached answer hsame hother, settle_default now number answer,
      settle_requests now number answer, fun other => settle_retrieval_of_ne now answer⟩
  · intro id number answer rest hissued hawaited hcancels
    obtain ⟨isCancelled, hrequest, -⟩ := hlater.request hissued
    have hmarked : isCancelled = false := by
      rw [← Bool.not_eq_true]
      intro hcancelled
      apply hcancels
      apply cancels_of_isCancelled _ hrequest hcancelled
      rw [hclosed]
      intro request hopen
      rw [← Option.some.inj (hissued.symm.trans hopen)]
    rw [hmarked] at hrequest
    obtain ⟨progress, hprogress, hended, hends⟩ := ends_of_settle answer hrequest hawaited
    exact ⟨progress, progress?_after rest hprogress hended, hends⟩
  · intro hnone
    simp only [step, forget_eq_self hnone]
  · simp only [step, forget_forget]

end Store

end Shorthand
