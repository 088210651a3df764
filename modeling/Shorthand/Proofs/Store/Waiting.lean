import Shorthand.Proofs.Store.Settlement

/-!
# What ends a wait

A request that waits goes on to wait through every event of its store but two: its own
cancellation, and the answer to the retrieval that it rests on.  A new request waits or
is served, but it is never cancelled at once.
-/

namespace Shorthand

namespace Store

/-- A request rests on a retrieval. -/
def Rests (store : Store) (id number : Nat) : Prop :=
  ∃ request, store.requests[id]? = some request ∧ request.basis = .retrieval number

theorem Rests.later
    {store later : Store} {id number : Nat} (hrests : store.Rests id number)
    (hlater : store.Later later) : later.Rests id number := by
  obtain ⟨request, hrequest, hbasis⟩ := hrests
  obtain ⟨isCancelled, hkept, -⟩ := hlater.request hrequest
  exact ⟨⟨request.uri, request.basis, isCancelled⟩, hkept, hbasis⟩

theorem Rests.unique
    {store : Store} {id number other : Nat} (hrests : store.Rests id number)
    (hother : store.Rests id other) : number = other := by
  obtain ⟨request, hrequest, hbasis⟩ := hrests
  obtain ⟨same, hsame, hotherBasis⟩ := hother
  obtain rfl := Option.some.inj (hrequest.symm.trans hsame)
  exact Basis.retrieval.inj (hbasis.symm.trans hotherBasis)

/-- What waits rests on a retrieval that has no answer yet. -/
theorem rests_of_pending
    {store : Store} (hstore : store.WellFormed) {id : Nat}
    (hpending : store.progress? id = some .pending) :
    ∃ number uri, store.Rests id number ∧ store.awaited? number = some uri ∧
      store.requests[id]? = some ⟨uri, .retrieval number, false⟩ := by
  obtain ⟨request, hrequest, hstands⟩ := Option.map_eq_some_iff.mp hpending
  obtain ⟨number, hbasis⟩ := exists_basis_of_pending hstands
  obtain ⟨outcome, hretrieval⟩ := hstore.basis hrequest hbasis
  have hmarked : request.isCancelled = false := by
    rw [← Bool.not_eq_true]
    intro hcancelled
    simp [progressOf, hcancelled] at hstands
  have hopen : outcome = none := by
    simpa [progressOf, hmarked, hbasis, hretrieval, Retrieval.progress_eq_pending_iff]
      using hstands
  refine ⟨number, request.uri, ⟨request, hrequest, hbasis⟩, ?_, ?_⟩
  · rw [awaited?_eq_some_iff, hretrieval, hopen]
  · rw [hrequest, ← hbasis, ← hmarked]

/-- A request that is not marked stands as the retrieval that it rests on. -/
theorem progress?_of_rests
    {store : Store} {id number : Nat} {uri : String} {retrieval : Retrieval}
    (hrequest : store.requests[id]? = some ⟨uri, .retrieval number, false⟩)
    (hretrieval : store.retrievals[number]? = some retrieval) :
    store.progress? id = some retrieval.progress := by
  simp [progress?, progressOf, hrequest, hretrieval]

/-- A request goes on to wait, unless it is cancelled or its retrieval is answered. -/
theorem pending_step_cases
    {store : Store} (hstore : store.WellFormed) {id : Nat}
    (hpending : store.progress? id = some .pending) (event : StoreEvent) :
    ((store.step event).result.progress? id = some .pending ∧ event ≠ .cancel id ∧
      ∀ number answer, event = .settle number answer → ¬ store.Rests id number) ∨
    (event = .cancel id ∧ (store.step event).result.progress? id = some .cancelled) ∨
    (∃ number answer progress, event = .settle number answer ∧ store.Rests id number ∧
      (store.step event).result.progress? id = some progress ∧
      answer.Ends store.default progress) := by
  obtain ⟨number, uri, hrests, hawaited, hrequest⟩ := rests_of_pending hstore hpending
  by_cases hcancel : event = .cancel id
  · subst event
    have hcancels : store.Cancels [.cancel id] id := ⟨[], [], rfl, hpending⟩
    exact .inr (.inl ⟨rfl, progress?_of_cancels hcancels⟩)
  · have hmark : (store.step event).result.requests[id]? =
        some ⟨uri, .retrieval number, false⟩ := by
      obtain ⟨isCancelled, hnext, -⟩ := (store.later_step event).request hrequest
      have hopen : ∀ request, store.requests[id]? = some request →
          request.isCancelled = false := by
        intro request hsame
        rw [← Option.some.inj (hrequest.symm.trans hsame)]
      cases isCancelled with
      | false => exact hnext
      | true => exact absurd (cancel_of_isCancelled_step hopen hnext rfl).1 hcancel
    by_cases hsettle : ∃ answer, event = .settle number answer
    · obtain ⟨answer, rfl⟩ := hsettle
      refine .inr (.inr ⟨number, answer, _, rfl, hrests, ?_, answer.ends_outcome _ uri⟩)
      exact progress?_of_rests hmark (step_settle_retrieval answer hawaited)
    · refine .inl ⟨?_, hcancel, ?_⟩
      · have hwaits := (awaited?_eq_some_iff _ _ _).mp hawaited
        obtain ⟨outcome, hretrieval, -⟩ := (store.later_step event).retrieval hwaits
        cases outcome with
        | none => exact progress?_of_rests hmark hretrieval
        | some outcome =>
            have hopen : ∀ retrieval, store.retrievals[number]? = some retrieval →
                retrieval.outcome = none := by
              intro retrieval hsame
              rw [← Option.some.inj (hwaits.symm.trans hsame)]
            obtain ⟨answer, hevent, -⟩ := settle_of_outcome_step hopen hretrieval
            exact absurd ⟨answer, hevent⟩ hsettle
      · rintro other answer rfl hother
        obtain rfl := hrests.unique hother
        exact hsettle ⟨answer, rfl⟩

/-- A new request waits or is served. -/
theorem progress?_request
    {store : Store} (hstore : store.WellFormed) (uri : String) :
    (store.request uri).progress? store.requests.length = some .pending ∨
    ∃ routing, (store.request uri).progress? store.requests.length = some (.served routing) := by
  rcases store.request_cases uri with ⟨-, h⟩ | ⟨number, -, hhas, hcached, h⟩ | ⟨-, -, h⟩
  · exact .inr ⟨store.default, by simp [h, progress?, addRequest, progressOf]⟩
  · obtain ⟨outcome, hretrieval, -⟩ := hstore.cached hcached
    have hprogress : (store.request uri).progress? store.requests.length =
        some (Retrieval.progress ⟨uri, outcome⟩) := by
      simp [h, progress?, addRequest, progressOf, hretrieval]
    rw [hprogress]
    rcases outcome with _ | routing | routing | _
    · exact .inl rfl
    · exact .inr ⟨routing, rfl⟩
    · exact .inr ⟨routing, rfl⟩
    · exact absurd (.inr ⟨number, _, hcached, hretrieval, rfl⟩) hhas
  · exact .inl (by simp [h, progress?, addRequest, retrieve, progressOf, Retrieval.progress])

end Store

end Shorthand
