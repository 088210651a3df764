import Shorthand.Proofs.Store.Closing
import Shorthand.Proofs.Store.Waiting

/-!
# Cancelling one request

A request that is cancelled while it waits takes nothing with it.  A run with the
cancellation and the run without it stay alike in everything but that one request: they
ask for the same settings in the same order, keep the same retrievals, report the same,
and end every other request in the same way.
-/

namespace Shorthand

namespace Store

/-! ## Stores with other requests -/

/-- A store whose requests are replaced. -/
def withRequests (store : Store) (requests : List Request) : Store := { store with requests }

/-- What a store does when it is asked does not depend on the requests so far. -/
theorem request_withRequests (store : Store) (uri : String) :
    ∃ added, (store.request uri).requests = store.requests ++ [added] ∧
      ∀ requests, (store.withRequests requests).request uri =
        (store.request uri).withRequests (requests ++ [added]) := by
  have hshared : ∀ requests, (store.withRequests requests).shared? uri = store.shared? uri :=
    fun _ => rfl
  have hpulls : ∀ requests, (store.withRequests requests).pulls = store.pulls := fun _ => rfl
  cases hcan : store.pulls with
  | false =>
      refine ⟨⟨uri, .default store.default, false⟩, ?_, ?_⟩
      · simp [request, hcan, addRequest]
      · intro requests
        simp [request, hcan, addRequest, withRequests]
  | true =>
      cases hkept : store.shared? uri with
      | none =>
          refine ⟨⟨uri, .retrieval store.retrievals.length, false⟩, ?_, ?_⟩
          · simp [request, hcan, hkept, addRequest, retrieve]
          · intro requests
            simp only [request, hpulls, hcan, hshared, hkept]
            rfl
      | some number =>
          refine ⟨⟨uri, .retrieval number, false⟩, ?_, ?_⟩
          · simp [request, hcan, hkept, addRequest]
          · intro requests
            simp only [request, hpulls, hcan, hshared, hkept]
            rfl

theorem finish_withRequests
    (store : Store) (requests : List Request) (number : Nat) (uri : String) (outcome : Outcome) :
    (store.withRequests requests).finish number uri outcome =
      (store.finish number uri outcome).withRequests requests := by
  have hcached : (store.withRequests requests).cached? uri = store.cached? uri := rfl
  simp only [finish, hcached]
  split <;> rfl

theorem settle_withRequests
    (store : Store) (requests : List Request) (number : Nat) (answer : Answer) :
    (store.withRequests requests).settle number answer =
      ⟨(store.settle number answer).result.withRequests requests,
        (store.settle number answer).records⟩ := by
  have hawaited : (store.withRequests requests).awaited? number = store.awaited? number := rfl
  have hdefault : (store.withRequests requests).default = store.default := rfl
  simp only [settle, hawaited, hdefault]
  split
  · rfl
  · simp only [finish_withRequests]

theorem change_withRequests (store : Store) (requests : List Request) (payload : Value) :
    (store.withRequests requests).change payload =
      ⟨(store.change payload).result.withRequests requests,
        (store.change payload).records⟩ := by
  have hdefault : (store.withRequests requests).default = store.default := rfl
  simp only [change, hdefault]
  split <;> rfl

/-! ## Stores that differ in one request -/

/-- A store that differs from another in one request at most. -/
def AgreesBut (id : Nat) (store other : Store) : Prop :=
  ∃ requests, other = store.withRequests requests ∧
    requests.length = store.requests.length ∧
    ∀ number, number ≠ id → requests[number]? = store.requests[number]?

theorem AgreesBut.refl (id : Nat) (store : Store) : store.AgreesBut id store :=
  ⟨store.requests, rfl, rfl, fun _ _ => rfl⟩

theorem AgreesBut.symm
    {id : Nat} {store other : Store} (hagree : store.AgreesBut id other) :
    other.AgreesBut id store := by
  obtain ⟨requests, rfl, hlength, hsame⟩ := hagree
  exact ⟨store.requests, rfl, hlength.symm, fun number hne => (hsame number hne).symm⟩

theorem AgreesBut.trans
    {id : Nat} {first second third : Store} (hfirst : first.AgreesBut id second)
    (hsecond : second.AgreesBut id third) : first.AgreesBut id third := by
  obtain ⟨requests, rfl, hlength, hsame⟩ := hfirst
  obtain ⟨more, rfl, hmoreLength, hmoreSame⟩ := hsecond
  refine ⟨more, rfl, hmoreLength.trans hlength, ?_⟩
  intro number hne
  exact (hmoreSame number hne).trans (hsame number hne)

theorem agreesBut_cancel (store : Store) (id : Nat) : store.AgreesBut id (store.cancel id) := by
  rcases store.cancel_cases id with ⟨-, h⟩ | ⟨request, -, -, h⟩
  · rw [h]
    exact AgreesBut.refl id store
  · refine ⟨_, h, List.length_set, ?_⟩
    intro number hne
    exact List.getElem?_set_ne hne.symm

theorem AgreesBut.progress?
    {store other : Store} {id number : Nat} (hagree : store.AgreesBut id other)
    (hne : number ≠ id) : other.progress? number = store.progress? number := by
  obtain ⟨requests, rfl, -, hsame⟩ := hagree
  change requests[number]?.map store.progressOf = store.requests[number]?.map store.progressOf
  rw [hsame number hne]

theorem AgreesBut.request
    {store other : Store} {id : Nat} (hagree : store.AgreesBut id other) (uri : String) :
    (store.request uri).AgreesBut id (other.request uri) := by
  obtain ⟨requests, rfl, hlength, hsame⟩ := hagree
  obtain ⟨added, hadded, h⟩ := store.request_withRequests uri
  refine ⟨requests ++ [added], h requests, ?_, ?_⟩
  · rw [hadded, List.length_append, List.length_append, hlength]
  · intro number hne
    rw [hadded, List.getElem?_append, List.getElem?_append, hlength, hsame number hne]

theorem AgreesBut.cancel
    {store other : Store} {id : Nat} (hagree : store.AgreesBut id other) (number : Nat) :
    (store.cancel number).AgreesBut id (other.cancel number) := by
  by_cases hid : number = id
  · -- The very request in which the stores differ may differ again.
    subst number
    exact (store.agreesBut_cancel id).symm.trans (hagree.trans (other.agreesBut_cancel id))
  · obtain ⟨requests, rfl, hlength, hsame⟩ := hagree
    have hfound : (store.withRequests requests).requests[number]? = store.requests[number]? :=
      hsame number hid
    have hstands : ∀ request,
        (store.withRequests requests).progressOf request = store.progressOf request :=
      fun _ => rfl
    cases hrequest : store.requests[number]? with
    | none =>
        simp only [Store.cancel, hfound, hrequest]
        exact ⟨requests, rfl, hlength, hsame⟩
    | some request =>
        by_cases hpending : store.progressOf request = .pending
        · simp only [Store.cancel, hfound, hrequest, hstands, if_pos hpending]
          refine ⟨requests.set number _, rfl, ?_, ?_⟩
          · rw [List.length_set, List.length_set, hlength]
          · intro other hne
            rw [List.getElem?_set, List.getElem?_set, hlength, hsame other hne]
        · simp only [Store.cancel, hfound, hrequest, hstands, if_neg hpending]
          exact ⟨requests, rfl, hlength, hsame⟩

/-- An event that neither reads nor changes the requests keeps the agreement. -/
theorem AgreesBut.step_of_withRequests
    {store other : Store} {id : Nat} (hagree : store.AgreesBut id other) {event : StoreEvent}
    (hkept : (store.step event).result.requests = store.requests)
    (hstep : ∀ requests, (store.withRequests requests).step event =
      ⟨(store.step event).result.withRequests requests, (store.step event).records⟩) :
    (store.step event).result.AgreesBut id (other.step event).result ∧
      (other.step event).records = (store.step event).records := by
  obtain ⟨requests, rfl, hlength, hsame⟩ := hagree
  rw [hstep]
  refine ⟨⟨requests, rfl, ?_, ?_⟩, rfl⟩
  · rw [hkept, hlength]
  · intro number hne
    rw [hkept, hsame number hne]

theorem AgreesBut.step
    {store other : Store} {id : Nat} (hagree : store.AgreesBut id other) (event : StoreEvent) :
    (store.step event).result.AgreesBut id (other.step event).result ∧
      (other.step event).records = (store.step event).records := by
  cases event with
  | request uri => exact ⟨hagree.request uri, rfl⟩
  | cancel number => exact ⟨hagree.cancel number, rfl⟩
  | settle number answer =>
      have hkept : (store.step (.settle number answer)).result.requests = store.requests :=
        store.settle_requests number answer
      apply hagree.step_of_withRequests hkept
      intro requests
      exact store.settle_withRequests requests number answer
  | change payload =>
      have hkept : (store.step (.change payload)).result.requests = store.requests := by
        obtain ⟨default, hchange⟩ := store.change_cases payload
        simp only [Store.step, hchange]
      apply hagree.step_of_withRequests hkept
      intro requests
      exact store.change_withRequests requests payload
  | close uri => exact hagree.step_of_withRequests rfl fun _ => rfl
  | enablePull => exact hagree.step_of_withRequests rfl fun _ => rfl

theorem AgreesBut.run
    {store other : Store} {id : Nat} (hagree : store.AgreesBut id other)
    (events : List StoreEvent) :
    (store.after events).AgreesBut id (other.after events) ∧
      (other.run events).records = (store.run events).records := by
  induction events generalizing store other with
  | nil => exact ⟨hagree, rfl⟩
  | cons event rest ih =>
      obtain ⟨hnext, hrecords⟩ := hagree.step event
      obtain ⟨hlast, hmore⟩ := ih hnext
      refine ⟨hlast, ?_⟩
      simp only [Store.run, hrecords, hmore]

/-! ## A run with a cancellation, and without it -/

theorem run_records_append (store : Store) (events more : List StoreEvent) :
    (store.run (events ++ more)).records =
      (store.run events).records ++ ((store.after events).run more).records := by
  induction events generalizing store with
  | nil => rfl
  | cons event rest ih =>
      simp only [List.cons_append, Store.run, List.append_assoc, ih]
      rfl

/-- A request that waits is cancelled, and `rest` is whatever happens next.  The request
ends as cancelled.  Everything else is as if it had not been cancelled: the reports, the
default, the cache, the retrievals in their order with their outcomes, and where every
other request stands.  The retrieval for which it waited goes on, also if that request
began it. -/
theorem cancellation_unnoticed_by_others
    (default : Routing) (pulls : Bool) (before rest : List StoreEvent) (id : Nat)
    (hwaits : ((fresh default pulls).after before).progress? id = some .pending) :
    let start := fresh default pulls
    let now := start.after before
    let cancelled := start.run (before ++ .cancel id :: rest)
    let spared := start.run (before ++ rest)
    cancelled.result.progress? id = some .cancelled ∧
    (∀ other, other ≠ id →
      cancelled.result.progress? other = spared.result.progress? other) ∧
    cancelled.result.requests.length = spared.result.requests.length ∧
    cancelled.result.retrievals = spared.result.retrievals ∧
    cancelled.result.cache = spared.result.cache ∧
    cancelled.result.default = spared.result.default ∧
    cancelled.result.pulls = spared.result.pulls ∧
    cancelled.records = spared.records ∧
    ∃ number uri, now.Rests id number ∧ (now.cancel id).awaited? number = some uri ∧
      (now.cancel id).cached? uri = now.cached? uri := by
  intro start now cancelled spared
  have hcancelled : cancelled.result = (now.cancel id).after rest := by
    change start.after (before ++ .cancel id :: rest) = _
    rw [after_append, after_cons]
    rfl
  have hspared : spared.result = now.after rest := by
    change start.after (before ++ rest) = _
    rw [after_append]
  have hrun := (now.agreesBut_cancel id).run rest
  have hagree : spared.result.AgreesBut id cancelled.result := by
    rw [hspared, hcancelled]
    exact hrun.1
  have hrecords : cancelled.records = spared.records := by
    rw [run_records_append, run_records_append, ← hrun.2]
    rfl
  have hcancels : start.Cancels (before ++ .cancel id :: rest) id :=
    ⟨before, rest, rfl, hwaits⟩
  refine ⟨progress?_of_cancels hcancels, fun other => hagree.progress?, ?_⟩
  obtain ⟨requests, hsame, hlength, -⟩ := hagree
  rw [hsame]
  refine ⟨hlength, rfl, rfl, rfl, rfl, hrecords, ?_⟩
  obtain ⟨number, uri, hrests, hawaited, -⟩ :=
    rests_of_pending (wellFormed_after_fresh default pulls before) hwaits
  obtain ⟨marked, hmarked, -⟩ := now.agreesBut_cancel id
  refine ⟨number, uri, hrests, ?_, now.cached?_cancel id uri⟩
  rw [hmarked]
  exact hawaited

/-- The request that began a retrieval is cancelled, and another one that shares the
retrieval is served all the same. -/
theorem cancelled_initiator_leaves_retrieval :
    let issued := [.request "a", .request "a"]
    let answered := [.settle 0 (.settings .null)]
    ((fresh .initial true).after issued).progress? 0 = some .pending ∧
    ((fresh .initial true).run (issued ++ .cancel 0 :: answered)).result.progress? 1 =
      ((fresh .initial true).run (issued ++ answered)).result.progress? 1 ∧
    ((fresh .initial true).after (issued ++ answered)).progress? 1 = some (.served .initial) := by
  intro issued answered
  have hwaits : ((fresh .initial true).after issued).progress? 0 = some .pending := by decide
  have hother := (cancellation_unnoticed_by_others .initial true issued answered 0 hwaits).2.1
  exact ⟨hwaits, hother 1 (by decide), by decide⟩

end Store

end Shorthand
