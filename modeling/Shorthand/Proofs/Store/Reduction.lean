import Shorthand.Proofs.Store.Closing
import Shorthand.Proofs.Store.Rank

/-!
# A store reduced to one document

Documents share one cache, one default and one numbering of retrievals and requests.  A
store is reduced to one of them by leaving out what belongs to the others and numbering
the rest anew.  The reduction does not see what happens to the others, and commutes with
what happens to the document itself.
-/

namespace Shorthand

attribute [ext] Store

namespace Store

/-! ## A store reduced to one document -/

/-- The number of a retrieval among those of a document. -/
def retrievalRank (store : Store) (uri : String) (number : Nat) : Nat :=
  rank Retrieval.uri uri store.retrievals number

def requestRank (store : Store) (uri : String) (id : Nat) : Nat :=
  rank Request.uri uri store.requests id

/-- What a request for a document rests on, among the retrievals of that document. -/
def rebase (store : Store) (uri : String) : Basis → Basis
  | .default routing => .default routing
  | .retrieval number => .retrieval (store.retrievalRank uri number)

/-- A store that knows one document only. -/
def only (store : Store) (uri : String) : Store where
  default := store.default
  pulls := store.pulls
  cache := (store.cached? uri).toList.map fun number => (uri, store.retrievalRank uri number)
  retrievals := store.retrievals.filter (·.uri == uri)
  requests := (store.requests.filter (·.uri == uri)).map fun request =>
    { request with basis := store.rebase uri request.basis }

theorem only_fresh (default : Routing) (pulls : Bool) (uri : String) :
    (fresh default pulls).only uri = fresh default pulls := rfl

theorem cached?_only (store : Store) (uri : String) :
    (store.only uri).cached? uri = (store.cached? uri).map (store.retrievalRank uri) := by
  rw [cached?, only]
  cases store.cached? uri with
  | none => rfl
  | some number => simp

/-! ## Numbers that stay -/

theorem Later.retrievalRank
    {store later : Store} (hlater : store.Later later) (uri : String) {number : Nat}
    (hle : number ≤ store.retrievals.length) :
    later.retrievalRank uri number = store.retrievalRank uri number := by
  apply rank_eq_of_keys Retrieval.uri uri hle
  intro index retrieval hretrieval
  obtain ⟨outcome, hsame, -⟩ := hlater.retrieval hretrieval
  exact ⟨_, hsame, rfl⟩

theorem Later.requestRank
    {store later : Store} (hlater : store.Later later) (uri : String) {id : Nat}
    (hle : id ≤ store.requests.length) :
    later.requestRank uri id = store.requestRank uri id := by
  apply rank_eq_of_keys Request.uri uri hle
  intro index request hrequest
  obtain ⟨isCancelled, hsame, -⟩ := hlater.request hrequest
  exact ⟨_, hsame, rfl⟩

theorem le_length_of_getElem?
    {α : Type} {items : List α} {index : Nat} {item : α} (hitem : items[index]? = some item) :
    index ≤ items.length :=
  Nat.le_of_lt (List.getElem?_eq_some_iff.mp hitem).1

theorem WellFormed.requests_rebase
    {store later : Store} (hstore : store.WellFormed) (hlater : store.Later later)
    (uri : String) :
    (store.requests.filter (·.uri == uri)).map
        (fun request => { request with basis := later.rebase uri request.basis }) =
      (store.only uri).requests := by
  apply List.map_congr_left
  intro request hrequest
  obtain ⟨id, hid⟩ := List.mem_iff_getElem?.mp (List.mem_filter.mp hrequest).1
  have hbasis : later.rebase uri request.basis = store.rebase uri request.basis := by
    cases hrests : request.basis with
    | default routing => rfl
    | retrieval number =>
        obtain ⟨outcome, hretrieval⟩ := hstore.basis hid hrests
        simp only [rebase, hlater.retrievalRank uri (le_length_of_getElem? hretrieval)]
  rw [hbasis]

theorem WellFormed.cache_rank
    {store later : Store} (hstore : store.WellFormed) (hlater : store.Later later)
    (uri : String) :
    (store.cached? uri).toList.map (fun number => (uri, later.retrievalRank uri number)) =
      (store.only uri).cache := by
  cases hcached : store.cached? uri with
  | none => simp [only, hcached]
  | some number =>
      obtain ⟨outcome, hretrieval, -⟩ := hstore.cached hcached
      simp [only, hcached, hlater.retrievalRank uri (le_length_of_getElem? hretrieval)]

/-! ## Events of other documents -/

/-- A later store with nothing new for a document is the same store to it. -/
theorem WellFormed.only_eq_of_later
    {store later : Store} (hstore : store.WellFormed) (hlater : store.Later later)
    {uri : String} (hdefault : later.default = store.default)
    (hpulls : later.pulls = store.pulls) (hcached : later.cached? uri = store.cached? uri)
    (hretrievals : later.retrievals.filter (·.uri == uri) =
      store.retrievals.filter (·.uri == uri))
    (hrequests : later.requests.filter (·.uri == uri) = store.requests.filter (·.uri == uri)) :
    later.only uri = store.only uri := by
  have hcache : (later.only uri).cache = (store.only uri).cache := by
    rw [← hstore.cache_rank hlater uri, ← hcached]
    rfl
  have hrebased : (later.only uri).requests = (store.only uri).requests := by
    rw [← hstore.requests_rebase hlater uri, ← hrequests]
    rfl
  exact Store.ext hdefault hpulls hcache hretrievals hrebased

end Store

/-- The document that an event is about. -/
def StoreEvent.document? (store : Store) : StoreEvent → Option String
  | .request uri => some uri
  | .cancel id => store.requests[id]?.map (·.uri)
  | .settle number _ => store.retrievals[number]?.map (·.uri)
  | .change _ => none
  | .close uri => some uri
  | .enablePull => none

namespace Store

theorem only_step_of_ne
    {store : Store} (hstore : store.WellFormed) {event : StoreEvent} {uri other : String}
    (hdocument : event.document? store = some other) (hne : uri ≠ other) :
    (store.step event).result.only uri = store.only uri := by
  have hlater := store.later_step event
  have hdrop : (other == uri) = false := by simpa using hne.symm
  cases event with
  | request asked =>
      obtain rfl : asked = other := Option.some.inj hdocument
      apply hstore.only_eq_of_later hlater
      · exact store.request_default asked
      · exact store.request_pulls asked
      · exact store.cached?_request_of_ne hne
      · rcases store.step_retrievals_cases (.request asked) with
          h | ⟨same, heq, -, -, h⟩ | ⟨number, answer, same, heq, -⟩
        · rw [h]
        · cases heq
          simp [h, hdrop]
        · cases heq
      · obtain ⟨basis, h⟩ := store.request_requests asked
        simp [step, h, hdrop]
  | cancel id =>
      obtain ⟨request, hrequest, rfl⟩ := Option.map_eq_some_iff.mp hdocument
      rcases store.cancel_cases id with ⟨-, h⟩ | ⟨same, hsame, -, h⟩
      · rw [step, h]
      · obtain rfl := Option.some.inj (hrequest.symm.trans hsame)
        apply hstore.only_eq_of_later hlater
        · exact store.cancel_default id
        · exact store.cancel_pulls id
        · exact store.cached?_cancel id uri
        · rw [step, h]
        · rw [step, h]
          exact filter_set_of_ne Request.uri uri _ hrequest hne.symm hne.symm
  | settle number answer =>
      obtain ⟨⟨same, outcome⟩, hretrieval, rfl⟩ := Option.map_eq_some_iff.mp hdocument
      apply hstore.only_eq_of_later hlater
      · exact store.settle_default number answer
      · exact store.settle_pulls number answer
      · exact store.cached?_settle_of_ne answer hretrieval hne
      · rcases store.settle_cases number answer with ⟨-, h⟩ | ⟨waiting, hwaits, h⟩
        · rw [step, h]
        · obtain ⟨rfl, -⟩ : same = waiting ∧ outcome = none := by
            simpa using hretrieval.symm.trans hwaits
          rw [step, h, finish_retrievals]
          exact filter_set_of_ne Retrieval.uri uri _ hwaits hne.symm hne.symm
      · rw [step, settle_requests]
  | change payload => cases hdocument
  | close closed =>
      obtain rfl : closed = other := Option.some.inj hdocument
      exact hstore.only_eq_of_later hlater rfl rfl (store.cached?_forget_of_ne hne) rfl rfl
  | enablePull => cases hdocument

/-! ## Events of the document itself -/

theorem only_retrieval
    {store : Store} {uri : String} {number : Nat} {outcome : Option Outcome}
    (hretrieval : store.retrievals[number]? = some ⟨uri, outcome⟩) :
    (store.only uri).retrievals[store.retrievalRank uri number]? = some ⟨uri, outcome⟩ :=
  getElem?_filter_rank Retrieval.uri uri hretrieval rfl

theorem only_request
    {store : Store} {uri : String} {id : Nat} {request : Request}
    (hrequest : store.requests[id]? = some request) (huri : request.uri = uri) :
    (store.only uri).requests[store.requestRank uri id]? =
      some { request with basis := store.rebase uri request.basis } := by
  have hfound := getElem?_filter_rank Request.uri uri hrequest huri
  change (List.map _ _)[rank Request.uri uri store.requests id]? = _
  rw [List.getElem?_map, hfound]
  rfl

/-- A request for a document stands in the reduced store as it does in the whole one. -/
theorem progressOf_only
    {store : Store} (hstore : store.WellFormed) {uri : String} {id : Nat} {request : Request}
    (hrequest : store.requests[id]? = some request) (huri : request.uri = uri) :
    (store.only uri).progressOf { request with basis := store.rebase uri request.basis } =
      store.progressOf request := by
  cases hbasis : request.basis with
  | default routing => simp only [progressOf, hbasis, rebase]
  | retrieval number =>
      obtain ⟨outcome, hretrieval⟩ := hstore.basis hrequest hbasis
      rw [huri] at hretrieval
      simp only [progressOf, hbasis, rebase, only_retrieval hretrieval, hretrieval]

theorem shared?_only {store : Store} (hstore : store.WellFormed) (uri : String) :
    (store.only uri).shared? uri = (store.shared? uri).map (store.retrievalRank uri) := by
  rw [shared?, cached?_only, shared?]
  cases hcached : store.cached? uri with
  | none => rfl
  | some number =>
      obtain ⟨outcome, hretrieval, -⟩ := hstore.cached hcached
      simp only [Option.map_some, Option.filter_some, only_retrieval hretrieval, hretrieval]
      split <;> rfl

theorem only_addRequest (store : Store) (uri : String) (basis : Basis) :
    (store.addRequest uri basis).only uri =
      (store.only uri).addRequest uri (store.rebase uri basis) := by
  have hrequests : ((store.addRequest uri basis).only uri).requests =
      ((store.only uri).addRequest uri (store.rebase uri basis)).requests := by
    change List.map _ (List.filter _ (store.requests ++ [_])) = _
    rw [List.filter_append, List.map_append, List.filter_cons_of_pos (by simp)]
    rfl
  exact Store.ext rfl rfl rfl rfl hrequests

theorem later_retrieve (store : Store) (uri : String) : store.Later (store.retrieve uri) where
  retrieval := fun hretrieval => ⟨_, getElem?_append_of_eq_some hretrieval, fun _ => rfl⟩
  request := fun hrequest => ⟨_, hrequest, id⟩

theorem cache_forget_only (store : Store) (uri : String) :
    ((store.only uri).forget uri).cache = [] := by
  simp [forget, only, List.filter_eq_nil_iff]

/-- The retrieval that begins gets the next number among those of its document. -/
theorem retrievalRank_retrieve (store : Store) (uri : String) :
    (store.retrieve uri).retrievalRank uri store.retrievals.length =
      (store.only uri).retrievals.length := by
  rw [(store.later_retrieve uri).retrievalRank uri (Nat.le_refl _)]
  exact rank_length Retrieval.uri uri store.retrievals

theorem only_retrieve {store : Store} (hstore : store.WellFormed) (uri : String) :
    (store.retrieve uri).only uri = (store.only uri).retrieve uri := by
  have hcache : ((store.retrieve uri).only uri).cache =
      ((store.only uri).retrieve uri).cache := by
    change List.map _ ((store.retrieve uri).cached? uri).toList = _ :: _
    rw [cached?_retrieve_self, cache_forget_only, ← retrievalRank_retrieve]
    rfl
  have hretrievals : ((store.retrieve uri).only uri).retrievals =
      ((store.only uri).retrieve uri).retrievals := by
    change List.filter _ (store.retrievals ++ [_]) = _
    rw [List.filter_append, List.filter_cons_of_pos (by simp)]
    rfl
  have hrequests := hstore.requests_rebase (store.later_retrieve uri) uri
  exact Store.ext rfl rfl hcache hretrievals hrequests

theorem only_request_self {store : Store} (hstore : store.WellFormed) (uri : String) :
    (store.request uri).only uri = (store.only uri).request uri := by
  have hpulls : (store.only uri).pulls = store.pulls := rfl
  have hdefault : (store.only uri).default = store.default := rfl
  have hshared := shared?_only hstore uri
  cases hcan : store.pulls with
  | false => simp [request, hpulls, hcan, hdefault, only_addRequest, rebase]
  | true =>
      cases hkept : store.shared? uri with
      | none =>
          rw [hkept] at hshared
          simp [request, hpulls, hcan, hshared, hkept, only_addRequest, only_retrieve hstore,
            rebase, retrievalRank_retrieve]
      | some number =>
          rw [hkept] at hshared
          simp [request, hpulls, hcan, hshared, hkept, only_addRequest, rebase]

theorem only_cancel_self
    {store : Store} (hstore : store.WellFormed) {uri : String} {id : Nat} {request : Request}
    (hrequest : store.requests[id]? = some request) (huri : request.uri = uri) :
    (store.cancel id).only uri = (store.only uri).cancel (store.requestRank uri id) := by
  have hfound := only_request hrequest huri
  have hstands := progressOf_only hstore hrequest huri
  by_cases hpending : store.progressOf request = .pending
  · simp only [cancel, hrequest, hfound, hstands, if_pos hpending]
    have hrequests := filter_set_rank Request.uri uri { request with isCancelled := true }
      hrequest huri huri
    refine Store.ext rfl rfl rfl rfl ?_
    change List.map _ (List.filter _ (List.set _ _ _)) = _
    rw [hrequests, List.map_set]
    rfl
  · simp only [cancel, hrequest, hfound, hstands, if_neg hpending]

theorem awaited?_only
    {store : Store} {uri : String} {number : Nat} {outcome : Option Outcome}
    (hretrieval : store.retrievals[number]? = some ⟨uri, outcome⟩) :
    (store.only uri).awaited? (store.retrievalRank uri number) = store.awaited? number := by
  simp only [awaited?, only_retrieval hretrieval, hretrieval]

/-- A retrieval is kept for its document in the reduced store exactly if it is so in the
whole one. -/
theorem cached?_only_eq_iff
    {store : Store} (hstore : store.WellFormed) {uri : String} {number : Nat}
    {outcome : Option Outcome} (hretrieval : store.retrievals[number]? = some ⟨uri, outcome⟩) :
    (store.only uri).cached? uri = some (store.retrievalRank uri number) ↔
      store.cached? uri = some number := by
  rw [cached?_only]
  constructor
  · intro hranked
    obtain ⟨kept, hkept, hrank⟩ := Option.map_eq_some_iff.mp hranked
    obtain ⟨last, hlast, -⟩ := hstore.cached hkept
    rw [hkept, rank_inj Retrieval.uri uri hlast hretrieval rfl rfl hrank]
  · intro hkept
    rw [hkept, Option.map_some]

theorem only_finish
    {store : Store} (hstore : store.WellFormed) {uri : String} {number : Nat}
    {before : Option Outcome} (outcome : Outcome)
    (hretrieval : store.retrievals[number]? = some ⟨uri, before⟩)
    (hlater : store.Later (store.finish number uri outcome)) :
    (store.finish number uri outcome).only uri =
      (store.only uri).finish (store.retrievalRank uri number) uri outcome := by
  have hkept := cached?_only_eq_iff hstore hretrieval
  have hcache : ((store.finish number uri outcome).only uri).cache =
      ((store.only uri).finish (store.retrievalRank uri number) uri outcome).cache := by
    rw [finish_cache, cache_forget_only, ← hstore.cache_rank hlater uri, only, cached?_finish]
    -- A fallback drops what is kept here exactly if it does so there.
    by_cases hevicts : outcome.isFallback = true ∧ store.cached? uri = some number
    · rw [if_pos ⟨hevicts.1, hevicts.2, rfl⟩, if_pos ⟨hevicts.1, hkept.mpr hevicts.2⟩]
      rfl
    · rw [if_neg fun hall => hevicts ⟨hall.1, hall.2.1⟩,
        if_neg fun hall => hevicts ⟨hall.1, hkept.mp hall.2⟩]
  have hretrievals : ((store.finish number uri outcome).only uri).retrievals =
      ((store.only uri).finish (store.retrievalRank uri number) uri outcome).retrievals :=
    filter_set_rank Retrieval.uri uri ⟨uri, some outcome⟩ hretrieval rfl rfl
  have hrequests : ((store.finish number uri outcome).only uri).requests =
      ((store.only uri).finish (store.retrievalRank uri number) uri outcome).requests := by
    rw [finish_requests, ← hstore.requests_rebase hlater uri, only, finish_requests]
  refine Store.ext ?_ ?_ hcache hretrievals hrequests
  · rw [finish_default, only, finish_default, only]
  · rw [finish_pulls, only, finish_pulls, only]

theorem only_settle_self
    {store : Store} (hstore : store.WellFormed) {uri : String} {number : Nat}
    {outcome : Option Outcome} (answer : Answer)
    (hretrieval : store.retrievals[number]? = some ⟨uri, outcome⟩) :
    (store.settle number answer).result.only uri =
      ((store.only uri).settle (store.retrievalRank uri number) answer).result := by
  have hawaited := awaited?_only hretrieval
  have hdefault : (store.only uri).default = store.default := rfl
  have hlater : store.Later (store.settle number answer).result :=
    store.later_step (.settle number answer)
  cases hwaits : store.awaited? number with
  | none =>
      rw [hwaits] at hawaited
      simp only [settle, hwaits, hawaited]
  | some waiting =>
      obtain rfl : uri = waiting := by
        have hopen := (store.awaited?_eq_some_iff number waiting).mp hwaits
        rw [hretrieval] at hopen
        cases hopen
        rfl
      rw [hwaits] at hawaited
      simp only [settle, hwaits, hawaited, hdefault] at hlater ⊢
      exact only_finish hstore _ hretrieval hlater

theorem only_change (store : Store) (uri : String) (payload : Value) :
    (store.change payload).result.only uri = ((store.only uri).change payload).result := by
  have hdefault : (store.only uri).default = store.default := rfl
  simp only [change, hdefault]
  split <;> rfl

theorem only_forget_self (store : Store) (uri : String) :
    (store.forget uri).only uri = (store.only uri).forget uri := by
  refine Store.ext rfl rfl ?_ rfl rfl
  rw [cache_forget_only, only, cached?_forget_self]
  rfl

end Store

end Shorthand
