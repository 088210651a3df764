import Shorthand.Proofs.Store.Reduction

/-!
# Documents do not disturb each other

A document is served as if it were alone.  Leave out of a run all that happens to other
documents, and number what remains anew: its requests end in the same way, the client is
asked for its settings as often, and what is kept for it stands in the same way after
each event that remains.
-/

namespace Shorthand

namespace StoreEvent

/-- Whether an event is about all documents. -/
def isShared : StoreEvent → Bool
  | .change _ | .enablePull => true
  | _ => false

/-- Whether an event remains when a run is reduced to a document. -/
def concerns (store : Store) (uri : String) (event : StoreEvent) : Bool :=
  event.isShared || event.document? store == some uri

/-- An event with the numbers that a document's requests and retrievals have among
themselves. -/
def renumber (store : Store) (uri : String) : StoreEvent → StoreEvent
  | .cancel id => .cancel (store.requestRank uri id)
  | .settle number answer => .settle (store.retrievalRank uri number) answer
  | event => event

end StoreEvent

namespace Store

/-- What remains of a run when all that belongs to other documents is left out. -/
def eventsFor (store : Store) (uri : String) : List StoreEvent → List StoreEvent
  | [] => []
  | event :: rest =>
    let more := (store.step event).result.eventsFor uri rest
    if event.concerns store uri then event.renumber store uri :: more else more

theorem eventsFor_append (store : Store) (uri : String) (events more : List StoreEvent) :
    store.eventsFor uri (events ++ more) =
      store.eventsFor uri events ++ (store.after events).eventsFor uri more := by
  induction events generalizing store with
  | nil => rfl
  | cons event rest ih =>
      simp only [List.cons_append, eventsFor, after_cons, ih]
      split <;> rfl

/-! ## The reduction of a run -/

theorem step_of_document?_eq_none
    {store : Store} {event : StoreEvent} (hnone : event.document? store = none)
    (hshared : event.isShared = false) : (store.step event).result = store := by
  cases event with
  | request uri => cases hnone
  | cancel id =>
      have habsent : store.requests[id]? = none := Option.map_eq_none_iff.mp hnone
      simp only [step, cancel, habsent]
  | settle number answer =>
      have habsent : store.retrievals[number]? = none := Option.map_eq_none_iff.mp hnone
      rcases store.settle_cases number answer with ⟨-, h⟩ | ⟨uri, hwaits, -⟩
      · rw [step, h]
      · rw [habsent] at hwaits
        cases hwaits
  | change payload => cases hshared
  | close uri => cases hnone
  | enablePull => cases hshared

theorem only_step_of_not_concerns
    {store : Store} (hstore : store.WellFormed) {event : StoreEvent} {uri : String}
    (hconcerns : event.concerns store uri = false) :
    (store.step event).result.only uri = store.only uri := by
  obtain ⟨hshared, hother⟩ : event.isShared = false ∧ event.document? store ≠ some uri := by
    simpa [StoreEvent.concerns] using hconcerns
  cases hdocument : event.document? store with
  | none => rw [step_of_document?_eq_none hdocument hshared]
  | some other =>
      have hne : uri ≠ other := by
        rintro rfl
        exact hother hdocument
      exact only_step_of_ne hstore hdocument hne

/-- What happens to a document happens to it in the reduced store. -/
theorem only_step_of_document
    {store : Store} (hstore : store.WellFormed) {event : StoreEvent} {uri : String}
    (hdocument : event.document? store = some uri) :
    (store.step event).result.only uri =
      ((store.only uri).step (event.renumber store uri)).result := by
  cases event with
  | request asked =>
      obtain rfl : asked = uri := Option.some.inj hdocument
      exact only_request_self hstore asked
  | cancel id =>
      obtain ⟨request, hrequest, huri⟩ := Option.map_eq_some_iff.mp hdocument
      exact only_cancel_self hstore hrequest huri
  | settle number answer =>
      obtain ⟨⟨same, outcome⟩, hretrieval, rfl⟩ := Option.map_eq_some_iff.mp hdocument
      exact only_settle_self hstore answer hretrieval
  | change payload => cases hdocument
  | close closed =>
      obtain rfl : closed = uri := Option.some.inj hdocument
      exact store.only_forget_self closed
  | enablePull => cases hdocument

theorem only_step_of_concerns
    {store : Store} (hstore : store.WellFormed) {event : StoreEvent} {uri : String}
    (hconcerns : event.concerns store uri = true) :
    (store.step event).result.only uri =
      ((store.only uri).step (event.renumber store uri)).result := by
  by_cases hdocument : event.document? store = some uri
  · exact only_step_of_document hstore hdocument
  · have hshared : event.isShared = true := by
      simpa [StoreEvent.concerns, hdocument] using hconcerns
    cases event with
    | change payload => exact store.only_change uri payload
    | enablePull => rfl
    | request _ | cancel _ | settle _ _ | close _ => cases hshared

theorem only_after
    {store : Store} (hstore : store.WellFormed) (uri : String) (events : List StoreEvent) :
    (store.after events).only uri = (store.only uri).after (store.eventsFor uri events) := by
  induction events generalizing store with
  | nil => rfl
  | cons event rest ih =>
      have hrest := ih (hstore.step event)
      rw [after_cons, hrest, eventsFor]
      cases hconcerns : event.concerns store uri with
      | true =>
          rw [only_step_of_concerns hstore hconcerns, if_pos rfl, after_cons]
      | false =>
          rw [only_step_of_not_concerns hstore hconcerns, if_neg Bool.false_ne_true]

/-! ## What a document sees -/

/-- What can be seen of one document. -/
@[ext]
structure View where
  /-- Where the requests for it stand, in their order. -/
  standing : List Progress
  /-- The retrievals of its settings, in their order. -/
  retrievals : List Retrieval
  /-- The retrieval that is kept for it. -/
  kept : Option Retrieval

def view (store : Store) (uri : String) : View where
  standing := (store.requests.filter (·.uri == uri)).map store.progressOf
  retrievals := store.retrievals.filter (·.uri == uri)
  kept := (store.cached? uri).bind (store.retrievals[·]?)

theorem view_only {store : Store} (hstore : store.WellFormed) (uri : String) :
    (store.only uri).view uri = store.view uri := by
  have hstanding : ((store.only uri).view uri).standing = (store.view uri).standing := by
    have hall : (store.only uri).requests.filter (·.uri == uri) = (store.only uri).requests := by
      rw [List.filter_eq_self]
      intro request hrequest
      obtain ⟨original, horiginal, rfl⟩ := List.mem_map.mp hrequest
      exact (List.mem_filter.mp horiginal).2
    change List.map _ ((store.only uri).requests.filter (·.uri == uri)) = _
    rw [hall]
    change List.map _ (List.map _ _) = List.map _ _
    rw [List.map_map]
    apply List.map_congr_left
    intro request hrequest
    obtain ⟨hmem, huri⟩ := List.mem_filter.mp hrequest
    obtain ⟨id, hid⟩ := List.mem_iff_getElem?.mp hmem
    exact progressOf_only hstore hid (by simpa using huri)
  have hretrievals : ((store.only uri).view uri).retrievals = (store.view uri).retrievals := by
    change List.filter _ (List.filter _ _) = List.filter _ _
    rw [List.filter_filter]
    simp only [Bool.and_self]
  have hkept : ((store.only uri).view uri).kept = (store.view uri).kept := by
    rw [view, cached?_only, view]
    cases hcached : store.cached? uri with
    | none => rfl
    | some number =>
        obtain ⟨outcome, hretrieval, -⟩ := hstore.cached hcached
        simp only [Option.map_some, Option.bind_some, only_retrieval hretrieval, hretrieval]
  exact View.ext hstanding hretrievals hkept

/-! ## Events of different documents -/

theorem document?_later
    {store later : Store} (hlater : store.Later later) {event : StoreEvent} {uri : String}
    (hdocument : event.document? store = some uri) : event.document? later = some uri := by
  cases event with
  | cancel id =>
      obtain ⟨request, hrequest, rfl⟩ := Option.map_eq_some_iff.mp hdocument
      obtain ⟨isCancelled, hkept, -⟩ := hlater.request hrequest
      simp only [StoreEvent.document?, hkept, Option.map_some]
  | settle number answer =>
      obtain ⟨retrieval, hretrieval, rfl⟩ := Option.map_eq_some_iff.mp hdocument
      obtain ⟨outcome, hkept, -⟩ := hlater.retrieval hretrieval
      simp only [StoreEvent.document?, hkept, Option.map_some]
  | request _ | change _ | close _ | enablePull => exact hdocument

theorem renumber_later
    {store later : Store} (hlater : store.Later later) {event : StoreEvent} {uri : String}
    (hdocument : event.document? store = some uri) :
    event.renumber later uri = event.renumber store uri := by
  cases event with
  | cancel id =>
      obtain ⟨request, hrequest, -⟩ := Option.map_eq_some_iff.mp hdocument
      simp only [StoreEvent.renumber, hlater.requestRank uri (le_length_of_getElem? hrequest)]
  | settle number answer =>
      obtain ⟨retrieval, hretrieval, -⟩ := Option.map_eq_some_iff.mp hdocument
      simp only [StoreEvent.renumber,
        hlater.retrievalRank uri (le_length_of_getElem? hretrieval)]
  | request _ | change _ | close _ | enablePull => rfl

/-- What happens to another document first makes no difference to what happens next. -/
theorem only_step_step_of_ne
    {store : Store} (hstore : store.WellFormed) {first second : StoreEvent}
    {one other uri : String} (hfirst : first.document? store = some one)
    (hsecond : second.document? store = some other) (hne : uri ≠ one) :
    (((store.step first).result).step second).result.only uri =
      (store.step second).result.only uri := by
  have hlater := store.later_step first
  -- What the second event names is there already, so it keeps its document and its number.
  have hmoved := document?_later hlater hsecond
  have hskipped := only_step_of_ne hstore hfirst hne
  by_cases hother : uri = other
  · subst other
    rw [only_step_of_document (hstore.step first) hmoved, hskipped,
      renumber_later hlater hsecond, only_step_of_document hstore hsecond]
  · rw [only_step_of_ne (hstore.step first) hmoved hother, hskipped,
      only_step_of_ne hstore hsecond hother]

/-- Events of different documents commute for every document. -/
theorem only_step_comm
    {store : Store} (hstore : store.WellFormed) {first second : StoreEvent}
    {one other : String} (hfirst : first.document? store = some one)
    (hsecond : second.document? store = some other) (hne : one ≠ other) (uri : String) :
    (store.after [first, second]).only uri = (store.after [second, first]).only uri := by
  have hfirstLater := document?_later (store.later_step second) hfirst
  have hsecondLater := document?_later (store.later_step first) hsecond
  simp only [after_cons, after_nil]
  by_cases hone : uri = one
  · subst one
    rw [only_step_of_ne (hstore.step first) hsecondLater hne,
      only_step_step_of_ne hstore hsecond hfirst hne]
  · rw [only_step_step_of_ne hstore hfirst hsecond hone,
      only_step_of_ne (hstore.step second) hfirstLater hone]

/-- A run and what remains of it when all that belongs to other documents is left out show
the document the same, after every event that remains.  And events of different documents
commute, as far as any document can see. -/
theorem document_served_as_if_alone
    (default : Routing) (pulls : Bool) (events : List StoreEvent) (uri : String) :
    let start := fresh default pulls
    let full := start.after events
    let alone := start.after (start.eventsFor uri events)
    alone.view uri = full.view uri ∧
    alone.default = full.default ∧
    (∀ more, start.eventsFor uri (events ++ more) =
      start.eventsFor uri events ++ full.eventsFor uri more) ∧
    ∀ first second one other, first.document? full = some one →
      second.document? full = some other → one ≠ other → ∀ any,
        (full.after [first, second]).view any = (full.after [second, first]).view any := by
  intro start full alone
  have hfull : full.WellFormed := wellFormed_after_fresh default pulls events
  have halone : full.only uri = alone := by
    have hreduced := only_after (wellFormed_fresh default pulls) uri events
    rw [only_fresh] at hreduced
    exact hreduced
  refine ⟨?_, ?_, start.eventsFor_append uri events, ?_⟩
  · rw [← halone]
    exact view_only hfull uri
  · rw [← halone]
    rfl
  · intro first second one other hfirst hsecond hne any
    rw [← view_only (hfull.after [first, second]) any,
      ← view_only (hfull.after [second, first]) any,
      only_step_comm hfull hfirst hsecond hne any]

example :
    (fresh .initial true).eventsFor "b"
        [.request "a", .request "b", .change .null, .settle 1 (.failure []), .cancel 0] =
      [.request "b", .change .null, .settle 0 (.failure [])] := rfl

end Store

end Shorthand
