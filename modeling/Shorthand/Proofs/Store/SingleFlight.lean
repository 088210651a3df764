import Mathlib.Data.List.Induction
import Shorthand.Proofs.Store.Settlement

/-!
# Single flight

While a document is open its settings are asked for once: a second retrieval begins
only after the document was closed, or after the first one failed or was cancelled.
At most one retrieval of a document is under way that no closing has cut off, and
that is the one kept for the document.
-/

namespace Shorthand

/-- Whether an answer leaves the client's settings unknown although it was given. -/
def Answer.fails : Answer → Bool
  | .settings payload => !payload.isSettings
  | .failure _ => true
  | .cancellation => false

theorem Answer.fails_of_isFallback
    {default : Routing} {uri : String} {answer : Answer}
    (hfallback : (answer.outcome default uri).result.isFallback = true) :
    answer.fails = true := by
  cases answer with
  | settings payload =>
      cases payload <;> simp_all [Answer.outcome, Outcome.isFallback, Routing.ofSettings,
        Answer.fails, Value.isSettings]
  | failure message => rfl
  | cancellation => simp [Answer.outcome, Outcome.isFallback] at hfallback

theorem Answer.outcome_ne_cancelled
    (default : Routing) (uri : String) {answer : Answer} (hgiven : answer ≠ .cancellation) :
    some (answer.outcome default uri).result ≠ some .cancelled := by
  cases answer with
  | settings payload => cases payload <;> simp [Answer.outcome, Routing.ofSettings]
  | failure message => simp [Answer.outcome]
  | cancellation => exact absurd rfl hgiven

namespace Store

/-- A request for a document begins a retrieval now. -/
def Begins (store : Store) (uri : String) : Prop :=
  (store.request uri).retrievals = store.retrievals ++ [⟨uri, none⟩]

/-- A retrieval of a document began before the document was last closed. -/
def Orphaned (store : Store) (events : List StoreEvent) (uri : String) (number : Nat) : Prop :=
  ∃ before rest, events = before ++ .close uri :: rest ∧ .close uri ∉ rest ∧
    number < (store.after before).retrievals.length

/-! ## When the client is asked -/

theorem begins_iff_lacks
    {store : Store} (uri : String) (hpulls : store.pulls = true) :
    store.Begins uri ↔ store.Lacks uri := by
  obtain ⟨number, -, -, ⟨hhas, -, h⟩ | ⟨hlacks, -, h⟩⟩ := request_bound uri hpulls
  · simp [Begins, h, hhas]
  · simp [Begins, h, hlacks]

theorem request_retrievals_of_not_begins
    {store : Store} {uri : String} (hpulls : store.pulls = true) (hbegins : ¬ store.Begins uri) :
    (store.request uri).retrievals = store.retrievals := by
  obtain ⟨number, -, -, ⟨-, -, h⟩ | ⟨-, -, h⟩⟩ := request_bound uri hpulls
  · exact h
  · exact absurd h hbegins

theorem retrieval_step_cases
    {store : Store} {event : StoreEvent} {number : Nat} {retrieval : Retrieval}
    (hretrieval : (store.step event).result.retrievals[number]? = some retrieval) :
    (∃ old, store.retrievals[number]? = some old ∧ old.uri = retrieval.uri ∧
      (retrieval.outcome = none → old = retrieval)) ∨
    (event = .request retrieval.uri ∧ store.pulls = true ∧ store.Begins retrieval.uri ∧
      store.retrievals.length = number) := by
  rcases store.step_retrievals_cases event with
    h | ⟨uri, rfl, hpulls, -, h⟩ | ⟨ended, answer, uri, -, hwaits, h⟩
  · rw [h] at hretrieval
    exact .inl ⟨retrieval, hretrieval, rfl, fun _ => rfl⟩
  · have hbegins : store.Begins uri := h
    rw [h, List.getElem?_append, List.getElem?_singleton] at hretrieval
    split at hretrieval
    · exact .inl ⟨retrieval, hretrieval, rfl, fun _ => rfl⟩
    · next hge =>
      split at hretrieval
      · next hzero =>
        cases hretrieval
        exact .inr ⟨rfl, hpulls, hbegins, by omega⟩
      · cases hretrieval
  · rw [h] at hretrieval
    by_cases hended : ended = number
    · subst ended
      have hlt := (List.getElem?_eq_some_iff.mp hwaits).1
      rw [List.getElem?_set_self hlt] at hretrieval
      cases hretrieval
      exact .inl ⟨_, hwaits, rfl, fun hopen => by cases hopen⟩
    · rw [List.getElem?_set_ne hended] at hretrieval
      exact .inl ⟨retrieval, hretrieval, rfl, fun _ => rfl⟩

/-- Every retrieval is begun by a request for its document. -/
theorem exists_request_of_retrieval
    {default : Routing} {pulls : Bool} {events : List StoreEvent} {number : Nat}
    {retrieval : Retrieval}
    (hretrieval :
      ((fresh default pulls).after events).retrievals[number]? = some retrieval) :
    ∃ before rest, events = before ++ .request retrieval.uri :: rest ∧
      ((fresh default pulls).after before).retrievals.length = number ∧
      ((fresh default pulls).after before).Begins retrieval.uri := by
  induction events using List.reverseRecOn generalizing retrieval with
  | nil => simp [fresh] at hretrieval
  | append_singleton events event ih =>
      rw [after_append, after_cons, after_nil] at hretrieval
      rcases retrieval_step_cases hretrieval with
        ⟨old, hold, huri, -⟩ | ⟨rfl, -, hbegins, hnumber⟩
      · obtain ⟨before, rest, rfl, hnumber, hbegins⟩ := ih hold
        rw [huri] at hbegins ⊢
        exact ⟨before, rest ++ [event], by simp, hnumber, hbegins⟩
      · exact ⟨events, [], rfl, hnumber, hbegins⟩

/-! ## What keeps a retrieval in its place -/

/-- A retrieval is kept for a document and was not cancelled. -/
def Keeps (store : Store) (uri : String) (number : Nat) : Prop :=
  store.cached? uri = some number ∧
    ∃ retrieval, store.retrievals[number]? = some retrieval ∧
      retrieval.outcome ≠ some .cancelled

theorem Keeps.not_lacks
    {store : Store} {uri : String} {number : Nat} (hkeeps : store.Keeps uri number) :
    ¬ store.Lacks uri := by
  obtain ⟨hcached, retrieval, hretrieval, hnot⟩ := hkeeps
  rintro (hnone | ⟨other, found, hother, hfound, hcancelled⟩)
  · rw [hcached] at hnone
    cases hnone
  · obtain rfl := Option.some.inj (hcached.symm.trans hother)
    obtain rfl := Option.some.inj (hretrieval.symm.trans hfound)
    exact hnot hcancelled

/-- Only three events end the keeping of a retrieval. -/
theorem Keeps.step
    {store : Store} {uri : String} {number : Nat} (hkeeps : store.Keeps uri number)
    (event : StoreEvent) :
    (store.step event).result.Keeps uri number ∨ event = .close uri ∨
      ∃ answer, event = .settle number answer ∧ (∃ waiting, store.awaited? number = some waiting) ∧
        (answer.fails = true ∨ answer = .cancellation) := by
  have hlacks := hkeeps.not_lacks
  obtain ⟨hcached, retrieval, hretrieval, hnot⟩ := hkeeps
  rcases store.step_cached?_cases event uri with
    hsame | ⟨-, -, hlack, -⟩ | ⟨hclose, -⟩ | ⟨ended, answer, rfl, hended, hwaits, hfallback, -⟩
  · rcases store.step_retrievals_cases event with
      h | ⟨other, -, -, -, h⟩ | ⟨ended, answer, other, rfl, hwaits, h⟩
    · exact .inl ⟨by rw [hsame, hcached], retrieval, by rw [h, hretrieval], hnot⟩
    · refine .inl ⟨by rw [hsame, hcached], retrieval, ?_, hnot⟩
      rw [h]
      exact getElem?_append_of_eq_some hretrieval
    · by_cases hnumber : ended = number
      · subst ended
        have hlt := (List.getElem?_eq_some_iff.mp hwaits).1
        by_cases hcancellation : answer = .cancellation
        · exact .inr (.inr ⟨answer, rfl, ⟨other, (awaited?_eq_some_iff _ _ _).mpr hwaits⟩,
            .inr hcancellation⟩)
        · refine .inl ⟨by rw [hsame, hcached], _, by rw [h, List.getElem?_set_self hlt], ?_⟩
          exact Answer.outcome_ne_cancelled store.default other hcancellation
      · refine .inl ⟨by rw [hsame, hcached], retrieval, ?_, hnot⟩
        rw [h, List.getElem?_set_ne hnumber, hretrieval]
  · exact absurd hlack hlacks
  · exact .inr (.inl hclose)
  · obtain rfl := Option.some.inj (hcached.symm.trans hended)
    exact .inr (.inr ⟨answer, rfl, ⟨uri, (awaited?_eq_some_iff _ _ _).mpr hwaits⟩,
      .inl (Answer.fails_of_isFallback hfallback)⟩)

/-- A retrieval that is not kept any more was cut off by a closing, failed, or was
cancelled on the way. -/
theorem Keeps.after
    {store : Store} {uri : String} {number : Nat} (hkeeps : store.Keeps uri number)
    (events : List StoreEvent) :
    (store.after events).Keeps uri number ∨ .close uri ∈ events ∨
      ∃ answer moment, store.Settles events number answer moment ∧
        (answer.fails = true ∨ answer = .cancellation) := by
  induction events generalizing store with
  | nil => exact .inl hkeeps
  | cons event rest ih =>
      rcases hkeeps.step event with hnext | rfl | ⟨answer, rfl, hawaited, hends⟩
      · rcases ih hnext with hlast | hclose | ⟨answer, moment, hsettles, hends⟩
        · exact .inl hlast
        · exact .inr (.inl (List.mem_cons_of_mem event hclose))
        · exact .inr (.inr ⟨answer, moment, hsettles.cons, hends⟩)
      · exact .inr (.inl List.mem_cons_self)
      · exact .inr (.inr ⟨answer, store.default, ⟨[], rest, rfl, hawaited, rfl⟩, hends⟩)

theorem Begins.keeps
    {store : Store} {uri : String} (hbegins : store.Begins uri) (hpulls : store.pulls = true) :
    (store.request uri).Keeps uri store.retrievals.length := by
  have hlacks := (begins_iff_lacks uri hpulls).mp hbegins
  obtain ⟨number, -, hcached, ⟨hhas, -⟩ | ⟨-, rfl, h⟩⟩ := request_bound uri hpulls
  · exact absurd hlacks hhas
  · exact ⟨hcached, ⟨uri, none⟩, by simp [h], by simp⟩

/-- Between two retrievals of a document the document was closed, or the first of
them failed or was cancelled. -/
theorem closed_or_ended_between
    {default : Routing} {events : List StoreEvent} {uri : String} {first second : Nat}
    {earlier later : Retrieval} (hlt : first < second)
    (hearlier : ((fresh default true).after events).retrievals[first]? = some earlier)
    (hlater : ((fresh default true).after events).retrievals[second]? = some later)
    (hfirst : earlier.uri = uri) (hsecond : later.uri = uri) :
    ∃ before middle rest,
      events = before ++ .request uri :: middle ++ .request uri :: rest ∧
      ((fresh default true).after before).retrievals.length = first ∧
      ((fresh default true).after (before ++ .request uri :: middle)).retrievals.length = second ∧
      (.close uri ∈ middle ∨ ∃ answer moment,
        (((fresh default true).after before).request uri).Settles middle first answer moment ∧
          (answer.fails = true ∨ answer = .cancellation)) := by
  subst hfirst
  obtain ⟨prior, rest, rfl, rfl, hbegins⟩ := exists_request_of_retrieval hlater
  rw [hsecond] at hbegins ⊢
  have hgrown := later_after ((fresh default true).after prior) (.request later.uri :: rest)
  rw [after_append] at hearlier
  obtain ⟨old, hold⟩ : ∃ old, ((fresh default true).after prior).retrievals[first]? = some old :=
    ⟨_, List.getElem?_eq_getElem hlt⟩
  have huri : old.uri = earlier.uri := by
    obtain ⟨outcome, hlast, -⟩ := hgrown.retrieval hold
    rw [hearlier] at hlast
    rw [Option.some.inj hlast]
  obtain ⟨before, middle, rfl, hstart, hbegan⟩ := exists_request_of_retrieval hold
  rw [huri] at hbegan ⊢
  refine ⟨before, middle, rest, rfl, hstart, rfl, ?_⟩
  have hpulls : ((fresh default true).after before).pulls = true := after_pulls rfl before
  have hkeeps := hbegan.keeps hpulls
  rw [hstart] at hkeeps
  rw [huri, after_append, after_cons] at hbegins
  rcases hkeeps.after middle with hstill | hended
  · have hlacks := (begins_iff_lacks _ (after_pulls (step_pulls hpulls _) middle)).mp hbegins
    exact absurd hlacks hstill.not_lacks
  · exact hended

/-! ## Retrievals under way -/

theorem Orphaned.append
    {store : Store} {events : List StoreEvent} {uri : String} {number : Nat} {event : StoreEvent}
    (horphaned : store.Orphaned events uri number) (hother : event ≠ .close uri) :
    store.Orphaned (events ++ [event]) uri number := by
  obtain ⟨before, rest, rfl, hlast, hlt⟩ := horphaned
  refine ⟨before, rest ++ [event], by simp, ?_, hlt⟩
  simp only [List.mem_append, List.mem_singleton, not_or]
  exact ⟨hlast, hother.symm⟩

/-- A retrieval under way is the one kept, or was cut off when the document was closed. -/
theorem cached_or_orphaned
    {default : Routing} {pulls : Bool} {events : List StoreEvent} {uri : String} {number : Nat}
    (hwaits :
      ((fresh default pulls).after events).retrievals[number]? = some ⟨uri, none⟩) :
    ((fresh default pulls).after events).cached? uri = some number ∨
      (fresh default pulls).Orphaned events uri number := by
  induction events using List.reverseRecOn with
  | nil => simp [fresh] at hwaits
  | append_singleton events event ih =>
      rw [after_append, after_cons, after_nil] at hwaits ⊢
      rcases retrieval_step_cases hwaits with
        ⟨old, hold, -, hsame⟩ | ⟨rfl, hpulls, hbegins, rfl⟩
      · rw [hsame rfl] at hold
        by_cases hclose : event = .close uri
        · subst event
          have hlt := (List.getElem?_eq_some_iff.mp hold).1
          exact .inr ⟨events, [], rfl, by simp, hlt⟩
        · rcases ih hold with hcached | horphaned
          · have hkeeps : ((fresh default pulls).after events).Keeps uri number :=
              ⟨hcached, _, hold, by simp⟩
            rcases hkeeps.step event with hnext | hclosed | ⟨answer, rfl, ⟨waiting, hawaited⟩, -⟩
            · exact .inl hnext.1
            · exact absurd hclosed hclose
            · rw [step_settle_retrieval answer hawaited] at hwaits
              cases hwaits
          · exact .inr (horphaned.append hclose)
      · exact .inl (hbegins.keeps hpulls).1

/-- The client is asked exactly when nothing is kept that a request could share; between
two retrievals of a document it was closed or the first one failed or was cancelled; a
retrieval under way is the one kept unless a closing cut it off; and what is kept has
not failed. -/
theorem single_flight_per_open_period (default : Routing) (events : List StoreEvent)
    (uri : String) :
    let start := fresh default true
    let store := start.after events
    (store.Begins uri ↔ store.Lacks uri) ∧
    (¬ store.Begins uri → (store.request uri).retrievals = store.retrievals) ∧
    (∀ first second earlier later, first < second →
      store.retrievals[first]? = some earlier → store.retrievals[second]? = some later →
      earlier.uri = uri → later.uri = uri →
      ∃ before middle rest,
        events = before ++ .request uri :: middle ++ .request uri :: rest ∧
        (start.after before).retrievals.length = first ∧
        (start.after (before ++ .request uri :: middle)).retrievals.length = second ∧
        (.close uri ∈ middle ∨ ∃ answer moment,
          ((start.after before).request uri).Settles middle first answer moment ∧
            (answer.fails = true ∨ answer = .cancellation))) ∧
    (∀ number, store.retrievals[number]? = some ⟨uri, none⟩ →
      store.cached? uri = some number ∨ start.Orphaned events uri number) ∧
    (∀ first second, store.retrievals[first]? = some ⟨uri, none⟩ →
      store.retrievals[second]? = some ⟨uri, none⟩ → ¬ start.Orphaned events uri first →
      ¬ start.Orphaned events uri second → first = second) ∧
    (∀ number, store.cached? uri = some number →
      ∃ outcome, store.retrievals[number]? = some ⟨uri, outcome⟩ ∧
        (outcome = none ∨ (∃ routing, outcome = some (.accepted routing)) ∨
          outcome = some .cancelled)) := by
  intro start store
  have hpulls : store.pulls = true := after_pulls rfl events
  refine ⟨begins_iff_lacks uri hpulls, request_retrievals_of_not_begins hpulls, ?_, ?_, ?_, ?_⟩
  · intro first second earlier later hlt hearlier hlater hfirst hsecond
    exact closed_or_ended_between hlt hearlier hlater hfirst hsecond
  · intro number hwaits
    exact cached_or_orphaned hwaits
  · intro first second hfirst hsecond hnotFirst hnotSecond
    have hfirstCached := (cached_or_orphaned hfirst).resolve_right hnotFirst
    have hsecondCached := (cached_or_orphaned hsecond).resolve_right hnotSecond
    exact Option.some.inj (hfirstCached.symm.trans hsecondCached)
  · intro number hcached
    obtain ⟨outcome, hretrieval, hkept⟩ :=
      (wellFormed_after_fresh default true events).cached hcached
    refine ⟨outcome, hretrieval, ?_⟩
    rcases outcome with _ | routing | routing | _
    · exact .inl rfl
    · exact .inr (.inl ⟨routing, rfl⟩)
    · exact absurd rfl (hkept routing)
    · exact .inr (.inr rfl)

end Store

end Shorthand
