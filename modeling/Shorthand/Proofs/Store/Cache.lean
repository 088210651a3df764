import Shorthand.Store

/-!
# The cache of a settings store

Forgetting a document and beginning a retrieval for it, as a reader of the cache
sees them: each touches the entry of its own document and no other.
-/

namespace Shorthand

/-! ## Entries by their key -/

theorem find?_filter_key_self (entries : List (String × Nat)) (key : String) :
    (entries.filter (·.1 != key)).find? (·.1 == key) = none := by
  rw [List.find?_eq_none]
  intro entry hentry
  have hkept := (List.mem_filter.mp hentry).2
  simpa using hkept

theorem find?_filter_key_of_ne
    (entries : List (String × Nat)) {key other : String} (hne : other ≠ key) :
    (entries.filter (·.1 != key)).find? (·.1 == other) = entries.find? (·.1 == other) := by
  rw [List.find?_filter]
  congr 1
  funext entry
  by_cases hentry : entry.1 = other
  · simp [hentry, hne]
  · simp [hentry]

namespace Store

theorem cached?_eq_of_cache_eq
    {store other : Store} (hcache : store.cache = other.cache) (uri : String) :
    store.cached? uri = other.cached? uri := by
  simp only [cached?, hcache]

/-! ## Forgetting a document -/

theorem cached?_forget_self (store : Store) (uri : String) :
    (store.forget uri).cached? uri = none := by
  simp only [cached?, forget, find?_filter_key_self, Option.map_none]

theorem cached?_forget_of_ne
    (store : Store) {uri other : String} (hne : other ≠ uri) :
    (store.forget uri).cached? other = store.cached? other := by
  simp only [cached?, forget, find?_filter_key_of_ne store.cache hne]

theorem forget_eq_self
    {store : Store} {uri : String} (hnone : store.cached? uri = none) :
    store.forget uri = store := by
  have habsent : ∀ entry ∈ store.cache, ¬ (entry.1 == uri) = true := by
    simpa only [cached?, Option.map_eq_none_iff, List.find?_eq_none] using hnone
  have hcache : store.cache.filter (·.1 != uri) = store.cache := by
    rw [List.filter_eq_self]
    intro entry hentry
    simpa using habsent entry hentry
  simp only [forget, hcache]

theorem forget_forget (store : Store) (uri : String) :
    (store.forget uri).forget uri = store.forget uri :=
  forget_eq_self (cached?_forget_self store uri)

/-! ## Beginning a retrieval -/

theorem cached?_retrieve_self (store : Store) (uri : String) :
    (store.retrieve uri).cached? uri = some store.retrievals.length := by
  simp [cached?, retrieve]

theorem cached?_retrieve_of_ne
    (store : Store) {uri other : String} (hne : other ≠ uri) :
    (store.retrieve uri).cached? other = store.cached? other := by
  have hhead : (uri == other) = false := by simpa using hne.symm
  have hrest := cached?_forget_of_ne store hne
  simp only [cached?, retrieve, List.find?_cons, hhead] at hrest ⊢
  exact hrest

end Store

/-! ## Where a retrieval stands -/

theorem Retrieval.progress_eq_cancelled_iff (retrieval : Retrieval) :
    retrieval.progress = .cancelled ↔ retrieval.outcome = some .cancelled := by
  rcases retrieval with ⟨uri, outcome⟩
  rcases outcome with _ | _ | _ | _ <;> simp [Retrieval.progress]

theorem Retrieval.progress_eq_pending_iff (retrieval : Retrieval) :
    retrieval.progress = .pending ↔ retrieval.outcome = none := by
  rcases retrieval with ⟨uri, outcome⟩
  rcases outcome with _ | _ | _ | _ <;> simp [Retrieval.progress]

namespace Store

/-! ## Sharing a retrieval -/

/-- Nothing is kept for a document, or what is kept was cancelled. -/
def Lacks (store : Store) (uri : String) : Prop :=
  store.cached? uri = none ∨
    ∃ number retrieval, store.cached? uri = some number ∧
      store.retrievals[number]? = some retrieval ∧ retrieval.outcome = some .cancelled

theorem shared?_eq_none_iff (store : Store) (uri : String) :
    store.shared? uri = none ↔ store.Lacks uri := by
  cases hcached : store.cached? uri with
  | none => simp [shared?, Lacks, hcached]
  | some number => simp [shared?, Lacks, hcached, Retrieval.progress_eq_cancelled_iff]

theorem cached?_of_shared?
    {store : Store} {uri : String} {number : Nat} (hshared : store.shared? uri = some number) :
    store.cached? uri = some number := by
  simp only [shared?, Option.filter_eq_some_iff] at hshared
  exact hshared.1

end Store

end Shorthand
