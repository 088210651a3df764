import Shorthand.Document
import Shorthand.Log

/-!
# What a completion lets out

An engine may answer anything and may fail anywhere.  A failure to find or to expand
costs a grammar its item and leaves one warning; only an abbreviation that starts
elsewhere, or a range that cannot be written, gives up the whole completion.  Then
there is no item at all, and one error after the warnings.
-/

namespace Shorthand

/-- The item of a line for one grammar, none if the grammar gave up. -/
def itemFor (engine : Engine) (line : LineContext) (grammar : Grammar) : Option Item :=
  match (completionFor engine line grammar).result with
  | .ok item => item
  | .error _ => none

/-! ## One grammar -/

/-- An extraction reports a warning exactly if the engine failed, and then it yields
nothing. -/
theorem extract_cases (engine : Engine) (grammar : Grammar) (line : List Char) (cursor : Int) :
    (extract engine grammar line cursor).records = [] ∨
    ∃ message, extract engine grammar line cursor =
      ⟨.ok none, [.contained warningLevel message]⟩ := by
  unfold extract
  split
  · exact .inl rfl
  · exact .inl rfl
  · exact .inl rfl
  · next fault _ => exact .inr ⟨fault.message, rfl⟩

/-- A grammar reports a warning at most, and then it has no item and did not give up. -/
theorem completionFor_cases (engine : Engine) (line : LineContext) (grammar : Grammar) :
    (completionFor engine line grammar).records = [] ∨
    ∃ message, completionFor engine line grammar =
      ⟨.ok none, [.contained warningLevel message]⟩ := by
  rcases extract_cases engine grammar line.text line.cursor with hquiet | ⟨message, hfault⟩
  · rcases hextract : extract engine grammar line.text line.cursor with
      ⟨_ | _ | abbreviation, records⟩
    · rw [hextract] at hquiet
      exact .inl (by simpa [completionFor, hextract] using hquiet)
    · rw [hextract] at hquiet
      exact .inl (by simpa [completionFor, hextract] using hquiet)
    · rw [hextract] at hquiet
      obtain rfl : records = [] := hquiet
      cases hrender : render engine grammar line.placement abbreviation with
      | ok rendered => exact .inl (by simp [completionFor, hextract, hrender])
      | error error =>
          cases error with
          | expansion failure =>
              exact .inr ⟨failure.message, by simp [completionFor, hextract, hrender]⟩
          | range error => exact .inl (by simp [completionFor, hextract, hrender])
  · exact .inr ⟨message, by simp [completionFor, hfault]⟩

theorem level_of_mem_completionFor
    {engine : Engine} {line : LineContext} {grammar : Grammar} {record : Record}
    (hrecord : record ∈ (completionFor engine line grammar).records) :
    record.level = warningLevel := by
  rcases completionFor_cases engine line grammar with hquiet | ⟨message, hfault⟩
  · simp [hquiet] at hrecord
  · rw [hfault, List.mem_singleton] at hrecord
    rw [hrecord]
    rfl

/-! ## A line -/

theorem completeLine_cons_ok
    {engine : Engine} {line : LineContext} {grammar : Grammar} {item : Option Item}
    (rest : List Grammar) (hitem : (completionFor engine line grammar).result = .ok item) :
    let more := completeLine engine line rest
    completeLine engine line (grammar :: rest) =
      ⟨more.result.map (item.toList ++ ·),
        (completionFor engine line grammar).records ++ more.records⟩ := by
  rcases hfor : completionFor engine line grammar with ⟨result, records⟩
  rw [hfor] at hitem
  obtain rfl : result = .ok item := hitem
  simp only [completeLine, hfor]

theorem completeLine_cons_error
    {engine : Engine} {line : LineContext} {grammar : Grammar} {abort : Abort}
    (rest : List Grammar) (habort : (completionFor engine line grammar).result = .error abort) :
    completeLine engine line (grammar :: rest) =
      ⟨.error abort, (completionFor engine line grammar).records⟩ := by
  rcases hfor : completionFor engine line grammar with ⟨result, records⟩
  rw [hfor] at habort
  obtain rfl : result = .error abort := habort
  simp only [completeLine, hfor]

theorem completeLine_items
    {engine : Engine} {line : LineContext} {grammars : List Grammar} {items : List Item}
    (hitems : (completeLine engine line grammars).result = .ok items) :
    items = grammars.filterMap (itemFor engine line) := by
  induction grammars generalizing items with
  | nil =>
      obtain rfl : [] = items := by simpa [completeLine] using hitems
      rfl
  | cons grammar rest ih =>
      cases hfor : (completionFor engine line grammar).result with
      | error abort => simp [completeLine_cons_error rest hfor] at hitems
      | ok item =>
          have hitem : itemFor engine line grammar = item := by simp only [itemFor, hfor]
          cases hrest : (completeLine engine line rest).result with
          | error abort => simp [completeLine_cons_ok rest hfor, hrest, Except.map] at hitems
          | ok more =>
              obtain rfl : item.toList ++ more = items := by
                simpa [completeLine_cons_ok rest hfor, hrest, Except.map] using hitems
              rw [List.filterMap_cons, hitem, ih hrest]
              cases item <;> rfl

theorem level_of_mem_completeLine
    {engine : Engine} {line : LineContext} {grammars : List Grammar} {record : Record}
    (hrecord : record ∈ (completeLine engine line grammars).records) :
    record.level = warningLevel := by
  induction grammars with
  | nil => simp [completeLine] at hrecord
  | cons grammar rest ih =>
      cases hfor : (completionFor engine line grammar).result with
      | error abort =>
          rw [completeLine_cons_error rest hfor] at hrecord
          exact level_of_mem_completionFor hrecord
      | ok item =>
          rw [completeLine_cons_ok rest hfor, List.mem_append] at hrecord
          rcases hrecord with hfirst | hmore
          · exact level_of_mem_completionFor hfirst
          · exact ih hmore

/-! ## The reports that a log lets through -/

theorem passes_of_warningLevel_le
    {level recordLevel : Int} (hlevel : effectiveLevel level ≤ warningLevel)
    (hrecord : warningLevel ≤ recordLevel) : passes level recordLevel = true := by
  have hpositive : 0 < warningLevel := by decide
  simp only [passes, Bool.and_eq_true, decide_eq_true_eq]
  omega

/-- A log for warnings keeps nothing of a completion from its client. -/
theorem clientMessages_of_warningLevel_le
    {level : Int} {records : List Record} (hlevel : effectiveLevel level ≤ warningLevel)
    (hrecords : ∀ record ∈ records, warningLevel ≤ record.level) :
    clientMessages level records =
      records.map fun record => (.ofLevel record.level, record.message) := by
  have hall : records.filter (fun record => passes level record.level) = records := by
    rw [List.filter_eq_self]
    intro record hrecord
    exact passes_of_warningLevel_le hlevel (hrecords record hrecord)
  rw [clientMessages, hall]

/-! ## A whole completion -/

/-- A completion of a line for some grammars is contained: it yields what the grammars
yield, each an item at most, with no report worse than a warning; or it was given up, and
yields nothing but one error after the warnings.  A log for warnings drops none of it. -/
structure Contained (engine : Engine) (line : LineContext) (grammars : List Grammar)
    (items : List Item) (records : List Record) : Prop where
  items_length_le : items.length ≤ grammars.length
  served : ∀ {all : List Item}, (completeLine engine line grammars).result = .ok all →
    items = all ∧ all = grammars.filterMap (itemFor engine line) ∧
      ∀ record ∈ records, record.level = warningLevel
  givenUp : ∀ {abort : Abort}, (completeLine engine line grammars).result = .error abort →
    items = [] ∧ ∃ warnings, (∀ record ∈ warnings, record.level = warningLevel) ∧
      records = warnings ++ [.contained errorLevel abort.message]
  heard : ∀ {level : Int}, effectiveLevel level ≤ warningLevel →
    clientMessages level records =
      records.map fun record => (.ofLevel record.level, record.message)

theorem contained_contain (engine : Engine) (line : LineContext) (grammars : List Grammar) :
    Contained engine line grammars (contain (completeLine engine line grammars)).result
      (contain (completeLine engine line grammars)).records := by
  have hwarnings : ∀ record ∈ (completeLine engine line grammars).records,
      record.level = warningLevel := fun _ hrecord => level_of_mem_completeLine hrecord
  rcases hline : completeLine engine line grammars with ⟨abort | all, records⟩
  · rw [hline] at hwarnings
    refine ⟨Nat.zero_le _, ?_, ?_, ?_⟩
    · intro all hall
      simp [hline] at hall
    · intro other hother
      obtain rfl : abort = other := by simpa [hline] using hother
      exact ⟨rfl, records, hwarnings, rfl⟩
    · intro level hlevel
      apply clientMessages_of_warningLevel_le hlevel
      intro record hrecord
      rcases List.mem_append.mp hrecord with hwarning | herror
      · exact Int.le_of_eq (hwarnings record hwarning).symm
      · have herrors : warningLevel ≤ errorLevel := by decide
        rw [List.mem_singleton.mp herror]
        exact herrors
  · have hitems : all = grammars.filterMap (itemFor engine line) :=
      completeLine_items (by rw [hline])
    rw [hline] at hwarnings
    refine ⟨?_, ?_, ?_, ?_⟩
    · change all.length ≤ grammars.length
      rw [hitems]
      exact List.length_filterMap_le _ _
    · intro other hother
      obtain rfl : all = other := by simpa [hline] using hother
      exact ⟨rfl, hitems, hwarnings⟩
    · intro abort habort
      simp [hline] at habort
    · intro level hlevel
      apply clientMessages_of_warningLevel_le hlevel
      intro record hrecord
      exact Int.le_of_eq (hwarnings record hrecord).symm

/-- A completion in a document is that of its line, for the grammars of its language. -/
theorem Document.complete_eq_contain
    (document : Document) (engine : Engine) (routing : Routing) (replaces : Bool)
    (position : Position) :
    document.complete engine routing replaces position =
      contain (completeLine engine (document.line replaces position)
        (routing.grammars document.language)) := by
  cases hgrammars : routing.grammars document.language with
  | nil => simp [Document.complete, hgrammars, completeLine, contain]
  | cons grammar rest => simp [Document.complete, hgrammars]

/-- Every completion in a document is contained, whatever the engine does. -/
theorem Document.contained_complete
    (document : Document) (engine : Engine) (routing : Routing) (replaces : Bool)
    (position : Position) :
    Contained engine (document.line replaces position) (routing.grammars document.language)
      (document.complete engine routing replaces position).result
      (document.complete engine routing replaces position).records := by
  rw [document.complete_eq_contain]
  exact contained_contain engine _ _

end Shorthand
