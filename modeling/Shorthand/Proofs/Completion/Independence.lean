import Mathlib.Tactic.Choose
import Shorthand.Proofs.Completion.Attempt
import Shorthand.Proofs.Completion.Containment

/-!
# Grammars do not disturb each other

The items of a line are those that each grammar yields alone, in order, and so are the
warnings.  Every grammar is accounted for once: it has an item, or it declined, or it left
one warning.  Only an abbreviation that starts outside of the text before the cursor takes
the items of the others with it.
-/

namespace Shorthand

/-- A line within the bounds of the protocol, all of whose ranges the client can be told. -/
structure LineContext.Bounded (line : LineContext) : Prop where
  number : IsCoordinate line.number
  length : line.text.length ≤ maxCoordinate
  mapRange : ∀ range, ∃ mapped, line.mapRange range = .ok mapped

/-- The scan of a line finds an abbreviation for a grammar, but outside of the text before
the cursor. -/
def StartsOutside (engine : Engine) (line : LineContext) (grammar : Grammar) : Prop :=
  ∃ error, scan engine grammar line.text line.cursor = .error error

/-- The scan of a line finds nothing for a grammar, and nothing is wrong. -/
def declines (engine : Engine) (line : LineContext) (grammar : Grammar) : Bool :=
  match scan engine grammar line.text line.cursor with
  | .ok .declined => true
  | _ => false

/-- What a grammar adds to the items of a line and to its warnings, by the cause. -/
inductive Contributes (engine : Engine) (line : LineContext) (grammar : Grammar) :
    List Item → List Record → Prop
  | item {abbreviation : Abbreviation} {snippet preview : List Char} {range : Range} :
      scan engine grammar line.text line.cursor = .ok (.found abbreviation) →
      engine.expandText grammar .snippet abbreviation.text = .ok snippet →
      engine.expandText grammar .preview abbreviation.text = .ok preview →
      Contributes engine line grammar [.of abbreviation.text ⟨preview, snippet, range⟩] []
  | declined :
      scan engine grammar line.text line.cursor = .ok .declined →
      Contributes engine line grammar [] []
  | fault {fault : ScanFault} :
      scan engine grammar line.text line.cursor = .ok (.fault fault) →
      Contributes engine line grammar [] [.contained warningLevel fault.message]
  | unexpanded {abbreviation : Abbreviation} {failure : ExpansionFailure} :
      scan engine grammar line.text line.cursor = .ok (.found abbreviation) →
      Unexpanded engine grammar abbreviation.text failure →
      Contributes engine line grammar [] [.contained warningLevel failure.message]

/-! ## One grammar alone -/

theorem completeLine_singleton (engine : Engine) (line : LineContext) (grammar : Grammar) :
    completeLine engine line [grammar] =
      ⟨(completionFor engine line grammar).result.map Option.toList,
        (completionFor engine line grammar).records⟩ := by
  rcases hfor : completionFor engine line grammar with ⟨abort | item, records⟩
  · simp only [completeLine, hfor]
    rfl
  · simp [completeLine, hfor, Except.map]

theorem LineContext.Bounded.editRange
    {line : LineContext} (hline : line.Bounded) {engine : Engine} {grammar : Grammar}
    {abbreviation : Abbreviation}
    (hfound : scan engine grammar line.text line.cursor = .ok (.found abbreviation)) :
    ∃ range, line.editRange abbreviation = .ok range := by
  obtain ⟨hnonneg, hle, -⟩ := bounds_of_scan_eq_found hfound
  have hcursor := clampCursor_le_length line.text line.cursor
  have hlength := hline.length
  have hstart : IsCoordinate abbreviation.start := ⟨hnonneg, by omega⟩
  have hstop : IsCoordinate
      (if line.replaces then (clampCursor line.text line.cursor : Int) else abbreviation.start) := by
    split
    · exact ⟨by omega, by omega⟩
    · exact hstart
  have hrange := replacementRange_eq_ok_iff.mpr ⟨hline.number, hstart, hstop, rfl⟩
  obtain ⟨mapped, hmapped⟩ := hline.mapRange _
  refine ⟨mapped, ?_⟩
  rw [LineContext.editRange, hrange]
  exact hmapped

/-- A grammar alone gives the line up exactly if what it finds starts outside. -/
theorem startsOutside_or_contributes
    {engine : Engine} {line : LineContext} (hline : line.Bounded) (grammar : Grammar) :
    (∃ error, scan engine grammar line.text line.cursor = .error error ∧
      completeLine engine line [grammar] = ⟨.error (.startOutside error), []⟩) ∨
    ∃ items, (completeLine engine line [grammar]).result = .ok items ∧
      Contributes engine line grammar items (completeLine engine line [grammar]).records := by
  have hattempt := attempt_completionFor engine line grammar
  rw [completeLine_singleton]
  generalize completionFor engine line grammar = outcome at hattempt
  cases hattempt with
  | startOutside hscan => exact .inl ⟨_, hscan, rfl⟩
  | declined hscan => exact .inr ⟨[], rfl, .declined hscan⟩
  | fault hscan => exact .inr ⟨[], rfl, .fault hscan⟩
  | unexpanded hscan hfailure => exact .inr ⟨[], rfl, .unexpanded hscan hfailure⟩
  | unwritable hscan hrange =>
      obtain ⟨range, hwritten⟩ := hline.editRange hscan
      rw [hrange] at hwritten
      cases hwritten
  | served hscan hsnippet hpreview hrange => exact .inr ⟨_, rfl, .item hscan hsnippet hpreview⟩

/-- A grammar has an item, or left a warning, or declined, and only one of these. -/
theorem Contributes.count
    {engine : Engine} {line : LineContext} {grammar : Grammar} {items : List Item}
    {records : List Record} (hcontributes : Contributes engine line grammar items records) :
    items.length + records.length + (if declines engine line grammar then 1 else 0) = 1 := by
  cases hcontributes with
  | item hscan => simp [declines, hscan]
  | declined hscan => simp [declines, hscan]
  | fault hscan => simp [declines, hscan]
  | unexpanded hscan => simp [declines, hscan]

theorem Contributes.not_startsOutside
    {engine : Engine} {line : LineContext} {grammar : Grammar} {items : List Item}
    {records : List Record} (hcontributes : Contributes engine line grammar items records) :
    ¬ StartsOutside engine line grammar := by
  rintro ⟨error, herror⟩
  cases hcontributes with
  | item hscan | declined hscan | fault hscan | unexpanded hscan =>
      rw [herror] at hscan
      cases hscan

/-- An attempt with a grammar asks the engine about that grammar only. -/
theorem completionFor_congr
    {engine other : Engine} {grammar : Grammar}
    (hextract : other.extract grammar = engine.extract grammar)
    (hexpand : other.expand grammar = engine.expand grammar) (line : LineContext) :
    completionFor other line grammar = completionFor engine line grammar := by
  have hscan : ∀ text cursor, scan other grammar text cursor = scan engine grammar text cursor := by
    intro text cursor
    simp only [scan, hextract]
  have hexpandText : other.expandText grammar = engine.expandText grammar := by
    funext rendition text
    simp only [Engine.expandText, hexpand]
  simp only [completionFor, extract, render, hscan, hexpandText]

/-! ## All grammars of a line -/

theorem completeLine_cons_of_alone
    {engine : Engine} {line : LineContext} {grammar : Grammar} {items : List Item}
    (rest : List Grammar) (halone : (completeLine engine line [grammar]).result = .ok items) :
    let more := completeLine engine line rest
    completeLine engine line (grammar :: rest) =
      ⟨more.result.map (items ++ ·),
        (completeLine engine line [grammar]).records ++ more.records⟩ := by
  rw [completeLine_singleton] at halone ⊢
  cases hfor : (completionFor engine line grammar).result with
  | error abort =>
      rw [hfor] at halone
      cases halone
  | ok item =>
      rw [hfor] at halone
      obtain rfl : item.toList = items := Except.ok.inj halone
      exact completeLine_cons_ok rest hfor

theorem completeLine_cons_of_abort
    {engine : Engine} {line : LineContext} {grammar : Grammar} {abort : Abort}
    (rest : List Grammar) (halone : (completeLine engine line [grammar]).result = .error abort) :
    (completeLine engine line (grammar :: rest)).result = .error abort := by
  rw [completeLine_singleton] at halone
  cases hfor : (completionFor engine line grammar).result with
  | error first =>
      rw [hfor] at halone
      rw [completeLine_cons_error rest hfor]
      exact halone
  | ok item =>
      rw [hfor] at halone
      cases halone

/-- Grammars that go well alone go well together: their items and their records follow each
other. -/
theorem completeLine_eq_flatMap
    {engine : Engine} {line : LineContext} {grammars : List Grammar}
    {items : Grammar → List Item}
    (halone : ∀ grammar ∈ grammars,
      (completeLine engine line [grammar]).result = .ok (items grammar)) :
    completeLine engine line grammars =
      ⟨.ok (grammars.flatMap items),
        grammars.flatMap fun grammar => (completeLine engine line [grammar]).records⟩ := by
  induction grammars with
  | nil => rfl
  | cons grammar rest ih =>
      have hrest := ih fun other hother => halone other (List.mem_cons_of_mem grammar hother)
      rw [completeLine_cons_of_alone rest (halone grammar List.mem_cons_self), hrest]
      rfl

theorem count_flatMap
    {engine : Engine} {line : LineContext} {grammars : List Grammar}
    {items : Grammar → List Item} {records : Grammar → List Record}
    (hcontributes : ∀ grammar ∈ grammars,
      Contributes engine line grammar (items grammar) (records grammar)) :
    (grammars.flatMap items).length + (grammars.flatMap records).length +
      grammars.countP (declines engine line) = grammars.length := by
  induction grammars with
  | nil => rfl
  | cons grammar rest ih =>
      have hrest := ih fun other hother =>
        hcontributes other (List.mem_cons_of_mem grammar hother)
      have hfirst := (hcontributes grammar List.mem_cons_self).count
      simp only [List.flatMap_cons, List.length_append, List.countP_cons, List.length_cons]
      omega

/-- The first grammar whose abbreviation starts outside gives the line up. -/
theorem completeLine_of_startsOutside
    {engine : Engine} {line : LineContext} (hline : line.Bounded) {grammars : List Grammar}
    (houtside : ∃ grammar ∈ grammars, StartsOutside engine line grammar) :
    ∃ before grammar rest error, grammars = before ++ grammar :: rest ∧
      (∀ other ∈ before, ¬ StartsOutside engine line other) ∧
      scan engine grammar line.text line.cursor = .error error ∧
      (completeLine engine line grammars).result = .error (.startOutside error) := by
  induction grammars with
  | nil => simp at houtside
  | cons grammar rest ih =>
      rcases startsOutside_or_contributes hline grammar with
        ⟨error, hscan, halone⟩ | ⟨items, halone, hcontributes⟩
      · -- No grammar before this one gave the line up.
        refine ⟨[], grammar, rest, error, rfl, by simp, hscan, ?_⟩
        exact completeLine_cons_of_abort rest (by rw [halone])
      · have hclear := hcontributes.not_startsOutside
        have hlater : ∃ other ∈ rest, StartsOutside engine line other := by
          obtain ⟨other, hother, hstarts⟩ := houtside
          rcases List.mem_cons.mp hother with rfl | hmem
          · exact absurd hstarts hclear
          · exact ⟨other, hmem, hstarts⟩
        obtain ⟨before, first, after, error, rfl, hbefore, hscan, hresult⟩ := ih hlater
        refine ⟨grammar :: before, first, after, error, rfl, ?_, hscan, ?_⟩
        · intro other hother
          rcases List.mem_cons.mp hother with rfl | hmem
          · exact hclear
          · exact hbefore other hmem
        · rw [completeLine_cons_of_alone _ halone, hresult]
          rfl

/-- Within bounds, and with a log for warnings.  If nothing starts outside, the items and
the records of a line are those that its grammars yield alone, in order, and every grammar
has an item, left a warning or declined.  What a grammar yields alone depends on how the
engine treats that grammar only.  If something starts outside, there is no item at all. -/
theorem grammars_accounted_for
    (engine : Engine) (line : LineContext) (grammars : List Grammar) (level : Int)
    (hline : line.Bounded) (hlevel : effectiveLevel level ≤ warningLevel) :
    let alone (grammar : Grammar) := completeLine engine line [grammar]
    let all := completeLine engine line grammars
    ((∀ grammar ∈ grammars, ¬ StartsOutside engine line grammar) →
      ∃ items : Grammar → List Item,
        (∀ grammar ∈ grammars, (alone grammar).result = .ok (items grammar) ∧
          Contributes engine line grammar (items grammar) (alone grammar).records) ∧
        all.result = .ok (grammars.flatMap items) ∧
        all.records = grammars.flatMap (fun grammar => (alone grammar).records) ∧
        (grammars.flatMap items).length + all.records.length +
          grammars.countP (declines engine line) = grammars.length) ∧
    clientMessages level all.records =
      all.records.map (fun record => (.warning, record.message)) ∧
    (∀ (other : Engine) (grammar : Grammar), other.extract grammar = engine.extract grammar →
      other.expand grammar = engine.expand grammar →
        completeLine other line [grammar] = alone grammar) ∧
    ((∃ grammar ∈ grammars, StartsOutside engine line grammar) →
      ∃ before grammar rest error, grammars = before ++ grammar :: rest ∧
        (∀ other ∈ before, ¬ StartsOutside engine line other) ∧
        scan engine grammar line.text line.cursor = .error error ∧
        all.result = .error (.startOutside error)) := by
  intro alone all
  refine ⟨?_, ?_, ?_, completeLine_of_startsOutside hline⟩
  · intro hclear
    have hgoes : ∀ grammar ∈ grammars, ∃ items, (alone grammar).result = .ok items ∧
        Contributes engine line grammar items (alone grammar).records := by
      intro grammar hgrammar
      rcases startsOutside_or_contributes hline grammar with ⟨error, hscan, -⟩ | hitems
      · exact absurd ⟨error, hscan⟩ (hclear grammar hgrammar)
      · exact hitems
    choose! items hitems using hgoes
    have hall : all = ⟨.ok (grammars.flatMap items), _⟩ :=
      completeLine_eq_flatMap fun grammar hgrammar => (hitems grammar hgrammar).1
    refine ⟨items, hitems, by rw [hall], by rw [hall], ?_⟩
    rw [hall]
    exact count_flatMap fun grammar hgrammar => (hitems grammar hgrammar).2
  · have hwarnings : ∀ record ∈ all.records, record.level = warningLevel :=
      fun _ hrecord => level_of_mem_completeLine hrecord
    rw [clientMessages_of_warningLevel_le hlevel fun record hrecord =>
      Int.le_of_eq (hwarnings record hrecord).symm]
    apply List.map_congr_left
    intro record hrecord
    rw [hwarnings record hrecord]
    rfl
  · intro other grammar hextract hexpand
    simp only [alone, completeLine_singleton, completionFor_congr hextract hexpand]

/-- A failed expansion for one grammar leaves the item of the other. -/
theorem failed_expansion_leaves_other_item :
    let engine : Engine :=
      ⟨fun _ _ _ => .ok (some ⟨0, ['a']⟩),
        fun grammar _ _ =>
          match grammar with
          | .markup => .ok [.text ['b']]
          | .stylesheet => .error .scanner⟩
    let line : LineContext := ⟨0, ['a'], 1, true, .ok⟩
    let all := completeLine engine line [.markup, .stylesheet]
    ∃ items : Grammar → List Item,
      items .markup = [.of ['a'] ⟨['b'], ['b'], ⟨⟨0, 0⟩, ⟨0, 1⟩⟩⟩] ∧
        items .stylesheet = [] ∧ all.result = .ok (items .markup ++ items .stylesheet) ∧
        all.records.length = 1 := by
  intro engine line all
  have hline : line.Bounded := by
    refine ⟨⟨?_, ?_⟩, ?_, fun range => ⟨range, rfl⟩⟩
    · decide
    · decide
    · decide
  have hclear : ∀ grammar ∈ [Grammar.markup, Grammar.stylesheet],
      ¬ StartsOutside engine line grammar := by
    rintro grammar - ⟨error, herror⟩
    cases grammar <;> cases herror
  obtain ⟨items, hitems, hresult, -, hcount⟩ :=
    (grammars_accounted_for engine line [.markup, .stylesheet] warningLevel hline
      (by decide)).1 hclear
  have hmarkup : items .markup = [.of ['a'] ⟨['b'], ['b'], ⟨⟨0, 0⟩, ⟨0, 1⟩⟩⟩] :=
    (Except.ok.inj (hitems .markup (by decide)).1).symm
  have hstylesheet : items .stylesheet = [] :=
    (Except.ok.inj (hitems .stylesheet (by decide)).1).symm
  refine ⟨items, hmarkup, hstylesheet, ?_, ?_⟩
  · simpa using hresult
  · have hdeclines : [Grammar.markup, Grammar.stylesheet].countP (declines engine line) = 0 := by
      decide
    have hlength :
        ([Grammar.markup, Grammar.stylesheet].flatMap items).length = 1 := by
      simp [hmarkup, hstylesheet]
    rw [hdeclines, hlength, List.length_cons, List.length_singleton] at hcount
    change 1 + all.records.length + 0 = 2 at hcount
    omega

end Shorthand
