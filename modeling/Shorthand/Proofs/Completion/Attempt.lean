import Shorthand.Completion

/-!
# One grammar at one line

What an attempt with one grammar comes to is decided by the scan, then by the two
expansions, then by the range.  An abbreviation that is found starts within the text
before the cursor, so its range can be written wherever the line can.
-/

namespace Shorthand

/-! ## The cursor and what is found before it -/

theorem clampCursor_le_length (line : List Char) (cursor : Int) :
    clampCursor line cursor ≤ line.length :=
  Nat.min_le_left _ _

theorem scan_clampCursor
    (engine : Engine) (grammar : Grammar) (line : List Char) (cursor : Int) :
    scan engine grammar line (clampCursor line cursor) = scan engine grammar line cursor := by
  have hclamp : clampCursor line (clampCursor line cursor) = clampCursor line cursor := by
    rw [clampCursor, clampCursor, Int.toNat_natCast, ← Nat.min_assoc, Nat.min_self]
  simp only [scan, hclamp]

/-- What is found starts before the cursor, or at it, and has a text. -/
theorem bounds_of_scan_eq_found
    {engine : Engine} {grammar : Grammar} {line : List Char} {cursor : Int}
    {abbreviation : Abbreviation}
    (hfound : scan engine grammar line cursor = .ok (.found abbreviation)) :
    0 ≤ abbreviation.start ∧ abbreviation.start ≤ clampCursor line cursor ∧
      abbreviation.text ≠ [] := by
  unfold scan at hfound
  dsimp only at hfound
  split at hfound
  · cases hfound
  · split at hfound
    · cases hfound
    · cases hfound
    · next found _ =>
      split at hfound
      · cases hfound
      · next hempty =>
        split at hfound
        · next hbounds =>
          cases hfound
          refine ⟨hbounds.1, hbounds.2, ?_⟩
          simpa using hempty
        · cases hfound

/-! ## Ranges that can be written -/

/-- A number that a position may have. -/
def IsCoordinate (value : Int) : Prop := 0 ≤ value ∧ value ≤ maxCoordinate

theorem coordinate_eq_ok_iff {name : String} {value : Int} {number : Nat} :
    coordinate name value = .ok number ↔ IsCoordinate value ∧ number = value.toNat := by
  unfold coordinate
  split
  · next hvalue =>
    constructor
    · rintro ⟨rfl⟩
      exact ⟨hvalue, rfl⟩
    · rintro ⟨-, rfl⟩
      rfl
  · next hvalue =>
    constructor
    · rintro ⟨⟩
    · rintro ⟨hcoordinate, -⟩
      exact absurd hcoordinate hvalue

theorem bind_eq_ok_iff
    {ε α β : Type} {first : Except ε α} {next : α → Except ε β} {result : β} :
    (first >>= next) = .ok result ↔ ∃ value, first = .ok value ∧ next value = .ok result := by
  cases first with
  | error error => simp [bind, Except.bind]
  | ok value => simp [bind, Except.bind]

theorem position_eq_ok_iff {line character : Int} {position : Position} :
    Position.of line character = .ok position ↔
      IsCoordinate line ∧ IsCoordinate character ∧
        position = ⟨line.toNat, character.toNat⟩ := by
  simp only [Position.of, bind_eq_ok_iff, coordinate_eq_ok_iff]
  constructor
  · rintro ⟨_, ⟨hline, rfl⟩, _, ⟨hcharacter, rfl⟩, ⟨rfl⟩⟩
    exact ⟨hline, hcharacter, rfl⟩
  · rintro ⟨hline, hcharacter, rfl⟩
    exact ⟨_, ⟨hline, rfl⟩, _, ⟨hcharacter, rfl⟩, rfl⟩

/-- A range is written exactly if its numbers can be, and then it runs from the start to
the cursor, or is empty. -/
theorem replacementRange_eq_ok_iff
    {line start cursor : Int} {replaces : Bool} {range : Range} :
    let stop := if replaces then cursor else start
    replacementRange line start cursor replaces = .ok range ↔
      IsCoordinate line ∧ IsCoordinate start ∧ IsCoordinate stop ∧
        range = ⟨⟨line.toNat, start.toNat⟩, ⟨line.toNat, stop.toNat⟩⟩ := by
  intro stop
  simp only [replacementRange, Range.of, bind_eq_ok_iff, position_eq_ok_iff]
  constructor
  · rintro ⟨_, ⟨hline, hstart, rfl⟩, _, ⟨-, hstop, rfl⟩, ⟨rfl⟩⟩
    exact ⟨hline, hstart, hstop, rfl⟩
  · rintro ⟨hline, hstart, hstop, rfl⟩
    exact ⟨_, ⟨hline, hstart, rfl⟩, _, ⟨hline, hstop, rfl⟩, rfl⟩

/-! ## What an attempt comes to -/

/-- The snippet or the preview of an abbreviation cannot be made. -/
inductive Unexpanded (engine : Engine) (grammar : Grammar) (text : List Char) :
    ExpansionFailure → Prop
  | snippet {failure : ExpansionFailure} :
      engine.expandText grammar .snippet text = .error failure →
      Unexpanded engine grammar text failure
  | preview {snippet : List Char} {failure : ExpansionFailure} :
      engine.expandText grammar .snippet text = .ok snippet →
      engine.expandText grammar .preview text = .error failure →
      Unexpanded engine grammar text failure

theorem render_of_unexpanded
    {engine : Engine} {grammar : Grammar} {abbreviation : Abbreviation}
    {failure : ExpansionFailure} (placement : Placement)
    (hfailure : Unexpanded engine grammar abbreviation.text failure) :
    render engine grammar placement abbreviation = .error (.expansion failure) := by
  cases hfailure with
  | snippet hsnippet =>
      simp only [render, hsnippet]
      rfl
  | preview hsnippet hpreview =>
      simp only [render, hsnippet, hpreview]
      rfl

/-- Where the edit for an abbreviation of a line goes, as the client counts it. -/
def LineContext.editRange (line : LineContext) (abbreviation : Abbreviation) :
    Except OutOfRange Range :=
  (replacementRange line.number abbreviation.start (clampCursor line.text line.cursor)
    line.replaces).bind line.mapRange

/-- An abbreviation that is expanded is rendered exactly if its range can be written. -/
theorem render_of_expanded
    {engine : Engine} {grammar : Grammar} {abbreviation : Abbreviation}
    {snippet preview : List Char} (line : LineContext)
    (hsnippet : engine.expandText grammar .snippet abbreviation.text = .ok snippet)
    (hpreview : engine.expandText grammar .preview abbreviation.text = .ok preview) :
    render engine grammar line.placement abbreviation =
      ((line.editRange abbreviation).mapError .range).map (⟨preview, snippet, ·⟩) := by
  cases hrange : line.editRange abbreviation with
  | error error =>
      rw [LineContext.editRange] at hrange
      simp only [render, hsnippet, hpreview, LineContext.placement, Option.getD_some, hrange]
      rfl
  | ok range =>
      rw [LineContext.editRange] at hrange
      simp only [render, hsnippet, hpreview, LineContext.placement, Option.getD_some, hrange]
      rfl

/-- What an attempt with one grammar comes to, by its cause. -/
inductive Attempt (engine : Engine) (line : LineContext) (grammar : Grammar) :
    Logged (Except Abort (Option Item)) → Prop
  | startOutside {error : StartOutside} :
      scan engine grammar line.text line.cursor = .error error →
      Attempt engine line grammar ⟨.error (.startOutside error), []⟩
  | declined :
      scan engine grammar line.text line.cursor = .ok .declined →
      Attempt engine line grammar ⟨.ok none, []⟩
  | fault {fault : ScanFault} :
      scan engine grammar line.text line.cursor = .ok (.fault fault) →
      Attempt engine line grammar ⟨.ok none, [.contained warningLevel fault.message]⟩
  | unexpanded {abbreviation : Abbreviation} {failure : ExpansionFailure} :
      scan engine grammar line.text line.cursor = .ok (.found abbreviation) →
      Unexpanded engine grammar abbreviation.text failure →
      Attempt engine line grammar ⟨.ok none, [.contained warningLevel failure.message]⟩
  | unwritable {abbreviation : Abbreviation} {error : OutOfRange} :
      scan engine grammar line.text line.cursor = .ok (.found abbreviation) →
      line.editRange abbreviation = .error error →
      Attempt engine line grammar ⟨.error (.range error), []⟩
  | served {abbreviation : Abbreviation} {snippet preview : List Char} {range : Range} :
      scan engine grammar line.text line.cursor = .ok (.found abbreviation) →
      engine.expandText grammar .snippet abbreviation.text = .ok snippet →
      engine.expandText grammar .preview abbreviation.text = .ok preview →
      line.editRange abbreviation = .ok range →
      Attempt engine line grammar
        ⟨.ok (some (.of abbreviation.text ⟨preview, snippet, range⟩)), []⟩

theorem attempt_of_found
    {engine : Engine} {line : LineContext} {grammar : Grammar} {abbreviation : Abbreviation}
    (hfound : scan engine grammar line.text line.cursor = .ok (.found abbreviation)) :
    Attempt engine line grammar (completionFor engine line grammar) := by
  have hextract : extract engine grammar line.text line.cursor = ⟨.ok (some abbreviation), []⟩ := by
    simp only [extract, hfound]
  have hunexpanded : ∀ {failure}, Unexpanded engine grammar abbreviation.text failure →
      Attempt engine line grammar (completionFor engine line grammar) := by
    intro failure hfailure
    simp only [completionFor, hextract, render_of_unexpanded line.placement hfailure]
    exact .unexpanded hfound hfailure
  cases hsnippet : engine.expandText grammar .snippet abbreviation.text with
  | error failure => exact hunexpanded (.snippet hsnippet)
  | ok snippet =>
      cases hpreview : engine.expandText grammar .preview abbreviation.text with
      | error failure => exact hunexpanded (.preview hsnippet hpreview)
      | ok preview =>
          have hrender := render_of_expanded line hsnippet hpreview
          cases hrange : line.editRange abbreviation with
          | error error =>
              rw [hrange] at hrender
              change _ = Except.error (RenderError.range error) at hrender
              simp only [completionFor, hextract, hrender]
              exact .unwritable hfound hrange
          | ok range =>
              rw [hrange] at hrender
              change _ = Except.ok (Rendered.mk preview snippet range) at hrender
              simp only [completionFor, hextract, hrender]
              exact .served hfound hsnippet hpreview hrange

theorem attempt_completionFor (engine : Engine) (line : LineContext) (grammar : Grammar) :
    Attempt engine line grammar (completionFor engine line grammar) := by
  cases hscan : scan engine grammar line.text line.cursor with
  | error error =>
      simp only [completionFor, extract, hscan]
      exact .startOutside hscan
  | ok outcome =>
      cases outcome with
      | declined =>
          simp only [completionFor, extract, hscan]
          exact .declined hscan
      | fault fault =>
          simp only [completionFor, extract, hscan]
          exact .fault hscan
      | found abbreviation => exact attempt_of_found hscan

/-- What is found for an item, and where its edit goes. -/
theorem found_of_completionFor
    {engine : Engine} {line : LineContext} {grammar : Grammar} {item : Item}
    (hitem : (completionFor engine line grammar).result = .ok (some item)) :
    ∃ abbreviation, scan engine grammar line.text line.cursor = .ok (.found abbreviation) ∧
      item.label = abbreviation.text ∧ line.editRange abbreviation = .ok item.range := by
  have hattempt := attempt_completionFor engine line grammar
  generalize completionFor engine line grammar = outcome at hattempt hitem
  cases hattempt with
  | served hscan hsnippet hpreview hrange =>
      cases hitem
      exact ⟨_, hscan, rfl, hrange⟩
  | startOutside | declined | fault | unexpanded | unwritable => cases hitem

/-- Where the scan declines for each grammar, a line has no items and leaves no record. -/
theorem completeLine_of_declined
    {engine : Engine} {line : LineContext} {grammars : List Grammar}
    (hdeclined : ∀ grammar ∈ grammars,
      scan engine grammar line.text line.cursor = .ok .declined) :
    completeLine engine line grammars = ⟨.ok [], []⟩ := by
  induction grammars with
  | nil => rfl
  | cons grammar rest ih =>
      have hfirst : completionFor engine line grammar = ⟨.ok none, []⟩ := by
        simp only [completionFor, extract, hdeclined grammar List.mem_cons_self]
      have hrest : ∀ other ∈ rest, scan engine other line.text line.cursor = .ok .declined := by
        intro other hother
        exact hdeclined other (List.mem_cons_of_mem grammar hother)
      simp only [completeLine, hfirst, ih hrest]
      rfl

end Shorthand
