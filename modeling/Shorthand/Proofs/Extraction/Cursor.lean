import Shorthand.Abbreviations
import Shorthand.Proofs.Completion.Attempt
import Shorthand.Proofs.Extraction.Backward

/-!
# Abbreviations at a cursor

A scan with the two grammars declines or finds an abbreviation that starts at the cursor or
before it.  The abbreviation is the line from its start to the cursor only where nothing
behind the cursor was closed in advance; what was closed belongs to the abbreviation, but not
to the range of the edit that replaces it.
-/

namespace Shorthand

open Extraction (passedOver isQuoteMark closes)

/-- A scan declines, or finds the line from some start to the cursor together with what was
closed in advance. -/
theorem scan_abbreviations_cases (grammar : Grammar) (line : List Char) (cursor : Int) :
    let stop := clampCursor line cursor
    scan abbreviations grammar line cursor = .ok .declined ∨
      ∃ start text, scan abbreviations grammar line cursor = .ok (.found ⟨(start : Nat), text⟩) ∧
        start ≤ stop ∧ text = (line.take stop).drop start ++ passedOver grammar (line.drop stop) ∧
        text ≠ [] := by
  intro stop
  have hstop : clampCursor line cursor = stop := rfl
  simp only [scan, hstop, abbreviations]
  split
  · exact .inl rfl
  · cases hextract : Extraction.extract grammar line stop with
    | none => exact .inl rfl
    | some found =>
        obtain ⟨start, hstart, hfound⟩ :=
          Extraction.exists_start_of_extract (clampCursor_le_length line cursor) hextract
        rw [hstop] at hfound
        subst hfound
        dsimp only
        split
        · exact .inl rfl
        · next hempty =>
          right
          have hbounds : 0 ≤ (start : Int) ∧ (start : Int) ≤ stop :=
            ⟨Int.natCast_nonneg start, Int.ofNat_le.mpr hstart⟩
          rw [if_pos hbounds]
          refine ⟨start, _, rfl, hstart, rfl, ?_⟩
          rwa [List.isEmpty_iff] at hempty

/-- A scan with the two grammars is never given up for its start: it declines, or what it
finds has a text and starts within the line up to the cursor. -/
theorem scan_stays_before_cursor (grammar : Grammar) (line : List Char) (cursor : Int) :
    ∃ outcome, scan abbreviations grammar line cursor = .ok outcome ∧
      ∀ abbreviation, outcome = .found abbreviation →
        abbreviation.text ≠ [] ∧ 0 ≤ abbreviation.start ∧
          abbreviation.start ≤ clampCursor line cursor ∧
          clampCursor line cursor ≤ line.length := by
  rcases scan_abbreviations_cases grammar line cursor with
    hdeclined | ⟨start, text, hfound, hstart, -, htext⟩
  · refine ⟨.declined, hdeclined, ?_⟩
    intro abbreviation habbreviation
    cases habbreviation
  · refine ⟨.found ⟨start, text⟩, hfound, ?_⟩
    intro abbreviation habbreviation
    cases habbreviation
    exact ⟨htext, Int.natCast_nonneg start, Int.ofNat_le.mpr hstart,
      clampCursor_le_length line cursor⟩

/-! ## Labels and ranges -/

theorem scan_eq_found_of_extract
    {engine : Engine} {grammar : Grammar} {line : List Char} {cursor : Int}
    {abbreviation : Abbreviation}
    (hextract : (extract engine grammar line cursor).result = .ok (some abbreviation)) :
    scan engine grammar line cursor = .ok (.found abbreviation) := by
  unfold extract at hextract
  split at hextract
  · cases hextract
  · next found hscan =>
    cases hextract
    exact hscan
  · cases hextract
  · cases hextract

theorem text_of_scan_eq_found
    {grammar : Grammar} {line : List Char} {cursor : Int} {abbreviation : Abbreviation}
    (hfound : scan abbreviations grammar line cursor = .ok (.found abbreviation)) :
    let stop := clampCursor line cursor
    ∃ start ≤ stop, abbreviation =
      ⟨(start : Nat), (line.take stop).drop start ++ passedOver grammar (line.drop stop)⟩ := by
  intro stop
  rcases scan_abbreviations_cases grammar line cursor with
    hdeclined | ⟨start, text, hscan, hstart, htext, -⟩
  · rw [hdeclined] at hfound
    cases hfound
  · rw [hscan] at hfound
    cases hfound
    exact ⟨start, hstart, congrArg (Abbreviation.mk _) htext⟩

theorem characters_of_editRange
    {line : LineContext} {start : Nat} {text : List Char} {range : Range}
    (hreplaces : line.replaces = true) (hunits : line.mapRange = .ok)
    (hrange : line.editRange ⟨(start : Nat), text⟩ = .ok range) :
    range.start.character = start ∧
      range.stop.character = clampCursor line.text line.cursor := by
  rw [LineContext.editRange, hreplaces, hunits] at hrange
  cases hplaced : replacementRange line.number (start : Int)
      (clampCursor line.text line.cursor) true with
  | error error =>
      rw [hplaced] at hrange
      cases hrange
  | ok placed =>
      rw [hplaced] at hrange
      cases hrange
      obtain ⟨-, -, -, heq⟩ := replacementRange_eq_ok_iff.mp hplaced
      rw [heq]
      exact ⟨rfl, rfl⟩

/-- For every line and cursor, what is found is the line from its start to the cursor exactly
if neither a quotation mark nor a closing bracket of the grammar follows the cursor; otherwise
what was closed in advance comes behind.  The label of an item shows all of it, and the edit
that replaces covers the line up to the cursor only. -/
theorem abbreviation_holds_what_was_closed_in_advance (grammar : Grammar) (line : LineContext) :
    let cursor := clampCursor line.text line.cursor
    let ahead := passedOver grammar (line.text.drop cursor)
    let closed := ∃ c ∈ (line.text.drop cursor).head?,
      isQuoteMark c = true ∨ closes grammar c = true
    (ahead = [] ↔ ¬ closed) ∧
      (∀ abbreviation,
        (extract abbreviations grammar line.text line.cursor).result = .ok (some abbreviation) →
          ∃ start ≤ cursor, abbreviation.start = (start : Nat) ∧
            abbreviation.text = (line.text.take cursor).drop start ++ ahead ∧
            (abbreviation.text = (line.text.take cursor).drop start ↔ ¬ closed)) ∧
      (line.replaces = true → line.mapRange = .ok → ∀ item,
        (completionFor abbreviations line grammar).result = .ok (some item) →
          item.label = (line.text.take item.range.stop.character).drop
              item.range.start.character ++ ahead ∧
            (item.label = (line.text.take item.range.stop.character).drop
              item.range.start.character ↔ ¬ closed)) := by
  intro cursor ahead closed
  have hclosed : ahead = [] ↔ ¬ closed := by
    rw [Extraction.passedOver_eq_nil_iff]
    simp [closed]
  have hexact (front : List Char) : front ++ ahead = front ↔ ¬ closed := by
    rw [List.append_right_eq_self, hclosed]
  refine ⟨hclosed, ?_, ?_⟩
  · intro abbreviation hextract
    obtain ⟨start, hstart, rfl⟩ := text_of_scan_eq_found (scan_eq_found_of_extract hextract)
    exact ⟨start, hstart, rfl, rfl, hexact _⟩
  · intro hreplaces hunits item hitem
    obtain ⟨abbreviation, hfound, hlabel, hrange⟩ := found_of_completionFor hitem
    obtain ⟨start, hstart, rfl⟩ := text_of_scan_eq_found hfound
    obtain ⟨hfirst, hlast⟩ := characters_of_editRange hreplaces hunits hrange
    rw [hlabel, hfirst, hlast]
    exact ⟨rfl, hexact _⟩

/-- A bracket that was closed in advance belongs to what is found before it. -/
theorem closed_bracket_joins_abbreviation :
    let line := "div[a]".toList
    ∃ abbreviation,
      (extract abbreviations .markup line 5).result = .ok (some abbreviation) ∧
        abbreviation.text ≠
          (line.take (clampCursor line 5)).drop abbreviation.start.toNat := by
  intro line
  refine ⟨⟨0, line⟩, ?_, ?_⟩
  · rfl
  · decide

end Shorthand
