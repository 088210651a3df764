import Shorthand.Proofs.Document.Edit

/-!
# Lines past the end of a document

A client may ask for a line that a document does not have; the one behind a last line break is
the usual case.  The position is moved back to the last line before the line is read, so the
request is answered as one at the end of that line, and its edits go there.
-/

namespace Shorthand

/-! ## The cursor of a line -/

/-- A line is completed by the place of its cursor in the text. -/
theorem completionFor_of_clampCursor_eq
    (engine : Engine) (line : LineContext) {cursor : Int}
    (hcursor : clampCursor line.text cursor = clampCursor line.text line.cursor)
    (grammar : Grammar) :
    completionFor engine { line with cursor } grammar = completionFor engine line grammar := by
  have hscan :
      scan engine grammar line.text cursor = scan engine grammar line.text line.cursor := by
    rw [← scan_clampCursor, hcursor, scan_clampCursor]
  have hextract : extract engine grammar line.text cursor =
      extract engine grammar line.text line.cursor := by
    simp only [extract, hscan]
  have hplacement : LineContext.placement { line with cursor } = line.placement := by
    simp only [LineContext.placement, hcursor]
  simp only [completionFor, hextract, hplacement]

theorem completeLine_of_clampCursor_eq
    (engine : Engine) (line : LineContext) {cursor : Int}
    (hcursor : clampCursor line.text cursor = clampCursor line.text line.cursor)
    (grammars : List Grammar) :
    completeLine engine { line with cursor } grammars = completeLine engine line grammars := by
  induction grammars with
  | nil => rfl
  | cons grammar rest ih =>
      simp only [completeLine, completionFor_of_clampCursor_eq engine line hcursor, ih]

/-- Nothing is found and nothing is reported at the start of a line. -/
theorem completeLine_at_start
    (engine : Engine) {line : LineContext} (hstart : clampCursor line.text line.cursor = 0)
    (grammars : List Grammar) :
    completeLine engine line grammars = ⟨.ok [], []⟩ := by
  apply completeLine_of_declined
  intro grammar _
  simp only [scan, hstart, if_true]

theorem Document.complete_at_start
    {document : Document} (engine : Engine) (routing : Routing) {replaces : Bool}
    {position : Position}
    (hstart : clampCursor (document.line replaces position).text
      (document.line replaces position).cursor = 0) :
    document.complete engine routing replaces position = ⟨[], []⟩ := by
  rw [document.complete_eq_contain, completeLine_at_start engine hstart]
  rfl

/-! ## The end of the last line -/

theorem Encoding.length_le_units (encoding : Encoding) (text : List Char) :
    text.length ≤ encoding.units text := by
  induction text with
  | nil => exact Nat.le_refl 0
  | cons c rest ih =>
      have hwidth := encoding.width_pos c
      rw [List.length_cons, units_cons]
      omega

/-- The place behind the last character of a document's last line, as a client counts it. -/
def Document.lastPlace (document : Document) (last : Line) : Position :=
  ⟨(splitLines document.text).length - 1, document.encoding.units last.body⟩

section
variable {document : Document} {last : Line}

theorem Document.getElem?_lastPlace (hlast : (splitLines document.text).getLast? = some last) :
    (splitLines document.text)[(document.lastPlace last).line]? = some last := by
  rw [← hlast, List.getLast?_eq_getElem?]
  rfl

theorem Document.clampCursor_lastPlace
    (hlast : (splitLines document.text).getLast? = some last) :
    clampCursor last.body ((document.lastPlace last).fromClient document.encoding
      (splitLines document.text)).character = last.body.length := by
  have hreaches := Document.reaches_cursor (Document.getElem?_lastPlace hlast)
  have htarget : last.target document.encoding (document.lastPlace last).character =
      document.encoding.units last.body := by
    have hwithin : ¬ document.encoding.units last.body < (document.lastPlace last).character :=
      Nat.lt_irrefl _
    rw [Line.target, if_neg (mt And.right hwithin)]
    rfl
  rw [htarget] at hreaches
  exact (Reaches.iff_of_units_le (Nat.le_refl _)).mp hreaches

/-- A position past the end is moved to the last line, with its cursor behind the body. -/
theorem Document.line_of_past_end
    (hlast : (splitLines document.text).getLast? = some last) (replaces : Bool)
    {position : Position} (hpast : (splitLines document.text).length ≤ position.line) :
    document.line replaces position =
      { document.line replaces (document.lastPlace last) with
        cursor := document.encoding.units last.text } := by
  have hlastLine := Document.getElem?_lastPlace hlast
  have hmoved : position.fromClient document.encoding (splitLines document.text) =
      ⟨(document.lastPlace last).line, document.encoding.units last.text⟩ := by
    simp only [Position.fromClient, List.getElem?_eq_none hpast, hlast, Document.lastPlace]
  rw [document.line_of_getElem? hlastLine]
  simp only [Document.line, hmoved, documentLine_of_getElem? hlastLine]

/-- A completion past the end is the one at the end of the last line. -/
theorem Document.complete_of_past_end
    (hlast : (splitLines document.text).getLast? = some last) (engine : Engine)
    (routing : Routing) (replaces : Bool) {position : Position}
    (hpast : (splitLines document.text).length ≤ position.line) :
    document.complete engine routing replaces position =
      document.complete engine routing replaces (document.lastPlace last) := by
  have hlastLine := document.line_of_getElem? (Document.getElem?_lastPlace hlast) replaces
  have hend := Document.clampCursor_lastPlace hlast
  have hbehind : clampCursor last.body (document.encoding.units last.text) =
      last.body.length := by
    have hlength := document.encoding.length_le_units last.body
    rw [clampCursor, Int.toNat_natCast, Line.text, Encoding.units_append]
    omega
  have hcursor : clampCursor (document.line replaces (document.lastPlace last)).text
        (document.encoding.units last.text) =
      clampCursor (document.line replaces (document.lastPlace last)).text
        (document.line replaces (document.lastPlace last)).cursor := by
    simp only [hlastLine, hbehind, hend]
  rw [document.complete_eq_contain, document.complete_eq_contain,
    document.line_of_past_end hlast replaces hpast,
    completeLine_of_clampCursor_eq engine _ hcursor]

end

theorem Document.complete_of_no_lines
    {document : Document} (hlines : splitLines document.text = []) (engine : Engine)
    (routing : Routing) (replaces : Bool) (position : Position) :
    document.complete engine routing replaces position = ⟨[], []⟩ := by
  apply Document.complete_at_start
  simp [Document.line, hlines, Position.fromClient, documentLine, clampCursor]

/-! ## The lines that edits go to -/

/-- An edit for a line of a document stays in that line. -/
theorem Document.lines_of_mem_complete
    {document : Document} {engine : Engine} {routing : Routing} {replaces : Bool}
    {position : Position} {item : Item}
    (hline : position.line < (splitLines document.text).length)
    (hitem : item ∈ (document.complete engine routing replaces position).result) :
    item.range.start.line = position.line ∧ item.range.stop.line = position.line := by
  have hget := List.getElem?_eq_getElem hline
  obtain ⟨grammar, -, hfor⟩ := document.exists_grammar_of_mem hitem
  obtain ⟨⟨start, text⟩, hfound, -, hrange⟩ := found_of_completionFor hfor
  obtain ⟨hnonneg, hle, -⟩ := bounds_of_scan_eq_found hfound
  obtain ⟨start, rfl⟩ := Int.eq_ofNat_of_zero_le hnonneg
  rw [document.line_of_getElem? hget] at hle
  have hspan := document.range_of_editRange hget (Int.ofNat_le.mp hle) rfl hrange
  rw [hspan]
  exact ⟨rfl, rfl⟩

/-- Every completion.  All its edits go to one line of the document: the one that was asked
for, or the last one if the document ends before that.  In the second case the answer is the
one at the end of the last line, so it is empty, without a report, if that line is empty or
there is none. -/
theorem completion_past_end_goes_to_last_line
    (document : Document) (engine : Engine) (routing : Routing) (replaces : Bool)
    (position : Position) :
    let lines := splitLines document.text
    let answer := document.complete engine routing replaces
    (∀ item ∈ (answer position).result,
      item.range.start.line < lines.length ∧
        item.range.start.line = min position.line (lines.length - 1) ∧
        item.range.stop.line = item.range.start.line) ∧
    (lines.length ≤ position.line →
      (lines = [] → answer position = ⟨[], []⟩) ∧
      ∀ last, lines.getLast? = some last →
        answer position = answer ⟨lines.length - 1, document.encoding.units last.body⟩ ∧
          (last.body = [] → answer position = ⟨[], []⟩)) := by
  intro lines answer
  have hend : ∀ last, lines.getLast? = some last → lines.length ≤ position.line →
      answer position = answer (document.lastPlace last) :=
    fun last hlast hpast => Document.complete_of_past_end hlast engine routing replaces hpast
  constructor
  · intro item hitem
    by_cases hline : position.line < lines.length
    · obtain ⟨hstart, hstop⟩ := Document.lines_of_mem_complete hline hitem
      exact ⟨by omega, by omega, by omega⟩
    · have hpast := Nat.le_of_not_lt hline
      cases hlast : lines.getLast? with
      | none =>
          have hempty := document.complete_of_no_lines (List.getLast?_eq_none_iff.mp hlast)
            engine routing replaces position
          rw [show answer position = ⟨[], []⟩ from hempty] at hitem
          cases hitem
      | some last =>
          rw [hend last hlast hpast] at hitem
          have hplace : (document.lastPlace last).line = lines.length - 1 := rfl
          have hexists := List.length_pos_of_mem (List.mem_of_getLast? hlast)
          obtain ⟨hstart, hstop⟩ := Document.lines_of_mem_complete
            (show (document.lastPlace last).line < lines.length by omega) hitem
          exact ⟨by omega, by omega, by omega⟩
  · intro hpast
    refine ⟨fun hlines => document.complete_of_no_lines hlines engine routing replaces position, ?_⟩
    intro last hlast
    refine ⟨hend last hlast hpast, ?_⟩
    intro hempty
    rw [hend last hlast hpast]
    apply Document.complete_at_start
    have hcursor := Document.clampCursor_lastPlace hlast
    rw [document.line_of_getElem? (Document.getElem?_lastPlace hlast)]
    rw [hempty] at hcursor ⊢
    exact hcursor

/-- Behind the last line break, the abbreviation of the line above is offered. -/
theorem place_behind_last_break_completes_line_above :
    let document : Document := ⟨some "html", .utf16, "div\n".toList⟩
    let position : Position := ⟨1, 0⟩
    (splitLines document.text).length ≤ position.line ∧
      ∃ item ∈ (document.complete abbreviations .initial false position).result,
        item.range.start.line ≠ position.line := by
  intro document position
  refine ⟨?_, .of "div".toList
    ⟨"<div></div>".toList, "<div>$\x7b1\x7d</div>".toList, ⟨⟨0, 0⟩, ⟨0, 0⟩⟩⟩, ?_, ?_⟩
  · decide
  · decide +kernel
  · decide

end Shorthand
