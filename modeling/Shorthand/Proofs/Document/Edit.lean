import Shorthand.Abbreviations
import Shorthand.Document
import Shorthand.Proofs.Completion.Attempt
import Shorthand.Proofs.Completion.Containment
import Shorthand.Proofs.Text.Lines
import Shorthand.Proofs.Text.Units

/-!
# What an edit does to a document

A client asks in units of a line with its terminator, an engine answers in characters of the
line without it, and the edit is written in units again.  These agree: an edit stays within
the body of the line that was asked for, and covers the text from where the abbreviation
starts to the place that the client's character reaches.  A character behind the end of a line
reaches the end if the line is terminated; if nothing terminates it, the last unit is left out.
-/

namespace Shorthand

/-! ## Edits as a client applies them -/

/-- The text of a document before and behind a client's position, if that lies between two
characters. -/
def Document.cut? (document : Document) (position : Position) :
    Option (List Char × List Char) := do
  let lines := splitLines document.text
  let line ← lines[position.line]?
  let (front, back) ← document.encoding.cut? line.text position.character
  return ((lines.take position.line).flatMap Line.text ++ front,
    back ++ (lines.drop (position.line + 1)).flatMap Line.text)

/-- The text of a document under a range. -/
def Document.under? (document : Document) (range : Range) : Option (List Char) := do
  let (before, _) ← document.cut? range.start
  let (through, _) ← document.cut? range.stop
  return through.drop before.length

/-- The text of a document with a range replaced. -/
def Document.replace? (document : Document) (range : Range) (newText : List Char) :
    Option (List Char) := do
  let (before, _) ← document.cut? range.start
  let (_, behind) ← document.cut? range.stop
  return before ++ newText ++ behind

/-- The edit of an item replaces, in the body of one line, the text between two places. -/
structure Document.Rewrites (document : Document) (number : Nat) (line : Line) (item : Item)
    (start stop : Nat) : Prop where
  range : item.range =
    ⟨⟨number, document.encoding.units (line.body.take start)⟩,
      ⟨number, document.encoding.units (line.body.take stop)⟩⟩
  ordered : item.range.start.character ≤ item.range.stop.character
  under : document.under? item.range = some ((line.body.take stop).drop start)
  result :
    let before := ((splitLines document.text).take number).flatMap Line.text
    let behind := ((splitLines document.text).drop (number + 1)).flatMap Line.text
    document.text = before ++ (line.body ++ line.terminator) ++ behind ∧
      document.replace? item.range item.newText =
        some (before ++ (line.body.take start ++ item.newText ++ line.body.drop stop ++
          line.terminator) ++ behind)

/-- A document is cut between two characters of a line by their units. -/
theorem Document.cut?_of_getElem?
    {document : Document} {number : Nat} {line : Line}
    (hline : (splitLines document.text)[number]? = some line) (place : Nat) :
    document.cut? ⟨number, document.encoding.units (line.body.take place)⟩ =
      some (((splitLines document.text).take number).flatMap Line.text ++ line.body.take place,
        line.body.drop place ++ line.terminator ++
          ((splitLines document.text).drop (number + 1)).flatMap Line.text) := by
  have htext : line.text = line.body.take place ++ (line.body.drop place ++ line.terminator) := by
    rw [← List.append_assoc, List.take_append_drop]
    rfl
  have hcut := document.encoding.cut?_append_units (line.body.take place)
    (line.body.drop place ++ line.terminator)
  rw [← htext] at hcut
  simp [Document.cut?, hline, hcut]

theorem Document.rewrites_of_range
    {document : Document} {number : Nat} {line : Line} {item : Item} {start stop : Nat}
    (hline : (splitLines document.text)[number]? = some line) (hle : start ≤ stop)
    (hstop : stop ≤ line.body.length)
    (hrange : item.range =
      ⟨⟨number, document.encoding.units (line.body.take start)⟩,
        ⟨number, document.encoding.units (line.body.take stop)⟩⟩) :
    document.Rewrites number line item start stop := by
  have hstartCut := Document.cut?_of_getElem? hline start
  have hstopCut := Document.cut?_of_getElem? hline stop
  refine ⟨hrange, ?_, ?_, ?_, ?_⟩
  · rw [hrange]
    exact document.encoding.units_take_mono line.body hle
  · have hlength : (line.body.take start).length = start :=
      List.length_take_of_le (Nat.le_trans hle hstop)
    simp [Document.under?, hrange, hstartCut, hstopCut, List.drop_append, hlength,
      List.drop_eq_nil_of_le]
  · exact eq_append_of_getElem?_splitLines hline
  · simp [Document.replace?, hrange, hstartCut, hstopCut]

/-! ## Where a completion looks -/

/-- The unit of a line that a client's character is taken for.  A character behind the end is
taken for the last unit, if the line has no terminator. -/
def Line.target (encoding : Encoding) (line : Line) (character : Nat) : Nat :=
  if line.terminator = [] ∧ encoding.units line.body < character then
    encoding.units line.body - 1
  else character

/-- Behind the end of a line with a terminator, what is passed for the last unit is still
behind the body. -/
theorem reaches_of_terminated
    (encoding : Encoding) (body : List Char) {rest : List Char} (hrest : rest ≠ [])
    (character : Nat) :
    let size := encoding.units (body ++ rest)
    Reaches encoding body character
      (min body.length (encoding.charsWithin (body ++ rest)
        (if character > size then size - 1 else character))) := by
  intro size
  have hsize : size = encoding.units body + encoding.units rest := encoding.units_append body rest
  have hpositive : 0 < encoding.units rest := Encoding.units_pos hrest
  split
  · next hbehind =>
    -- The last unit belongs to the terminator, so both places are the end of the body.
    have hreaches := reaches_charsWithin encoding body rest (size - 1)
    have hend := (Reaches.iff_of_units_le (by omega)).mp hreaches
    exact (Reaches.iff_of_units_le (by omega)).mpr hend
  · exact reaches_charsWithin encoding body rest character

/-- The cursor of a completion is the place in the line's body that the client's character
reaches. -/
theorem Document.reaches_cursor
    {document : Document} {position : Position} {line : Line}
    (hline : (splitLines document.text)[position.line]? = some line) :
    Reaches document.encoding line.body (line.target document.encoding position.character)
      (clampCursor line.body
        (position.fromClient document.encoding (splitLines document.text)).character) := by
  simp only [Position.fromClient, hline, clampCursor, Int.toNat_natCast]
  by_cases hterminator : line.terminator = []
  · have hreaches := reaches_charsWithin document.encoding line.body []
      (line.target document.encoding position.character)
    simpa [Line.clientText, hterminator, Line.target] using hreaches
  · have hbehind : (if line.terminator = ['\r', '\n'] then ['\n'] else line.terminator) ≠ [] := by
      split
      · simp
      · exact hterminator
    have htarget : line.target document.encoding position.character = position.character := by
      simp [Line.target, hterminator]
    rw [htarget]
    exact reaches_of_terminated document.encoding line.body hbehind position.character

/-! ## The edit of an item -/

/-- Every item of a completion is that of a grammar of the document. -/
theorem Document.exists_grammar_of_mem
    {document : Document} {engine : Engine} {routing : Routing} {replaces : Bool}
    {position : Position} {item : Item}
    (hitem : item ∈ (document.complete engine routing replaces position).result) :
    ∃ grammar ∈ routing.grammars document.language,
      (completionFor engine (document.line replaces position) grammar).result =
        .ok (some item) := by
  have hcontained := document.contained_complete engine routing replaces position
  cases hall : (completeLine engine (document.line replaces position)
      (routing.grammars document.language)).result with
  | error abort =>
      rw [(hcontained.givenUp hall).1] at hitem
      cases hitem
  | ok all =>
      obtain ⟨heq, hfilter, -⟩ := hcontained.served hall
      rw [heq, hfilter] at hitem
      obtain ⟨grammar, hgrammar, hfor⟩ := List.mem_filterMap.mp hitem
      refine ⟨grammar, hgrammar, ?_⟩
      unfold itemFor at hfor
      split at hfor
      · next hresult => rw [hresult, hfor]
      · cases hfor

theorem Document.line_of_getElem?
    {document : Document} {position : Position} {line : Line}
    (hline : (splitLines document.text)[position.line]? = some line) (replaces : Bool) :
    let lines := splitLines document.text
    document.line replaces position =
      ⟨position.line, line.body, (position.fromClient document.encoding lines).character,
        replaces, fun range => .ok (range.toClient document.encoding lines)⟩ := by
  intro lines
  have hnumber : (position.fromClient document.encoding lines).line = position.line := by
    simp only [Position.fromClient, lines, hline]
  simp only [Document.line, lines] at hnumber ⊢
  rw [hnumber, documentLine_of_getElem? hline]

theorem toClient_of_getElem?
    {encoding : Encoding} {lines : List Line} {number place : Nat} {line : Line}
    (hline : lines[number]? = some line) (hplace : place ≤ line.body.length) :
    Position.toClient encoding lines ⟨number, place⟩ =
      ⟨number, encoding.units (line.body.take place)⟩ := by
  simp [Position.toClient, hline, Line.text, List.take_append_of_le_length hplace]

/-- The edit of an item goes from where its abbreviation starts to the cursor, or is empty. -/
theorem Document.range_of_editRange
    {document : Document} {replaces : Bool} {position : Position} {line : Line}
    (hline : (splitLines document.text)[position.line]? = some line)
    {text : List Char} {start cursor : Nat} (hle : start ≤ cursor) {range : Range}
    (hcursor : clampCursor line.body
      (position.fromClient document.encoding (splitLines document.text)).character = cursor)
    (hrange : (document.line replaces position).editRange ⟨start, text⟩ = .ok range) :
    let stop := if replaces then cursor else start
    range =
      ⟨⟨position.line, document.encoding.units (line.body.take start)⟩,
        ⟨position.line, document.encoding.units (line.body.take stop)⟩⟩ := by
  intro stop
  have hwithin : cursor ≤ line.body.length := by
    rw [← hcursor]
    exact clampCursor_le_length _ _
  have hstop : stop ≤ line.body.length := by
    simp only [stop]
    split <;> omega
  rw [document.line_of_getElem? hline, LineContext.editRange, hcursor] at hrange
  cases hwritten : replacementRange position.line start cursor replaces with
  | error error =>
      simp only [hwritten] at hrange
      cases hrange
  | ok written =>
      simp only [hwritten] at hrange
      obtain ⟨-, -, -, hplaces⟩ := replacementRange_eq_ok_iff.mp hwritten
      have hlast : (if replaces then (cursor : Int) else start).toNat = stop := by
        simp only [stop]
        split <;> rfl
      rw [hlast] at hplaces
      cases hrange
      rw [hplaces]
      simp only [Range.toClient, Int.toNat_natCast]
      rw [toClient_of_getElem? hline (Nat.le_trans hle hwithin), toClient_of_getElem? hline hstop]

/-- Every item for a line of a document is one for an abbreviation that was found before the
cursor, which is the place that the client's character reaches.  Its edit replaces the text
from where the abbreviation starts to the cursor, or nothing, and leaves the rest of the
document as it is. -/
theorem edit_spans_abbreviation
    (document : Document) (engine : Engine) (routing : Routing) (replaces : Bool)
    (position : Position) {line : Line} {item : Item}
    (hline : (splitLines document.text)[position.line]? = some line)
    (hitem : item ∈ (document.complete engine routing replaces position).result) :
    ∃ grammar ∈ routing.grammars document.language, ∃ start cursor : Nat,
      let units := document.encoding.units
      let stop := if replaces then cursor else start
      scan engine grammar line.body cursor = .ok (.found ⟨start, item.label⟩) ∧
        start ≤ cursor ∧
        Reaches document.encoding line.body
          (line.target document.encoding position.character) cursor ∧
        (∀ boundary, position.character = units (line.body.take boundary) →
          units (line.body.take cursor) = position.character) ∧
        document.Rewrites position.line line item start stop := by
  obtain ⟨grammar, hgrammar, hfor⟩ := document.exists_grammar_of_mem hitem
  obtain ⟨⟨start, text⟩, hfound, hlabel, hrange⟩ := found_of_completionFor hfor
  obtain ⟨hnonneg, hle, -⟩ := bounds_of_scan_eq_found hfound
  obtain ⟨start, rfl⟩ := Int.eq_ofNat_of_zero_le hnonneg
  have hreaches := document.reaches_cursor hline
  rw [document.line_of_getElem? hline] at hfound hle
  dsimp only at hfound hle
  rw [← scan_clampCursor] at hfound
  generalize hcursor : clampCursor line.body
    (position.fromClient document.encoding (splitLines document.text)).character = cursor
    at hreaches hfound hle
  have hstart : start ≤ cursor := Int.ofNat_le.mp hle
  have hspan := document.range_of_editRange hline hstart hcursor hrange
  refine ⟨grammar, hgrammar, start, cursor, ?_, hstart, hreaches, ?_, ?_⟩
  · rw [hlabel]
    exact hfound
  · intro boundary hboundary
    have htarget : line.target document.encoding position.character = position.character := by
      have hsplit := document.encoding.units_take_add_drop line.body boundary
      have hwithin : ¬ document.encoding.units line.body < position.character := by omega
      simp [Line.target, hwithin]
    rw [htarget, hboundary] at hreaches
    rw [hreaches.units_eq, hboundary]
  · apply Document.rewrites_of_range hline ?_ ?_ hspan
    · split
      · exact hstart
      · exact Nat.le_refl start
    · have hwithin := hreaches.within
      split <;> omega

/-- A wide character before the abbreviation, the text behind the cursor and the terminator
stay. -/
theorem edit_keeps_surroundings :
    let document : Document := ⟨some "html", .utf16, "😀div\r\nrest".toList⟩
    let line : Line := ⟨"😀div".toList, "\r\n".toList⟩
    let item : Item := .of "di".toList
      ⟨"<di></di>".toList, "<di>$\x7b1\x7d</di>".toList, ⟨⟨0, 2⟩, ⟨0, 4⟩⟩⟩
    (splitLines document.text)[0]? = some line ∧
      item ∈ (document.complete abbreviations .initial true ⟨0, 4⟩).result ∧
      document.Rewrites 0 line item 1 3 := by
  intro document line item
  have hline : (splitLines document.text)[0]? = some line := by
    decide
  have hitem : item ∈ (document.complete abbreviations .initial true ⟨0, 4⟩).result := by
    decide +kernel
  refine ⟨hline, hitem, ?_⟩
  obtain ⟨-, -, start, cursor, -, hle, hreaches, -, hrewrites⟩ :=
    edit_spans_abbreviation document abbreviations .initial true ⟨0, 4⟩ hline hitem
  have hcursor : Reaches .utf16 line.body 4 3 := by
    constructor
    · decide
    · decide
    · decide
  obtain rfl : cursor = 3 := hreaches.unique hcursor
  have honly : ∀ place ≤ 3, 2 = Encoding.utf16.units (line.body.take place) → place = 1 := by
    decide
  obtain rfl : start = 1 :=
    honly start hle (congrArg (fun range => range.start.character) hrewrites.range)
  exact hrewrites

/-- Behind the end of a line without a terminator, the edit does not reach the end. -/
theorem edit_stops_short_behind_unterminated_line :
    let document : Document := ⟨some "html", .utf16, "div".toList⟩
    let position : Position := ⟨0, 4⟩
    ∃ line item, (splitLines document.text)[position.line]? = some line ∧
      item ∈ (document.complete abbreviations .initial true position).result ∧
      ¬ ∃ cursor, Reaches .utf16 line.body position.character cursor ∧
        item.range.stop.character = Encoding.utf16.units (line.body.take cursor) := by
  intro document position
  refine ⟨⟨"div".toList, []⟩,
    .of "di".toList ⟨"<di></di>".toList, "<di>$\x7b1\x7d</di>".toList, ⟨⟨0, 0⟩, ⟨0, 2⟩⟩⟩,
    ?_, ?_, ?_⟩
  · decide
  · decide +kernel
  · rintro ⟨cursor, hreaches, hstop⟩
    obtain rfl : cursor = 3 := (Reaches.iff_of_units_le (by decide)).mp hreaches
    exact absurd hstop (by decide)

end Shorthand
