import Shorthand.Proofs.Expansion.Snippet

/-!
# Snippet text read back

Snippet text is written without escapes.  It is read back as the parts that it was written
from where their texts hold nothing that needs one; with the escapes it would be read back for
all texts.
-/

namespace Shorthand

/-! ## What is to be read back -/

/-- The parts that an editor should read for a piece.  Text is read character by character,
so that it does not matter where one text ends and the next begins. -/
def Piece.parts : Piece → List SnippetPart
  | .text chars => chars.map .char
  | .field (some index) placeholder => [.stop index.toNat (placeholder.map .char)]
  | .field none placeholder => placeholder.map .char

def Expansion.parts (expansion : Expansion) : List SnippetPart := expansion.flatMap Piece.parts

/-- A piece whose tab stop, if it is one, has a number that snippet text can write. -/
def Piece.IsNumbered : Piece → Prop
  | .text _ => True
  | .field index _ => ∃ number : Nat, index = some (number : Int)

/-! ## Escapes -/

/-- Whether a character of a text needs an escape; a closing brace does within a default. -/
def needsEscape (within : Bool) (c : Char) : Bool :=
  c == '$' || c == '\\' || (within && c == '}')

/-- A text with escapes. -/
def escapeText (within : Bool) (text : List Char) : List Char :=
  text.flatMap fun c => if needsEscape within c then ['\\', c] else [c]

/-- A piece with escapes in its text. -/
def Piece.escaped : Piece → Piece
  | .text chars => .text (escapeText false chars)
  | .field index placeholder => .field index (escapeText true placeholder)

def Expansion.escaped (expansion : Expansion) : Expansion := expansion.map Piece.escaped

/-- No character of a text needs an escape. -/
def IsPlainText (within : Bool) (text : List Char) : Prop :=
  ∀ c ∈ text, needsEscape within c = false

/-- No text of a piece needs an escape. -/
def Piece.IsPlain : Piece → Prop
  | .text chars => IsPlainText false chars
  | .field _ placeholder => IsPlainText true placeholder

theorem escapeText_of_plain {within : Bool} {text : List Char} (hplain : IsPlainText within text) :
    escapeText within text = text := by
  induction text with
  | nil => rfl
  | cons c rest ih =>
      have hc : needsEscape within c = false := hplain c List.mem_cons_self
      have hrest : escapeText within rest = rest := by
        apply ih
        intro d hd
        exact hplain d (List.mem_cons_of_mem c hd)
      rw [escapeText] at hrest ⊢
      simp [hc, hrest]

theorem Piece.escaped_of_plain {piece : Piece} (hplain : piece.IsPlain) :
    piece.escaped = piece := by
  cases piece with
  | text chars => exact congrArg Piece.text (escapeText_of_plain hplain)
  | field index placeholder => exact congrArg (Piece.field index) (escapeText_of_plain hplain)

theorem Expansion.escaped_of_plain
    {expansion : Expansion} (hplain : ∀ piece ∈ expansion, piece.IsPlain) :
    expansion.escaped = expansion := by
  have hid : expansion.map Piece.escaped = expansion.map id := by
    apply List.map_congr_left
    intro piece hpiece
    exact Piece.escaped_of_plain (hplain piece hpiece)
  rw [escaped, hid, List.map_id]

/-! ## Reading back -/

/-- A text with escapes is read for what it is, within a default or outside of all. -/
theorem readWithin_escapeText
    {within : Bool} {opened : List OpenDefault} (hplace : within = true ∨ opened = [])
    (parts : List SnippetPart) (text rest : List Char) :
    readWithin opened parts (escapeText within text ++ rest) =
      readWithin opened (parts ++ text.map .char) rest := by
  induction text generalizing parts with
  | nil => simp [escapeText]
  | cons c text ih =>
      have hparts : parts ++ (c :: text).map .char =
          parts ++ [.char c] ++ text.map SnippetPart.char := by
        simp
      rw [hparts, ← ih]
      cases hneeds : needsEscape within c with
      | true =>
          have hc : isEscapable c = true := by
            grind [needsEscape, isEscapable]
          have htext : escapeText within (c :: text) ++ rest =
              '\\' :: c :: (escapeText within text ++ rest) := by
            simp [escapeText, hneeds]
          rw [htext, readWithin_escaped hc]
      | false =>
          have htext : escapeText within (c :: text) ++ rest =
              c :: (escapeText within text ++ rest) := by
            simp [escapeText, hneeds]
          rw [htext]
          by_cases hbrace : c = '}'
          · subst hbrace
            have hopened : opened = [] := by
              rcases hplace with hwithin | hnone
              · rw [hwithin] at hneeds
                cases hneeds
              · exact hnone
            rw [hopened]
            exact readWithin_brace parts _
          · have hc : isEscapable c = false := by
              grind [needsEscape, isEscapable]
            exact readWithin_plain hc opened parts _

theorem fieldIndex_natCast (number : Nat) :
    fieldIndex (some (number : Int)) = Nat.toDigits 10 number := by
  have hrepr : toString (number : Int) = number.repr := rfl
  rw [fieldIndex, hrepr, Nat.toList_repr]

/-- A tab stop with escapes in its default is read for what it is. -/
theorem readWithin_field
    (parts : List SnippetPart) (number : Nat) (placeholder rest : List Char) :
    readWithin [] parts
        (snippetField (some (number : Int)) (escapeText true placeholder) ++ rest) =
      readWithin [] (parts ++ [.stop number (placeholder.map .char)]) rest := by
  cases placeholder with
  | nil =>
      have htext : snippetField (some (number : Int)) (escapeText true []) ++ rest =
          '$' :: '{' :: (Nat.toDigits 10 number ++ '}' :: rest) := by
        simp [snippetField, escapeText, fieldIndex_natCast]
      rw [htext, readWithin_stop]
      rfl
  | cons c placeholder =>
      have hnonempty : (escapeText true (c :: placeholder)).isEmpty = false := by
        cases hneeds : needsEscape true c with
        | true => simp [escapeText, hneeds]
        | false => simp [escapeText, hneeds]
      have htext : snippetField (some (number : Int)) (escapeText true (c :: placeholder)) ++
          rest = '$' :: '{' :: (Nat.toDigits 10 number ++
            ':' :: (escapeText true (c :: placeholder) ++ '}' :: rest)) := by
        simp [snippetField, hnonempty, fieldIndex_natCast]
      rw [htext, readWithin_opening, readWithin_escapeText (.inl rfl), readWithin_closing,
        stopNumber_toDigits, List.nil_append]

theorem readWithin_piece
    {piece : Piece} (hnumbered : piece.IsNumbered) (parts : List SnippetPart)
    (rest : List Char) :
    readWithin [] parts (piece.escaped.snippet ++ rest) =
      readWithin [] (parts ++ piece.parts) rest := by
  cases piece with
  | text chars => exact readWithin_escapeText (.inr rfl) parts chars rest
  | field index placeholder =>
      obtain ⟨number, rfl⟩ := hnumbered
      exact readWithin_field parts number placeholder rest

theorem readWithin_expansion
    {expansion : Expansion} (hnumbered : ∀ piece ∈ expansion, piece.IsNumbered)
    (parts : List SnippetPart) :
    readWithin [] parts (expansion.escaped.render .snippet) = parts ++ expansion.parts := by
  induction expansion generalizing parts with
  | nil =>
      rw [Expansion.parts, List.flatMap_nil, List.append_nil]
      simp [Expansion.escaped, Expansion.render, readWithin, snippetTokens, assemble]
  | cons piece rest ih =>
      have hrest : ∀ other ∈ rest, other.IsNumbered := by
        intro other hother
        exact hnumbered other (List.mem_cons_of_mem piece hother)
      have hrender : Expansion.render .snippet (Expansion.escaped (piece :: rest)) =
          piece.escaped.snippet ++ (Expansion.escaped rest).render .snippet := rfl
      have hparts : Expansion.parts (piece :: rest) = piece.parts ++ Expansion.parts rest := rfl
      rw [hrender, readWithin_piece (hnumbered piece List.mem_cons_self), ih hrest, hparts,
        List.append_assoc]

theorem insertedText_parts (expansion : Expansion) :
    insertedText expansion.parts = expansion.render .preview := by
  induction expansion with
  | nil => rfl
  | cons piece rest ih =>
      have hpiece : insertedText piece.parts = piece.preview := by
        cases piece with
        | text chars => exact insertedText_chars chars
        | field index placeholder =>
            cases index with
            | none => exact insertedText_chars placeholder
            | some number =>
                simp only [Piece.parts, Piece.preview, insertedText, SnippetPart.inserted,
                  insertedText_chars, List.append_nil]
      have hparts : Expansion.parts (piece :: rest) = piece.parts ++ Expansion.parts rest := rfl
      have hrender : Expansion.render .preview (piece :: rest) =
          piece.preview ++ Expansion.render .preview rest := rfl
      rw [hparts, hrender, insertedText_append, hpiece, ih]

/-- With escapes in its texts, the snippet text of every expansion is read back as the same
parts.  The snippet text is written without, and is read back where no text needs one: the
same characters, and the same tab stops with the same numbers and defaults, so that what an
editor inserts at first is the preview text. -/
theorem snippet_text_reads_back
    (expansion : Expansion) (hnumbered : ∀ piece ∈ expansion, piece.IsNumbered) :
    readSnippet (expansion.escaped.render .snippet) = expansion.parts ∧
      insertedText expansion.parts = expansion.render .preview ∧
      ((∀ piece ∈ expansion, piece.IsPlain) →
        readSnippet (expansion.render .snippet) = expansion.parts ∧
          insertedText (readSnippet (expansion.render .snippet)) =
            expansion.render .preview) := by
  have hescaped : readSnippet (expansion.escaped.render .snippet) = expansion.parts := by
    rw [readSnippet, readWithin_expansion hnumbered, List.nil_append]
  refine ⟨hescaped, insertedText_parts expansion, ?_⟩
  intro hplain
  rw [Expansion.escaped_of_plain hplain] at hescaped
  rw [hescaped]
  exact ⟨rfl, insertedText_parts expansion⟩

/-- A closing brace outside of a default needs no escape. -/
theorem link_snippet_reads_back :
    let expansion : Expansion :=
      [.text ['h', '='], .field (some 1) ['#'], .text ['}'], .field (some 12) []]
    (∀ piece ∈ expansion, piece.IsNumbered) ∧ (∀ piece ∈ expansion, piece.IsPlain) ∧
      readSnippet (expansion.render .snippet) = expansion.parts ∧
      insertedText (readSnippet (expansion.render .snippet)) = ['h', '=', '#', '}'] := by
  intro expansion
  have hnumbered : ∀ piece ∈ expansion, piece.IsNumbered := by
    simp only [expansion, List.forall_mem_cons]
    exact ⟨trivial, ⟨1, rfl⟩, trivial, ⟨12, rfl⟩, by simp⟩
  have hplain : ∀ piece ∈ expansion, piece.IsPlain := by
    simp [expansion, Piece.IsPlain, IsPlainText, needsEscape]
  obtain ⟨-, -, hread⟩ := snippet_text_reads_back expansion hnumbered
  obtain ⟨hparts, hinserted⟩ := hread hplain
  refine ⟨hnumbered, hplain, hparts, ?_⟩
  rw [hinserted]
  rfl

/-- A dollar sign of a text is a tab stop for the editor, which then inserts less than the
preview shows. -/
theorem dollar_of_text_reads_as_tab_stop :
    let expansion : Expansion := [.text ['$', '1']]
    (∀ piece ∈ expansion, piece.IsNumbered) ∧
      readSnippet (expansion.render .snippet) ≠ expansion.parts ∧
      insertedText (readSnippet (expansion.render .snippet)) ≠ expansion.render .preview := by
  intro expansion
  have hread : readSnippet (expansion.render .snippet) = [.stop 1 []] := by
    have htext : expansion.render .snippet = ['$', '1'] := rfl
    have hnumber : stopNumber ['1'] = 1 := rfl
    rw [htext]
    simp [readSnippet, readWithin, snippetTokens, nextToken, stop?, bareStop?, assemble, hnumber]
  refine ⟨?_, ?_, ?_⟩
  · simp [expansion, Piece.IsNumbered]
  · rw [hread]
    simp [expansion, Expansion.parts, Piece.parts]
  · rw [hread]
    decide

end Shorthand
