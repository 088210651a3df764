import Shorthand.Abbreviations
import Shorthand.Proofs.Completion.Attempt
import Shorthand.Proofs.Extraction.Backward
import Shorthand.Text.Blank

/-!
# Blanks before a cursor

Where nothing but blanks precedes the cursor there is nothing to complete.  The search passes
over what an editor closed in advance, and each bracket among that is awaited from then on;
blanks may stand within brackets, but they open none, so the search ends at the start of the
line with a bracket still awaited.  Where nothing was closed, it ends where it begins.
-/

namespace Shorthand

namespace Extraction

/-! ## Blanks -/

/-- The code points of the blanks. -/
def blankPoints : List Nat :=
  List.range' 0x09 5 ++ List.range' 0x1c 5 ++ List.range' 0x2000 11 ++
    [0x85, 0xa0, 0x1680, 0x2028, 0x2029, 0x202f, 0x205f, 0x3000]

theorem toNat_mem_blankPoints {c : Char} (hc : isBlank c = true) : c.toNat ∈ blankPoints := by
  simp only [isBlank, Bool.or_eq_true, Bool.and_eq_true, decide_eq_true_eq, beq_iff_eq] at hc
  simp only [blankPoints, List.mem_append, List.mem_range'_1, List.mem_cons, List.not_mem_nil]
  omega

/-- A blank opens no bracket and is no part of an abbreviation. -/
theorem idle_of_isBlank {c : Char} (hc : isBlank c = true) (grammar : Grammar) :
    opens grammar c = false ∧ belongs c = false := by
  have hidle : ∀ grammar ∈ [Grammar.markup, .stylesheet], ∀ n ∈ blankPoints,
      opens grammar (Char.ofNat n) = false ∧ belongs (Char.ofNat n) = false := by
    decide +kernel
  have hgrammar : grammar ∈ [Grammar.markup, .stylesheet] := by
    cases grammar with
    | markup => exact List.mem_cons_self
    | stylesheet => exact List.mem_cons_of_mem _ List.mem_cons_self
  rw [← c.ofNat_toNat]
  exact hidle grammar hgrammar c.toNat (toNat_mem_blankPoints hc)

/-! ## A search without a bracket to open -/

/-- Where no bracket opens, a bracket that is awaited stays so. -/
theorem awaited_of_no_opening
    {grammar : Grammar} {awaited text : List Char} (hawaited : awaited ≠ [])
    (htext : ∀ c ∈ text, opens grammar c = false) :
    (beforeAbbreviation grammar awaited text).1 ≠ [] := by
  obtain ⟨left, hleft, hout | hstuck⟩ := beforeAbbreviation_of_awaiting hawaited htext []
  · rw [List.append_nil] at hout
    rw [hout, beforeAbbreviation]
    exact hleft
  · rw [List.append_nil] at hstuck
    rwa [hstuck]

/-- Where no bracket opens and the nearest character cannot end an abbreviation, the search
leaves a bracket awaited, or reads nothing. -/
theorem beforeAbbreviation_of_no_opening
    {grammar : Grammar} {text : List Char} (htext : ∀ c ∈ text, opens grammar c = false)
    (hnearest : ∀ c ∈ text.head?, closes grammar c = true ∨ belongs c = false) :
    (beforeAbbreviation grammar [] text).1 ≠ [] ∨
      (beforeAbbreviation grammar [] text).2 = text := by
  cases text with
  | nil => exact .inr rfl
  | cons c rest =>
      rw [List.forall_mem_cons] at htext
      by_cases hcloses : closes grammar c = true
      · obtain ⟨bracket, hentered⟩ := beforeAbbreviation_of_closes hcloses rest
        rw [hentered]
        exact .inl (awaited_of_no_opening (List.cons_ne_nil bracket []) htext.2)
      · have hbelongs : belongs c = false := (hnearest c rfl).resolve_left hcloses
        right
        rw [beforeAbbreviation.eq_def]
        simp [hcloses, htext.1, hbelongs]

/-- Nothing is found behind blanks. -/
theorem extract_of_blank
    {grammar : Grammar} {line : List Char} {position : Nat} (hposition : position ≤ line.length)
    (hblank : ∀ c ∈ line.take position, isBlank c = true) :
    extract grammar line position = none := by
  let text := line.take position ++ passedOver grammar (line.drop position)
  have hopens : ∀ c ∈ text.reverse, opens grammar c = false := by
    intro c hc
    rcases List.mem_append.mp (List.mem_reverse.mp hc) with hbefore | hahead
    · exact (idle_of_isBlank (hblank c hbefore) grammar).1
    · exact opens_of_mem_passedOver hahead
  have hidle : ∀ c ∈ text.reverse, closes grammar c = true ∨ belongs c = false := by
    intro c hc
    rcases List.mem_append.mp (List.mem_reverse.mp hc) with hbefore | hahead
    · exact .inr (idle_of_isBlank (hblank c hbefore) grammar).2
    · rcases mem_passedOver hahead with hmark | hcloses
      · exact .inr (belongs_of_isQuoteMark hmark)
      · exact .inl hcloses
  have hsearch := beforeAbbreviation_of_no_opening hopens
    (fun c hc => hidle c (List.mem_of_mem_head? hc))
  have hnothing : ¬ ((beforeAbbreviation grammar [] text.reverse).1.isEmpty &&
      (beforeAbbreviation grammar [] text.reverse).2.length < text.length) = true := by
    rw [Bool.and_eq_true, List.isEmpty_iff, decide_eq_true_eq, not_and]
    intro hnone
    rcases hsearch with hawaited | hunread
    · exact absurd hnone hawaited
    · rw [hunread, List.length_reverse]
      exact Nat.lt_irrefl _
  rw [extract_eq hposition]
  exact if_neg hnothing

end Extraction

/-! ## Nothing to complete -/

/-- For every line and cursor with only blanks before the cursor, whatever is behind it, the
scan declines for both grammars.  So no item is offered and nothing is reported, whichever
grammars are asked for and however abbreviations are expanded. -/
theorem blanks_before_cursor_complete_nothing
    (expand : Grammar → Rendition → List Char → Except Failure Expansion) (line : LineContext)
    (hblank : ∀ c ∈ line.text.take (clampCursor line.text line.cursor), isBlank c = true) :
    let engine : Engine := { abbreviations with expand }
    (∀ grammar, scan engine grammar line.text line.cursor = .ok .declined) ∧
      ∀ grammars, completeLine engine line grammars = ⟨.ok [], []⟩ := by
  intro engine
  have hdeclined : ∀ grammar, scan engine grammar line.text line.cursor = .ok .declined := by
    intro grammar
    have hnone : Extraction.extract grammar line.text (clampCursor line.text line.cursor) = none :=
      Extraction.extract_of_blank (clampCursor_le_length line.text line.cursor) hblank
    simp only [scan, engine, abbreviations, hnone]
    split
    · rfl
    · rfl
  exact ⟨hdeclined, fun grammars => completeLine_of_declined fun grammar _ => hdeclined grammar⟩

/-- Brackets that were closed in advance behind blanks are not completed. -/
theorem brackets_behind_blanks_complete_nothing :
    let line : LineContext := ⟨0, " \t\u3000\x7d])ul>li".toList, 3, true, .ok⟩
    (∀ c ∈ line.text.take (clampCursor line.text line.cursor), isBlank c = true) ∧
      (∀ grammar, scan abbreviations grammar line.text line.cursor = .ok .declined) ∧
      completeLine abbreviations line [.markup, .stylesheet] = ⟨.ok [], []⟩ := by
  intro line
  have hblank : ∀ c ∈ line.text.take (clampCursor line.text line.cursor), isBlank c = true :=
    List.all_eq_true.mp rfl
  obtain ⟨hdeclined, hnothing⟩ :=
    blanks_before_cursor_complete_nothing abbreviations.expand line hblank
  exact ⟨hblank, hdeclined, hnothing _⟩

end Shorthand
