import Mathlib.Data.List.Chain
import Shorthand.Proofs.Text.Lines

/-!
# Offsets in lines

A line has two forms: the text that a position is measured in, with the break that ends it,
and the body in which an abbreviation is sought.  The break stands behind the body, and only
the last line may lack one.  So the lines of both forms come one for one, and an offset up to
the end of a body means the same place in either.
-/

namespace Shorthand

/-! ## Neighbouring lines -/

/-- A line that is over where another one begins. -/
structure Line.EndsBefore (line next : Line) : Prop where
  terminator : IsTerminator line.terminator
  /-- A carriage return and the line feed behind it are not taken apart. -/
  whole : line.terminator = ['\r'] → next.text.head? ≠ some '\n'

theorem IsTerminator.ne_nil {terminator : List Char} (hterminator : IsTerminator terminator) :
    terminator ≠ [] := by
  cases hterminator with
  | single _ => exact List.cons_ne_nil _ _
  | pair => exact List.cons_ne_nil _ _

theorem text_ne_nil_of_mem_splitLines
    {text : List Char} {line : Line} (hline : line ∈ splitLines text) : line.text ≠ [] := by
  refine forall_mem_splitLines (P := fun line => line.text ≠ []) ?_ ?_ ?_ text line hline
  · intro terminator hterminator
    exact hterminator.ne_nil
  · intro c _
    exact List.cons_ne_nil c []
  · intro c rest _ _
    exact List.cons_ne_nil c _

theorem head?_text_of_splitLines
    {text : List Char} {line : Line} {rest : List Line} (hlines : splitLines text = line :: rest) :
    line.text.head? = text.head? := by
  have hline : line.text ≠ [] :=
    text_ne_nil_of_mem_splitLines (hlines ▸ List.mem_cons_self)
  rw [← flatMap_text_splitLines text, hlines, List.flatMap_cons,
    List.head?_append_of_ne_nil _ hline]

theorem Line.isChain_pushFront
    {lines : List Line} (hlines : lines.IsChain Line.EndsBefore) (c : Char) :
    (Line.pushFront c lines).IsChain Line.EndsBefore := by
  cases lines with
  | nil => exact .singleton _
  | cons first rest =>
      obtain ⟨hfirst, hrest⟩ := List.isChain_cons.mp hlines
      refine hrest.cons ?_
      intro next hnext
      exact ⟨(hfirst next hnext).terminator, (hfirst next hnext).whole⟩

theorem isChain_cons_splitLines
    {line : Line} {text : List Char} (hterminator : IsTerminator line.terminator)
    (hwhole : line.terminator = ['\r'] → text.head? ≠ some '\n')
    (hchain : (splitLines text).IsChain Line.EndsBefore) :
    (line :: splitLines text).IsChain Line.EndsBefore := by
  refine hchain.cons ?_
  intro next hnext
  obtain ⟨rest, hlines⟩ := List.head?_eq_some_iff.mp hnext
  refine ⟨hterminator, ?_⟩
  rwa [head?_text_of_splitLines hlines]

/-- Every line of a text is over where the next one begins. -/
theorem isChain_splitLines (text : List Char) :
    (splitLines text).IsChain Line.EndsBefore := by
  fun_induction splitLines text with
  | case1 => exact .nil
  | case2 rest ih => exact isChain_cons_splitLines .pair (by simp) ih
  | case3 c rest hpair hc ih =>
      refine isChain_cons_splitLines (.single hc) ?_ ih
      intro hreturn hfeed
      obtain ⟨more, rfl⟩ := List.head?_eq_some_iff.mp hfeed
      exact hpair more (List.singleton_inj.mp hreturn) rfl
  | case4 c rest _ _ ih => exact Line.isChain_pushFront ih c

/-- Only the last line of a text may lack a terminator. -/
theorem isTerminator_or_last
    {text : List Char} {number : Nat} {line : Line}
    (hline : (splitLines text)[number]? = some line) :
    IsTerminator line.terminator ∨
      line.terminator = [] ∧ number + 1 = (splitLines text).length := by
  obtain ⟨hnumber, rfl⟩ := List.getElem?_eq_some_iff.mp hline
  by_cases hlast : number + 1 < (splitLines text).length
  · exact .inl ((isChain_splitLines text).getElem number hlast).terminator
  · have hwhole : (splitLines text)[number].Whole :=
      whole_of_mem_splitLines (List.getElem_mem hnumber)
    rcases hwhole.terminator with hnone | hbreak
    · exact .inr ⟨hnone, by omega⟩
    · exact .inl hbreak

/-! ## Lines and bodies -/

/-- What stands behind the body of a document's line. -/
def lineEnding (lines : List (List Char)) (number : Nat) : List Char :=
  (lines.getD number []).drop (documentLine lines number).length

theorem lineEnding_of_getElem?
    {text : List Char} {number : Nat} {line : Line}
    (hline : (splitLines text)[number]? = some line) :
    lineEnding ((splitLines text).map Line.text) number = line.terminator := by
  have htext : ((splitLines text).map Line.text).getD number [] = line.text := by
    rw [List.getD_eq_getElem?_getD, List.getElem?_map, hline]
    rfl
  rw [lineEnding, documentLine_of_getElem? hline, htext]
  exact List.drop_left

/-- Bodies with their endings are the lines, and so give back the text. -/
theorem flatMap_body_append_ending (text : List Char) :
    let lines := (splitLines text).map Line.text
    (List.range lines.length).flatMap
      (fun (number : Nat) => documentLine lines number ++ lineEnding lines number) = text := by
  intro lines
  have hlines : (List.range lines.length).map
      (fun (number : Nat) => documentLine lines number ++ lineEnding lines number) = lines := by
    apply List.ext_getElem
    · simp
    · intro number _ hnumber
      rw [List.length_map] at hnumber
      have hline : (splitLines text)[number]? = some (splitLines text)[number] :=
        List.getElem?_eq_getElem hnumber
      simp only [List.getElem_map, List.getElem_range, lines, documentLine_of_getElem? hline,
        lineEnding_of_getElem? hline]
      rfl
  rw [List.flatMap_def, hlines, ← List.flatMap_def, flatMap_text_splitLines]

/-- For every text, each line is its body and one terminator behind it, or the body alone if
it is the last one.  The body holds no break, so the line and the body agree up to the end of
the body, and the bodies with what stands behind them give back the text. -/
theorem lines_share_offsets_with_bodies (text : List Char) :
    let lines := (splitLines text).map Line.text
    (∀ (number : Nat) (full : List Char), lines[number]? = some full →
      let body := documentLine lines number
      let ending := lineEnding lines number
      full = body ++ ending ∧ full ≠ [] ∧
        (∀ c ∈ body, isLineBreak c = false) ∧
        (IsTerminator ending ∨ ending = [] ∧ number + 1 = lines.length) ∧
        (∀ next, lines[number + 1]? = some next →
          ending = ['\r'] → next.head? ≠ some '\n') ∧
        (∀ offset ≤ body.length, full.take offset = body.take offset) ∧
        (∀ offset < body.length, full[offset]? = body[offset]?)) ∧
      (List.range lines.length).flatMap
        (fun (number : Nat) => documentLine lines number ++ lineEnding lines number) = text := by
  intro lines
  refine ⟨?_, flatMap_body_append_ending text⟩
  intro number full hfull body ending
  rw [List.getElem?_map, Option.map_eq_some_iff] at hfull
  obtain ⟨line, hline, rfl⟩ := hfull
  have hbody : body = line.body := documentLine_of_getElem? hline
  have hending : ending = line.terminator := lineEnding_of_getElem? hline
  have hmem : line ∈ splitLines text := List.mem_of_getElem? hline
  rw [hbody, hending, List.length_map]
  refine ⟨rfl, text_ne_nil_of_mem_splitLines hmem, (whole_of_mem_splitLines hmem).body,
    isTerminator_or_last hline, ?_, ?_, ?_⟩
  · intro next hnext
    rw [List.getElem?_map, Option.map_eq_some_iff] at hnext
    obtain ⟨following, hfollowing, rfl⟩ := hnext
    obtain ⟨-, rfl⟩ := List.getElem?_eq_some_iff.mp hline
    obtain ⟨hnumber, rfl⟩ := List.getElem?_eq_some_iff.mp hfollowing
    exact ((isChain_splitLines text).getElem number hnumber).whole
  · intro offset hoffset
    exact List.take_append_of_le_length hoffset
  · intro offset hoffset
    exact List.getElem?_append_left hoffset

end Shorthand
