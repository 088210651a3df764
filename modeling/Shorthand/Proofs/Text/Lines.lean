import Shorthand.Text.Lines

/-!
# The lines of a text

No line holds a break except at its end, and the lines of a text give it back.  So what the
server takes for the body of a line is its text up to the terminator.
-/

namespace Shorthand

/-- What ends a line: one break, or a carriage return and the line feed behind it. -/
inductive IsTerminator : List Char → Prop
  | single {c : Char} : isLineBreak c = true → IsTerminator [c]
  | pair : IsTerminator ['\r', '\n']

/-- A line that breaks at its end, or nowhere. -/
structure Line.Whole (line : Line) : Prop where
  body : ∀ c ∈ line.body, isLineBreak c = false
  terminator : line.terminator = [] ∨ IsTerminator line.terminator

/-! ## Cutting a text -/

theorem splitLines_cons_of_not_break
    {c : Char} (hc : isLineBreak c = false) (text : List Char) :
    splitLines (c :: text) = Line.pushFront c (splitLines text) := by
  rw [splitLines.eq_3]
  · simp [hc]
  · rintro rest rfl -
    exact absurd hc (by decide)

theorem Line.flatMap_text_pushFront (c : Char) (lines : List Line) :
    (Line.pushFront c lines).flatMap Line.text = c :: lines.flatMap Line.text := by
  cases lines <;> rfl

theorem flatMap_text_splitLines (text : List Char) :
    (splitLines text).flatMap Line.text = text := by
  fun_induction splitLines text with
  | case1 => rfl
  | case2 rest ih => simp [Line.text, ih]
  | case3 c rest _ _ ih => simp [Line.text, ih]
  | case4 c rest _ _ ih => rw [Line.flatMap_text_pushFront, ih]

/-- What holds of every line that is but a break, and of a line with one more character in
front, holds of all lines of a text. -/
theorem forall_mem_splitLines
    {P : Line → Prop} (hbreak : ∀ terminator, IsTerminator terminator → P ⟨[], terminator⟩)
    (hlast : ∀ c, isLineBreak c = false → P ⟨[c], []⟩)
    (hcons : ∀ c line, isLineBreak c = false → P line → P ⟨c :: line.body, line.terminator⟩)
    (text : List Char) : ∀ line ∈ splitLines text, P line := by
  fun_induction splitLines text with
  | case1 => simp
  | case2 rest ih => exact List.forall_mem_cons.mpr ⟨hbreak _ .pair, ih⟩
  | case3 c rest _ hc ih => exact List.forall_mem_cons.mpr ⟨hbreak _ (.single hc), ih⟩
  | case4 c rest _ hc ih =>
      rw [Bool.not_eq_true] at hc
      cases hlines : splitLines rest with
      | nil => exact List.forall_mem_singleton.mpr (hlast c hc)
      | cons first lines =>
          rw [hlines] at ih
          obtain ⟨hfirst, hrest⟩ := List.forall_mem_cons.mp ih
          exact List.forall_mem_cons.mpr ⟨hcons c first hc hfirst, hrest⟩

theorem whole_of_mem_splitLines
    {text : List Char} {line : Line} (hline : line ∈ splitLines text) : line.Whole := by
  refine forall_mem_splitLines ?_ ?_ ?_ text line hline
  · intro terminator hterminator
    exact ⟨by simp, .inr hterminator⟩
  · intro c hc
    exact ⟨by simpa using hc, .inl rfl⟩
  · intro c rest hc hrest
    exact ⟨List.forall_mem_cons.mpr ⟨hc, hrest.body⟩, hrest.terminator⟩

/-! ## The body of a line -/

theorem firstLine_of_isTerminator
    {terminator : List Char} (hterminator : IsTerminator terminator) :
    firstLine terminator = [] := by
  cases hterminator with
  | pair => rfl
  | single hc => simp [firstLine, splitLines, hc]

theorem firstLine_cons_of_not_break
    {c : Char} (hc : isLineBreak c = false) (text : List Char) :
    firstLine (c :: text) = c :: firstLine text := by
  simp only [firstLine, splitLines_cons_of_not_break hc]
  cases splitLines text <;> rfl

/-- The first line of a line is its body. -/
theorem Line.Whole.firstLine_text {line : Line} (hline : line.Whole) :
    firstLine line.text = line.body := by
  obtain ⟨body, terminator⟩ := line
  obtain ⟨hbody, hterminator⟩ := hline
  induction body with
  | nil =>
      rcases hterminator with rfl | hbreak
      · rfl
      · exact firstLine_of_isTerminator hbreak
  | cons c rest ih =>
      have hrest := ih (fun other hother => hbody other (List.mem_cons_of_mem c hother)) hterminator
      have hfirst := firstLine_cons_of_not_break (hbody c List.mem_cons_self) (rest ++ terminator)
      exact hfirst.trans (congrArg (c :: ·) hrest)

theorem documentLine_of_getElem?
    {text : List Char} {number : Nat} {line : Line}
    (hline : (splitLines text)[number]? = some line) :
    documentLine ((splitLines text).map Line.text) number = line.body := by
  have hwhole : line.Whole := whole_of_mem_splitLines (List.mem_of_getElem? hline)
  have hnumber : ¬ (number : Int) < 0 := by omega
  simp only [documentLine, if_neg hnumber, Int.toNat_natCast, List.getElem?_map, hline,
    Option.map_some, hwhole.firstLine_text]

/-- A text is what is before a line, that line, and what is behind it. -/
theorem eq_append_of_getElem?_splitLines
    {text : List Char} {number : Nat} {line : Line}
    (hline : (splitLines text)[number]? = some line) :
    text = ((splitLines text).take number).flatMap Line.text ++ line.text ++
      ((splitLines text).drop (number + 1)).flatMap Line.text := by
  obtain ⟨hnumber, hget⟩ := List.getElem?_eq_some_iff.mp hline
  calc text
      = (splitLines text).flatMap Line.text := (flatMap_text_splitLines text).symm
    _ = ((splitLines text).take number ++
          (splitLines text)[number] :: (splitLines text).drop (number + 1)).flatMap
            Line.text := by
        rw [← List.drop_eq_getElem_cons hnumber, List.take_append_drop]
    _ = ((splitLines text).take number).flatMap Line.text ++ line.text ++
          ((splitLines text).drop (number + 1)).flatMap Line.text := by
        rw [hget, List.flatMap_append, List.flatMap_cons, List.append_assoc]

/-! ## Line breaks of a file -/

theorem prefix_of_prefix_universalNewlines
    {run text : List Char} (hrun : ∀ c ∈ run, c ≠ '\n')
    (hstart : run <+: universalNewlines text) : run <+: text := by
  fun_induction universalNewlines text generalizing run with
  | case1 => exact hstart
  | case2 rest ih =>
      rcases List.prefix_cons_iff.mp hstart with rfl | ⟨run, rfl, -⟩
      · exact List.nil_prefix
      · exact absurd rfl (hrun '\n' List.mem_cons_self)
  | case3 c rest _ ih =>
      rcases List.prefix_cons_iff.mp hstart with rfl | ⟨run, rfl, hrest⟩
      · exact List.nil_prefix
      · obtain ⟨hhead, hrun⟩ := List.forall_mem_cons.mp hrun
        have hc : ¬ (c == '\r') = true := fun hreturn => hhead (if_pos hreturn)
        rw [if_neg hc]
        exact List.cons_prefix_cons.mpr ⟨rfl, ih hrun hrest⟩

theorem count_universalNewlines
    {c : Char} (hfeed : c ≠ '\n') (hreturn : c ≠ '\r') (text : List Char) :
    (universalNewlines text).count c = text.count c := by
  fun_induction universalNewlines text with
  | case1 => rfl
  | case2 rest ih => simp [hfeed.symm, hreturn.symm, ih]
  | case3 head rest _ ih =>
      rw [List.count_cons, List.count_cons, ih]
      by_cases hhead : head = '\r'
      · subst head
        simp [hfeed.symm, hreturn.symm]
      · simp [hhead]

/-- What holds no line break stands in a file as it is read. -/
theorem infix_of_infix_universalNewlines
    {run text : List Char} (hrun : ∀ c ∈ run, c ≠ '\n')
    (hwithin : run <:+: universalNewlines text) : run <:+: text := by
  fun_induction universalNewlines text with
  | case1 => exact hwithin
  | case2 rest ih =>
      rcases List.infix_cons_iff.mp hwithin with hstart | hrest
      · refine (prefix_of_prefix_universalNewlines hrun ?_).isInfix
        rwa [universalNewlines]
      · exact (ih hrest).trans (List.suffix_append ['\r', '\n'] rest).isInfix
  | case3 c rest hpair ih =>
      rcases List.infix_cons_iff.mp hwithin with hstart | hrest
      · refine (prefix_of_prefix_universalNewlines hrun ?_).isInfix
        rwa [universalNewlines.eq_3 c rest hpair]
      · exact (ih hrest).trans (List.suffix_cons c rest).isInfix

end Shorthand
