import Shorthand.Extraction

/-!
# The search before a cursor

The search begins behind the characters that an editor closed in advance.  None of them opens
a bracket, so a search that has entered them awaits a bracket for as long as it is among them,
and a search that ends there finds nothing.  Hence whatever is found starts at the cursor or
before it, and its text is the line from there to the cursor with those characters behind.
-/

namespace Shorthand.Extraction

/-! ## Characters closed in advance -/

/-- The characters at the head of a text that an editor closed in advance. -/
def passedOver (grammar : Grammar) (text : List Char) : List Char :=
  text.take (closedAhead grammar text)

theorem quoteMark_cases {c : Char} (hc : isQuoteMark c = true) : c = '\'' ∨ c = '"' := by
  simpa [isQuoteMark] using hc

theorem bracket_cases {grammar : Grammar} {c : Char} (hc : closes grammar c = true) :
    c = ')' ∨ c = ']' ∨ c = '}' := by
  have hpartner : (partner? c).isSome = true := by
    rw [closes, Bool.and_eq_true] at hc
    exact hc.1
  unfold partner? at hpartner
  split at hpartner
  · exact .inl rfl
  · exact .inr (.inl rfl)
  · exact .inr (.inr rfl)
  · cases hpartner

theorem length_passedOver (grammar : Grammar) (text : List Char) :
    (passedOver grammar text).length = closedAhead grammar text := by
  apply List.length_take_of_le
  cases text with
  | nil => exact Nat.le_refl _
  | cons c rest =>
      rw [closedAhead]
      split
      · exact Nat.succ_le_succ (List.takeWhile_prefix (closes grammar)).length_le
      · exact (List.takeWhile_prefix (closes grammar)).length_le

/-- A quotation mark is passed over, and then the brackets that follow. -/
theorem passedOver_cases (grammar : Grammar) (text : List Char) :
    passedOver grammar text = text.takeWhile (closes grammar) ∨
      ∃ mark rest, text = mark :: rest ∧ isQuoteMark mark = true ∧
        passedOver grammar text = mark :: rest.takeWhile (closes grammar) := by
  have hprefix (rest : List Char) : rest.take (rest.takeWhile (closes grammar)).length =
      rest.takeWhile (closes grammar) :=
    (List.prefix_iff_eq_take.mp (List.takeWhile_prefix (closes grammar))).symm
  cases text with
  | nil => exact .inl rfl
  | cons c rest =>
      by_cases hmark : isQuoteMark c = true
      · right
        refine ⟨c, rest, rfl, hmark, ?_⟩
        rw [passedOver, closedAhead, if_pos hmark, List.take_succ_cons, hprefix]
      · left
        rw [passedOver, closedAhead, if_neg hmark, hprefix]

theorem mem_passedOver
    {grammar : Grammar} {text : List Char} {c : Char} (hc : c ∈ passedOver grammar text) :
    isQuoteMark c = true ∨ closes grammar c = true := by
  have hclosed {rest : List Char} (hmem : c ∈ rest.takeWhile (closes grammar)) :
      closes grammar c = true :=
    List.all_eq_true.mp List.all_takeWhile c hmem
  rcases passedOver_cases grammar text with hpassed | ⟨mark, rest, -, hmark, hpassed⟩
  · rw [hpassed] at hc
    exact .inr (hclosed hc)
  · rw [hpassed, List.mem_cons] at hc
    rcases hc with rfl | hmem
    · exact .inl hmark
    · exact .inr (hclosed hmem)

/-- Nothing is passed over exactly if neither a quotation mark nor a closing bracket follows. -/
theorem passedOver_eq_nil_iff {grammar : Grammar} {text : List Char} :
    passedOver grammar text = [] ↔
      ∀ c ∈ text.head?, isQuoteMark c = false ∧ closes grammar c = false := by
  cases text with
  | nil => simp [passedOver]
  | cons c rest =>
      rw [passedOver, closedAhead]
      cases hmark : isQuoteMark c with
      | true => simp [hmark]
      | false =>
          cases hclosed : closes grammar c with
          | true => simp [hmark, hclosed]
          | false => simp [hmark, hclosed]

theorem character_cases
    {grammar : Grammar} {text : List Char} {c : Char} (hc : c ∈ passedOver grammar text) :
    c = '\'' ∨ c = '"' ∨ c = ')' ∨ c = ']' ∨ c = '}' := by
  rcases mem_passedOver hc with hmark | hclosed
  · rcases quoteMark_cases hmark with hsingle | hdouble
    · exact .inl hsingle
    · exact .inr (.inl hdouble)
  · exact .inr (.inr (bracket_cases hclosed))

theorem opens_of_mem_passedOver
    {grammar : Grammar} {text : List Char} {c : Char} (hc : c ∈ passedOver grammar text) :
    opens grammar c = false := by
  rcases character_cases hc with rfl | rfl | rfl | rfl | rfl <;> rfl

theorem isLeadingOperator_of_mem_passedOver
    {grammar : Grammar} {text : List Char} {c : Char} (hc : c ∈ passedOver grammar text) :
    isLeadingOperator c = false := by
  rcases character_cases hc with rfl | rfl | rfl | rfl | rfl <;> rfl

/-! ## The brackets that the search awaits -/

/-- The search never turns back. -/
theorem beforeAbbreviation_suffix (grammar : Grammar) (awaited text : List Char) :
    (beforeAbbreviation grammar awaited text).2 <:+ text := by
  have hdeeper {c : Char} {rest before : List Char} (hbefore : before <:+ rest) :
      before <:+ c :: rest := hbefore.trans (List.suffix_cons c rest)
  fun_induction beforeAbbreviation grammar awaited text with
  | case1 awaited => exact List.suffix_rfl
  | case2 awaited c rest hbraces ih => exact hdeeper ih
  | case3 awaited c rest hbraces hcloses ih => exact hdeeper ih
  | case4 c rest hcloses hopens bracket awaited hmatch hbraces ih => exact hdeeper ih
  | case5 c rest hcloses hopens bracket awaited hmismatch hbraces => exact List.suffix_rfl
  | case6 c rest hcloses hopens hbraces => exact List.suffix_rfl
  | case7 awaited c rest hbraces hcloses hopens hinside ih => exact hdeeper ih
  | case8 awaited c rest hbraces hcloses hopens hinside hend => exact List.suffix_rfl
  | case9 awaited c rest hbraces hcloses hopens hinside hbelongs ih => exact hdeeper ih

/-- Where no bracket opens, a search that awaits one goes on to await one, or ends with one
awaited. -/
theorem beforeAbbreviation_of_awaiting
    {grammar : Grammar} {awaited text : List Char} (hawaited : awaited ≠ [])
    (htext : ∀ c ∈ text, opens grammar c = false) (before : List Char) :
    ∃ left, left ≠ [] ∧
      (beforeAbbreviation grammar awaited (text ++ before) =
          beforeAbbreviation grammar left before ∨
        (beforeAbbreviation grammar awaited (text ++ before)).1 = left) := by
  induction text generalizing awaited with
  | nil => exact ⟨awaited, hawaited, .inl rfl⟩
  | cons c text ih =>
      have hopens : ¬ opens grammar c = true := by
        simp [htext c List.mem_cons_self]
      have hrest : ∀ d ∈ text, opens grammar d = false := by
        intro d hd
        exact htext d (List.mem_cons_of_mem c hd)
      rw [List.cons_append, beforeAbbreviation.eq_def]
      dsimp only
      split
      · apply ih _ hrest
        split
        · exact List.cons_ne_nil _ _
        · exact hawaited
      · split
        · exact ih (List.cons_ne_nil _ _) hrest
        · -- The case of an opening bracket is gone by `hopens`.
          split
          · exact ih hawaited hrest
          · split
            · exact ⟨awaited, hawaited, .inr rfl⟩
            · exact ih hawaited hrest

theorem belongs_of_isQuoteMark {mark : Char} (hmark : isQuoteMark mark = true) :
    belongs mark = false := by
  rcases quoteMark_cases hmark with rfl | rfl
  · decide
  · decide

/-- A quotation mark that no bracket encloses ends the search. -/
theorem beforeAbbreviation_of_isQuoteMark
    {grammar : Grammar} {mark : Char} (hmark : isQuoteMark mark = true) (before : List Char) :
    beforeAbbreviation grammar [] (mark :: before) = ([], mark :: before) := by
  have hcloses : closes grammar mark = false := by
    rcases quoteMark_cases hmark with rfl | rfl <;> rfl
  have hopens : opens grammar mark = false := by
    rcases quoteMark_cases hmark with rfl | rfl <;> rfl
  rw [beforeAbbreviation.eq_def]
  simp [hcloses, hopens, belongs_of_isQuoteMark hmark]

theorem beforeAbbreviation_of_closes
    {grammar : Grammar} {c : Char} (hc : closes grammar c = true) (before : List Char) :
    ∃ bracket, beforeAbbreviation grammar [] (c :: before) =
      beforeAbbreviation grammar [bracket] before := by
  refine ⟨(partner? c).getD c, ?_⟩
  rw [beforeAbbreviation.eq_def]
  simp [hc]

/-- A search that leaves nothing open and has read something has read its way out of what was
closed in advance. -/
theorem length_le_of_beforeAbbreviation
    {grammar : Grammar} {ahead before rest : List Char}
    (hahead : ∀ c ∈ ahead, isQuoteMark c = true ∨ closes grammar c = true)
    (hopens : ∀ c ∈ ahead, opens grammar c = false)
    (hsearch : beforeAbbreviation grammar [] (ahead ++ before) = ([], rest))
    (hread : rest.length < (ahead ++ before).length) :
    rest.length ≤ before.length := by
  cases ahead with
  | nil =>
      have hsuffix := beforeAbbreviation_suffix grammar [] before
      rw [List.nil_append] at hsearch
      rw [hsearch] at hsuffix
      exact hsuffix.length_le
  | cons c ahead =>
      rw [List.cons_append] at hsearch hread
      rcases hahead c List.mem_cons_self with hmark | hcloses
      · rw [beforeAbbreviation_of_isQuoteMark hmark, Prod.mk.injEq] at hsearch
        rw [← hsearch.2] at hread
        exact absurd hread (Nat.lt_irrefl _)
      · obtain ⟨bracket, hentered⟩ := beforeAbbreviation_of_closes hcloses (ahead ++ before)
        have hahead' : ∀ d ∈ ahead, opens grammar d = false := by
          intro d hd
          exact hopens d (List.mem_cons_of_mem c hd)
        obtain ⟨left, hleft, hout | hstuck⟩ :=
          beforeAbbreviation_of_awaiting (List.cons_ne_nil bracket []) hahead' before
        · have hsuffix := beforeAbbreviation_suffix grammar left before
          rw [← hout, ← hentered, hsearch] at hsuffix
          exact hsuffix.length_le
        · rw [← hentered, hsearch] at hstuck
          exact absurd hstuck.symm hleft

/-! ## What is found -/

theorem dropWhile_append_passedOver
    (grammar : Grammar) (core text : List Char) :
    (core ++ passedOver grammar text).dropWhile isLeadingOperator =
      core.dropWhile isLeadingOperator ++ passedOver grammar text := by
  rw [List.dropWhile_append]
  split
  · next hempty =>
    rw [List.isEmpty_iff.mp hempty, List.nil_append]
    cases hpassed : passedOver grammar text with
    | nil => rfl
    | cons c rest =>
        have hc : isLeadingOperator c = false :=
          isLeadingOperator_of_mem_passedOver (hpassed ▸ List.mem_cons_self)
        exact List.dropWhile_cons_of_neg (by simp [hc])
  · rfl

/-- What is sought is sought in the line up to the position, with what an editor closed in
advance behind it. -/
theorem extract_eq {grammar : Grammar} {line : List Char} {position : Nat}
    (hposition : position ≤ line.length) :
    extract grammar line position =
      let text := line.take position ++ passedOver grammar (line.drop position)
      let (awaited, before) := beforeAbbreviation grammar [] text.reverse
      if awaited.isEmpty && before.length < text.length then
        let abbreviation := (text.drop before.length).dropWhile isLeadingOperator
        some ⟨(text.length - abbreviation.length : Nat), abbreviation⟩
      else none := by
  have htext : line.take (position + closedAhead grammar (line.drop position)) =
      line.take position ++ passedOver grammar (line.drop position) :=
    List.take_add
  have hstop : position + closedAhead grammar (line.drop position) =
      (line.take position ++ passedOver grammar (line.drop position)).length := by
    rw [List.length_append, List.length_take_of_le hposition, length_passedOver]
  simp only [extract, Nat.min_eq_left hposition, htext]
  rw [hstop]

/-- Whatever is found starts at the position or before it.  Its text is the line from there to
the position, and then what an editor closed in advance. -/
theorem exists_start_of_extract
    {grammar : Grammar} {line : List Char} {position : Nat} {found : Found}
    (hposition : position ≤ line.length) (hfound : extract grammar line position = some found) :
    ∃ start ≤ position, found =
      ⟨(start : Nat), (line.take position).drop start ++ passedOver grammar (line.drop position)⟩ := by
  let ahead := passedOver grammar (line.drop position)
  let front := line.take position
  have hlength : front.length = position := List.length_take_of_le hposition
  have htext : line.take position ++ passedOver grammar (line.drop position) = front ++ ahead :=
    rfl
  simp only [extract_eq hposition, htext] at hfound
  cases hsearch : beforeAbbreviation grammar [] (front ++ ahead).reverse with
  | mk awaited before =>
      simp only [hsearch] at hfound
      split at hfound
      · next hfinished =>
        rw [Bool.and_eq_true, List.isEmpty_iff, decide_eq_true_eq] at hfinished
        obtain ⟨rfl, hread⟩ := hfinished
        have hbefore : before.length ≤ front.length := by
          rw [List.reverse_append] at hsearch
          have hle := length_le_of_beforeAbbreviation
            (fun c hc => mem_passedOver (List.mem_reverse.mp hc))
            (fun c hc => opens_of_mem_passedOver (List.mem_reverse.mp hc)) hsearch
            (by simpa [Nat.add_comm] using hread)
          rwa [List.length_reverse] at hle
        let core := (front.drop before.length).dropWhile isLeadingOperator
        have hstripped : ((front ++ ahead).drop before.length).dropWhile isLeadingOperator =
            core ++ ahead := by
          rw [List.drop_append_of_le_length hbefore]
          exact dropWhile_append_passedOver grammar _ _
        have hcore : core <:+ front :=
          (List.dropWhile_suffix isLeadingOperator).trans (List.drop_suffix before.length front)
        have hstart : (front ++ ahead).length - (core ++ ahead).length =
            position - core.length := by
          simp only [List.length_append, hlength]
          omega
        have hfront : core = front.drop (position - core.length) := by
          rw [← hlength]
          exact List.suffix_iff_eq_drop.mp hcore
        refine ⟨position - core.length, Nat.sub_le _ _, ?_⟩
        rw [← Option.some.inj hfound, hstripped, hstart]
        exact congrArg (Found.mk _ <| · ++ ahead) hfront
      · cases hfound

end Shorthand.Extraction
