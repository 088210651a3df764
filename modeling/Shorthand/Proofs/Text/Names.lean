import Shorthand.NameList

/-!
# Clean names

The names in a list are clean: they are not empty, hold no comma, and have no blank at
either end.  A list of clean names lists just these, so that a list of names which was
read once reads the same ever after.
-/

namespace Shorthand

/-! ## Blanks at the ends -/

theorem stripEnd_cons_of_not_blank {c : Char} (hc : isBlank c = false) (rest : List Char) :
    stripEnd (c :: rest) = c :: stripEnd rest := by
  cases hrest : stripEnd rest with
  | nil => simp [stripEnd, hrest, hc]
  | cons d tail => simp [stripEnd, hrest]

theorem stripEnd_stripEnd (text : List Char) : stripEnd (stripEnd text) = stripEnd text := by
  induction text with
  | nil => rfl
  | cons c rest ih =>
      cases hrest : stripEnd rest with
      | nil =>
          cases hc : isBlank c with
          | true => simp [stripEnd, hrest, hc]
          | false => simp [stripEnd, hrest, hc]
      | cons d tail =>
          rw [hrest] at ih
          have hcons : stripEnd (c :: rest) = c :: d :: tail := by
            simp [stripEnd, hrest]
          rw [hcons, stripEnd, ih]

theorem stripEnd_sublist (text : List Char) : (stripEnd text).Sublist text := by
  induction text with
  | nil => exact List.Sublist.refl []
  | cons c rest ih =>
      cases hrest : stripEnd rest with
      | nil =>
          cases hc : isBlank c with
          | true => simp [stripEnd, hrest, hc]
          | false => simp [stripEnd, hrest, hc]
      | cons d tail =>
          rw [hrest] at ih
          simpa [stripEnd, hrest] using ih.cons_cons c

theorem strip_sublist (text : List Char) : (strip text).Sublist text :=
  (stripEnd_sublist _).trans (List.dropWhile_sublist isBlank)

/-- What is left after the first blanks is nothing, or begins with something visible. -/
theorem stripStart_cases (text : List Char) :
    stripStart text = [] ∨
      ∃ c rest, stripStart text = c :: rest ∧ isBlank c = false := by
  have hhead := List.head?_dropWhile_not isBlank text
  cases hstart : stripStart text with
  | nil => exact .inl rfl
  | cons c rest =>
      rw [stripStart] at hstart
      rw [hstart] at hhead
      exact .inr ⟨c, rest, rfl, hhead⟩

theorem strip_strip (text : List Char) : strip (strip text) = strip text := by
  rcases stripStart_cases text with hnone | ⟨c, rest, hstart, hc⟩
  · have hstrip : strip text = [] := by
      rw [strip, hnone]
      rfl
    rw [hstrip]
    rfl
  · have hstrip : strip text = c :: stripEnd rest := by
      rw [strip, hstart, stripEnd_cons_of_not_blank hc]
    have hkept : stripStart (c :: stripEnd rest) = c :: stripEnd rest :=
      List.dropWhile_cons_of_neg (by simp [hc])
    rw [hstrip, strip, hkept, stripEnd_cons_of_not_blank hc, stripEnd_stripEnd]

/-! ## The parts between commas -/

theorem splitAt_of_not_mem {separator : Char} {text : List Char} (hnone : separator ∉ text) :
    splitAt separator text = [text] := by
  induction text with
  | nil => rfl
  | cons c rest ih =>
      rw [List.mem_cons, not_or] at hnone
      have hc : (c == separator) = false := by simpa using Ne.symm hnone.1
      simp [splitAt, hc, ih hnone.2]

theorem not_mem_of_mem_splitAt
    {separator : Char} {text part : List Char} (hpart : part ∈ splitAt separator text) :
    separator ∉ part := by
  induction text generalizing part with
  | nil =>
      rw [List.mem_singleton.mp hpart]
      exact List.not_mem_nil
  | cons c rest ih =>
      rw [splitAt] at hpart
      split at hpart
      · rcases List.mem_cons.mp hpart with rfl | hlater
        · exact List.not_mem_nil
        · exact ih hlater
      · next hc =>
        have hne : separator ≠ c := by
          rintro rfl
          exact hc (beq_self_eq_true _)
        split at hpart
        · rw [List.mem_singleton.mp hpart]
          simpa using hne
        · next first parts hrest =>
          rw [hrest] at ih
          rcases List.mem_cons.mp hpart with rfl | hlater
          · have hfirst := ih List.mem_cons_self
            simp [hne, hfirst]
          · exact ih (List.mem_cons_of_mem _ hlater)

/-! ## Clean names -/

/-- A name as a list of names holds it. -/
structure IsCleanName (name : String) : Prop where
  nonempty : name.toList ≠ []
  comma : ',' ∉ name.toList
  strip : strip name.toList = name.toList

theorem isCleanName_of_mem_names {name text : String} (hname : name ∈ names text) :
    IsCleanName name := by
  obtain ⟨chars, hchars, rfl⟩ := List.mem_map.mp hname
  obtain ⟨hmem, hvisible⟩ := List.mem_filter.mp hchars
  obtain ⟨part, hpart, rfl⟩ := List.mem_map.mp hmem
  constructor
  · simpa using hvisible
  · rw [String.toList_ofList]
    intro hcomma
    exact not_mem_of_mem_splitAt hpart ((strip_sublist part).mem hcomma)
  · rw [String.toList_ofList, strip_strip]

theorem IsCleanName.names_eq {name : String} (hname : IsCleanName name) :
    names name = [name] := by
  have hvisible : name.toList.isEmpty = false := by
    simpa using hname.nonempty
  simp [names, namesIn, splitAt_of_not_mem hname.comma, hname.strip, hvisible]

theorem isCleanName_of_mem_normalizeNames
    {name : String} {value : Value} (hname : name ∈ normalizeNames value) :
    IsCleanName name := by
  cases value with
  | str text => exact isCleanName_of_mem_names hname
  | list items =>
      obtain ⟨item, -, hitem⟩ := List.mem_flatMap.mp hname
      cases item with
      | str text => exact isCleanName_of_mem_names hitem
      | _ => cases hitem
  | _ => cases hname

theorem normalizeNames_of_clean
    {listed : List String} (hclean : ∀ name ∈ listed, IsCleanName name) :
    normalizeNames (.list (listed.map .str)) = listed := by
  induction listed with
  | nil => rfl
  | cons name rest ih =>
      have hname : names name = [name] :=
        (hclean name List.mem_cons_self).names_eq
      have hrest := ih fun other hother => hclean other (List.mem_cons_of_mem _ hother)
      simp only [normalizeNames] at hrest ⊢
      rw [List.map_cons, List.flatMap_cons, hrest, itemNames, hname]
      rfl

theorem normalizeNames_normalizeNames (value : Value) :
    normalizeNames (.list ((normalizeNames value).map .str)) = normalizeNames value :=
  normalizeNames_of_clean fun _ => isCleanName_of_mem_normalizeNames

end Shorthand
