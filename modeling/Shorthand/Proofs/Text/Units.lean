import Shorthand.Text.Units

/-!
# Places in a text, by its units

Every place between two characters of a text has its own number of units.  A number that lies
within a character is taken for the place behind that character, and one that lies behind the
text for its end.
-/

namespace Shorthand

namespace Encoding

theorem width_pos (encoding : Encoding) (c : Char) : 0 < encoding.width c := by
  cases encoding with
  | utf8 => exact c.utf8Size_pos
  | utf16 =>
      simp only [width]
      split <;> decide
  | utf32 => exact Nat.one_pos

@[simp]
theorem units_nil (encoding : Encoding) : encoding.units [] = 0 := rfl

@[simp]
theorem units_cons (encoding : Encoding) (c : Char) (text : List Char) :
    encoding.units (c :: text) = encoding.width c + encoding.units text := rfl

@[simp]
theorem units_append (encoding : Encoding) (text rest : List Char) :
    encoding.units (text ++ rest) = encoding.units text + encoding.units rest := by
  induction text with
  | nil => simp
  | cons c text ih => simp [ih, Nat.add_assoc]

theorem units_pos {encoding : Encoding} {text : List Char} (htext : text ≠ []) :
    0 < encoding.units text := by
  cases text with
  | nil => exact absurd rfl htext
  | cons c rest =>
      have hwidth := encoding.width_pos c
      simp only [units_cons]
      omega

theorem units_take_add_drop (encoding : Encoding) (text : List Char) (place : Nat) :
    encoding.units (text.take place) + encoding.units (text.drop place) = encoding.units text := by
  rw [← units_append, List.take_append_drop]

theorem units_take_mono
    (encoding : Encoding) (text : List Char) {place other : Nat} (hle : place ≤ other) :
    encoding.units (text.take place) ≤ encoding.units (text.take other) := by
  have htake : (text.take other).take place = text.take place := by
    rw [List.take_take, Nat.min_eq_left hle]
  have hsplit := encoding.units_take_add_drop (text.take other) place
  rw [htake] at hsplit
  omega

theorem units_take_lt
    (encoding : Encoding) {text : List Char} {place : Nat} (hplace : place < text.length) :
    encoding.units (text.take place) < encoding.units text := by
  have hrest : text.drop place ≠ [] := by
    simpa using hplace
  have hpositive : 0 < encoding.units (text.drop place) := units_pos hrest
  have hsplit := encoding.units_take_add_drop text place
  omega

end Encoding

/-! ## The place that a number of units reaches -/

/-- The first place of a text with at least `target` units before it, or the end of the
text. -/
structure Reaches (encoding : Encoding) (text : List Char) (target place : Nat) : Prop where
  within : place ≤ text.length
  short : ∀ earlier < place, encoding.units (text.take earlier) < target
  reached : target ≤ encoding.units (text.take place) ∨ place = text.length

namespace Reaches

variable {encoding : Encoding} {text : List Char} {target place : Nat}

theorem zero (encoding : Encoding) (text : List Char) : Reaches encoding text 0 0 :=
  ⟨Nat.zero_le _, fun _ hearlier => absurd hearlier (Nat.not_lt_zero _), .inl (Nat.zero_le _)⟩

theorem cons {c : Char} (htarget : 0 < target)
    (hreaches : Reaches encoding text (target - encoding.width c) place) :
    Reaches encoding (c :: text) target (place + 1) := by
  refine ⟨Nat.succ_le_succ hreaches.within, ?_, ?_⟩
  · intro earlier hearlier
    cases earlier with
    | zero => simpa using htarget
    | succ earlier =>
        have hshort := hreaches.short earlier (Nat.lt_of_succ_lt_succ hearlier)
        rw [List.take_succ_cons, Encoding.units_cons]
        omega
  · rw [List.take_succ_cons, Encoding.units_cons, List.length_cons]
    rcases hreaches.reached with henough | hend
    · exact .inl (by omega)
    · exact .inr (by omega)

theorem unique {other : Nat} (hplace : Reaches encoding text target place)
    (hother : Reaches encoding text target other) : place = other := by
  have hnot : ∀ {first second : Nat}, Reaches encoding text target first →
      Reaches encoding text target second → ¬ first < second := by
    intro first second hfirst hsecond hlt
    have hshort := hsecond.short first hlt
    rcases hfirst.reached with henough | hend
    · omega
    · have hwithin := hsecond.within
      omega
  have hle := hnot hother hplace
  have hge := hnot hplace hother
  omega

/-- Behind the text that place is its end. -/
theorem iff_of_units_le (htarget : encoding.units text ≤ target) :
    Reaches encoding text target place ↔ place = text.length := by
  constructor
  · intro hreaches
    rcases hreaches.reached with henough | hend
    · rcases Nat.lt_or_eq_of_le hreaches.within with hlt | heq
      · have hfewer := encoding.units_take_lt hlt
        omega
      · exact heq
    · exact hend
  · rintro rfl
    refine ⟨Nat.le_refl _, ?_, .inr rfl⟩
    intro earlier hearlier
    have hlt := encoding.units_take_lt hearlier
    omega

theorem units_eq {boundary : Nat}
    (hreaches : Reaches encoding text (encoding.units (text.take boundary)) place) :
    encoding.units (text.take place) = encoding.units (text.take boundary) := by
  have hle : place ≤ boundary := by
    apply Nat.le_of_not_lt
    intro hlt
    have hshort := hreaches.short boundary hlt
    omega
  have hmono := encoding.units_take_mono text hle
  rcases hreaches.reached with henough | hend
  · omega
  · have hall : text.take boundary = text := List.take_of_length_le (by omega)
    rw [hall, hend, List.take_length]

end Reaches

/-- A walk over a text and what is behind it reaches the place in the text, or goes past its
end. -/
theorem reaches_charsWithin (encoding : Encoding) (text rest : List Char) (target : Nat) :
    Reaches encoding text target
      (min text.length (encoding.charsWithin (text ++ rest) target)) := by
  -- Each character takes its units off the target; behind the text nothing counts any more.
  induction text generalizing target with
  | nil => exact ⟨Nat.le_refl _, by simp, .inr rfl⟩
  | cons c text ih =>
      by_cases htarget : target = 0
      · subst htarget
        have hzero : encoding.charsWithin (c :: text ++ rest) 0 = 0 := rfl
        rw [hzero, Nat.min_zero]
        exact Reaches.zero encoding (c :: text)
      · have hstep : encoding.charsWithin (c :: text ++ rest) target =
            encoding.charsWithin (text ++ rest) (target - encoding.width c) + 1 := by
          simp [Encoding.charsWithin, htarget]
        rw [hstep, List.length_cons, Nat.add_min_add_right]
        exact (ih (target - encoding.width c)).cons (Nat.pos_of_ne_zero htarget)

/-! ## Cutting a text by its units -/

/-- The two parts of a text at a number of units, if no character lies across. -/
def Encoding.cut? (encoding : Encoding) : List Char → Nat → Option (List Char × List Char)
  | text, 0 => some ([], text)
  | [], _ + 1 => none
  | c :: rest, count + 1 =>
    if encoding.width c ≤ count + 1 then
      (encoding.cut? rest (count + 1 - encoding.width c)).map fun (front, back) =>
        (c :: front, back)
    else none

/-- A text is cut behind a part of it by the units of that part. -/
theorem Encoding.cut?_append_units (encoding : Encoding) (text rest : List Char) :
    encoding.cut? (text ++ rest) (encoding.units text) = some (text, rest) := by
  induction text with
  | nil => cases rest <;> rfl
  | cons c text ih =>
      have hwidth := encoding.width_pos c
      obtain ⟨count, hcount⟩ :
          ∃ count, encoding.width c + encoding.units text = count + 1 :=
        ⟨encoding.width c + encoding.units text - 1, by omega⟩
      have hle : encoding.width c ≤ count + 1 := by omega
      have hrest : count + 1 - encoding.width c = encoding.units text := by omega
      simp [hcount, Encoding.cut?, hle, hrest, ih]

end Shorthand
