import Shorthand.Toml.Document

/-!
# Depth of a document

A reader that may go deeper makes the same of a text, unless the first one has refused it for
its depth.  So there is one table at most that a text writes, at whatever depth it is read.
-/

namespace Shorthand.Toml

/-- A result is that of a deeper reader, unless depth was wanting. -/
def Agrees {α : Type} (result other : Except Error α) : Prop :=
  result = .error .tooDeep ∨ result = other

namespace Agrees

variable {α β : Type} {result other : Except Error α}

theorem refl (result : Except Error α) : Agrees result result := .inr rfl

theorem bind {next otherNext : α → Except Error β} (hagrees : Agrees result other)
    (hnext : ∀ a, Agrees (next a) (otherNext a)) :
    Agrees (result >>= next) (other >>= otherNext) := by
  rcases hagrees with rfl | rfl
  · exact .inl rfl
  · cases result with
    | error error => exact .refl _
    | ok a => exact hnext a

theorem andThen {next otherNext : α → Except Error β}
    (hnext : ∀ a, Agrees (next a) (otherNext a)) :
    Agrees (result >>= next) (result >>= otherNext) :=
  (refl result).bind hnext

theorem within {depth more : Nat} {next otherNext : Nat → Except Error α} (hle : depth ≤ more)
    (hnext : ∀ {inner outer}, inner ≤ outer → Agrees (next inner) (otherNext outer)) :
    Agrees (deeper depth >>= next) (deeper more >>= otherNext) := by
  cases depth with
  | zero => exact .inl rfl
  | succ inner =>
      cases more with
      | zero => cases hle
      | succ outer => exact hnext (Nat.le_of_succ_le_succ hle)

end Agrees

/-- Every reader of values, with some fuel. -/
structure AgreesValues (depth more fuel : Nat) : Prop where
  value : ∀ text, Agrees (value fuel depth text) (value fuel more text)
  items : ∀ text, Agrees (items fuel depth text) (items fuel more text)
  fields : ∀ table frozen text,
    Agrees (fields fuel depth table frozen text) (fields fuel more table frozen text)
  pair : ∀ text, Agrees (pair fuel depth text) (pair fuel more text)

section
variable {depth more fuel : Nat} (hle : depth ≤ more)
  (hagrees : ∀ {depth more}, depth ≤ more → AgreesValues depth more fuel)
include hle hagrees

theorem agrees_value (text : List Char) :
    Agrees (value (fuel + 1) depth text) (value (fuel + 1) more text) := by
  rw [value, value]
  refine .within hle fun hinner => ?_
  split
  · exact .refl _
  · exact .refl _
  · exact .andThen fun rest => ((hagrees hinner).items rest).bind fun _ => .refl _
  · split
    · exact .refl _
    · exact ((hagrees hinner).fields ..).bind fun _ => .refl _
  · exact .refl _

theorem agrees_items (text : List Char) :
    Agrees (items (fuel + 1) depth text) (items (fuel + 1) more text) := by
  rw [items, items]
  refine .within hle fun hinner => ?_
  split
  · exact .refl _
  · refine ((hagrees hinner).value _).bind fun _ => .andThen fun _ => ?_
    split
    · exact .refl _
    · exact .andThen fun rest => ((hagrees hle).items rest).bind fun _ => .refl _
    · exact .refl _

theorem agrees_fields (table : Table) (frozen : List KeyPath) (text : List Char) :
    Agrees (fields (fuel + 1) depth table frozen text)
      (fields (fuel + 1) more table frozen text) := by
  rw [fields, fields]
  refine .within hle fun hinner => ((hagrees hinner).pair text).bind fun _ => ?_
  simp only
  split
  · exact .refl _
  · refine .andThen fun _ => ?_
    split
    · exact .refl _
    · exact (hagrees hle).fields ..
    · exact .refl _

theorem agrees_pair (text : List Char) :
    Agrees (pair (fuel + 1) depth text) (pair (fuel + 1) more text) := by
  rw [pair, pair]
  refine .within hle fun hinner => .andThen fun _ => ?_
  simp only
  split
  · exact ((hagrees hinner).value _).bind fun _ => .refl _
  · exact .refl _

end

theorem agreesValues (fuel : Nat) {depth more : Nat} (hle : depth ≤ more) :
    AgreesValues depth more fuel := by
  induction fuel generalizing depth more with
  | zero => exact ⟨fun _ => .refl _, fun _ => .refl _, fun _ _ _ => .refl _, fun _ => .refl _⟩
  | succ fuel ih =>
      exact ⟨agrees_value hle ih, agrees_items hle ih, agrees_fields hle ih, agrees_pair hle ih⟩

/-! ## Documents -/

variable {depth more : Nat}

theorem agrees_statement (hle : depth ≤ more) (document : Document) (header : KeyPath)
    (text : List Char) :
    Agrees (statement depth document header text) (statement more document header text) := by
  unfold statement
  split
  · exact .refl _
  · exact .refl _
  · exact .refl _
  · exact .refl _
  · exact .refl _
  · exact ((agreesValues _ hle).pair text).bind fun _ => .refl _

theorem agrees_lines (hle : depth ≤ more) (fuel : Nat) (document : Document) (header : KeyPath)
    (text : List Char) :
    Agrees (lines depth fuel document header text) (lines more fuel document header text) := by
  induction fuel generalizing document header text with
  | zero => exact .refl _
  | succ fuel ih =>
      rw [lines, lines]
      refine (agrees_statement hle document header _).bind fun _ => .andThen fun _ => ?_
      split
      · exact .refl _
      · exact ih ..
      · exact .refl _

/-- What a text comes to does not change with the depth, once that suffices. -/
theorem parse_eq_of_le {text : List Char} (hle : depth ≤ more)
    (hread : parse depth text ≠ .error .tooDeep) : parse more text = parse depth text := by
  have hagrees : Agrees (parse depth text) (parse more text) :=
    (agrees_lines hle _ _ _ text).bind fun _ => .refl _
  exact (hagrees.resolve_left hread).symm

theorem parse_eq_parse {text : List Char} (hread : parse depth text ≠ .error .tooDeep)
    (hmore : parse more text ≠ .error .tooDeep) : parse depth text = parse more text := by
  rcases Nat.le_total depth more with hle | hle
  · exact (parse_eq_of_le hle hread).symm
  · exact parse_eq_of_le hle hmore

end Shorthand.Toml
