import Shorthand.Expansion

/-!
# Snippet text as an editor reads it

A dollar sign with a number is a tab stop.  The number may stand in braces, and may there have
a default behind a colon, which is snippet text itself.  A backslash takes a dollar sign, a
closing brace or a backslash for what it is, and every other character stands for itself.

A text is cut into tokens first.  Defaults that are open while tokens are read form a stack,
as they may hold tab stops with defaults of their own.
-/

namespace Shorthand

inductive SnippetPart
  | char (c : Char)
  | stop (index : Nat) (default : List SnippetPart)

/-! ## Tokens -/

inductive SnippetToken
  | char (c : Char)
  /-- A tab stop without a default. -/
  | stop (index : Nat)
  /-- A tab stop up to its default. -/
  | opening (digits : List Char)
  /-- The brace behind a default, if one is open. -/
  | closing
  deriving DecidableEq, Repr

/-- Whether a backslash takes a character for what it is. -/
def isEscapable (c : Char) : Bool := c == '$' || c == '}' || c == '\\'

def stopNumber (digits : List Char) : Nat := Nat.ofDigitChars 10 digits 0

/-- The tab stop whose number stands at the head of a text, and what follows it. -/
def bareStop? (text : List Char) : Option (SnippetToken × List Char) :=
  let digits := text.takeWhile Char.isDigit
  if digits.isEmpty then none
  else some (.stop (stopNumber digits), text.dropWhile Char.isDigit)

/-- The tab stop behind an opening brace, and what follows it. -/
def bracedStop? (text : List Char) : Option (SnippetToken × List Char) :=
  let digits := text.takeWhile Char.isDigit
  if digits.isEmpty then none
  else
    match text.dropWhile Char.isDigit with
    | '}' :: rest => some (.stop (stopNumber digits), rest)
    | ':' :: rest => some (.opening digits, rest)
    | _ => none

/-- The tab stop behind a dollar sign, and what follows it. -/
def stop? : List Char → Option (SnippetToken × List Char)
  | '{' :: text => bracedStop? text
  | text => bareStop? text

/-- The token that a character begins, and what follows it. -/
def nextToken (c : Char) (text : List Char) : SnippetToken × List Char :=
  if c = '\\' then
    match text with
    | d :: rest => if isEscapable d then (.char d, rest) else (.char c, text)
    | [] => (.char c, [])
  else if c = '$' then (stop? text).getD (.char c, text)
  else if c = '}' then (.closing, text)
  else (.char c, text)

theorem length_le_of_bareStop?
    {text rest : List Char} {token : SnippetToken}
    (hstop : bareStop? text = some (token, rest)) : rest.length ≤ text.length := by
  unfold bareStop? at hstop
  dsimp only at hstop
  split at hstop
  · cases hstop
  · cases hstop
    exact (List.dropWhile_suffix Char.isDigit).length_le

theorem length_le_of_bracedStop?
    {text rest : List Char} {token : SnippetToken}
    (hstop : bracedStop? text = some (token, rest)) : rest.length ≤ text.length := by
  have hdrop : (text.dropWhile Char.isDigit).length ≤ text.length :=
    (List.dropWhile_suffix Char.isDigit).length_le
  unfold bracedStop? at hstop
  dsimp only at hstop
  split at hstop
  · cases hstop
  · split at hstop
    · next hrest =>
      cases hstop
      rw [hrest] at hdrop
      exact Nat.le_of_succ_le hdrop
    · next hrest =>
      cases hstop
      rw [hrest] at hdrop
      exact Nat.le_of_succ_le hdrop
    · cases hstop

theorem length_le_of_stop?
    {text rest : List Char} {token : SnippetToken} (hstop : stop? text = some (token, rest)) :
    rest.length ≤ text.length := by
  unfold stop? at hstop
  split at hstop
  · exact Nat.le_succ_of_le (length_le_of_bracedStop? hstop)
  · exact length_le_of_bareStop? hstop

theorem length_nextToken_le (c : Char) (text : List Char) :
    (nextToken c text).2.length ≤ text.length := by
  unfold nextToken
  split
  · split
    · split
      · exact Nat.le_succ _
      · exact Nat.le_refl _
    · exact Nat.le_refl _
  · split
    · cases hstop : stop? text with
      | none => exact Nat.le_refl _
      | some read => exact length_le_of_stop? hstop
    · split
      · exact Nat.le_refl _
      · exact Nat.le_refl _

def snippetTokens : List Char → List SnippetToken
  | [] => []
  | c :: text => (nextToken c text).1 :: snippetTokens (nextToken c text).2
termination_by text => text.length
decreasing_by exact Nat.lt_succ_of_le (length_nextToken_le c text)

/-! ## Parts -/

/-- A default that is open, with its tab stop's digits and what was read before that. -/
structure OpenDefault where
  digits : List Char
  before : List SnippetPart

/-- What is read of a default that never closes.  Its beginning stands for itself. -/
def OpenDefault.unclosed (inside : List SnippetPart) (opened : OpenDefault) :
    List SnippetPart :=
  opened.before ++ ('$' :: '{' :: opened.digits ++ [':']).map .char ++ inside

/-- The parts that tokens make up, behind those that were read in the innermost default. -/
def assemble :
    List OpenDefault → List SnippetPart → List SnippetToken → List SnippetPart
  | opened, parts, [] => opened.foldl OpenDefault.unclosed parts
  | opened, parts, .char c :: rest => assemble opened (parts ++ [.char c]) rest
  | opened, parts, .stop index :: rest => assemble opened (parts ++ [.stop index []]) rest
  | opened, parts, .opening digits :: rest => assemble (⟨digits, parts⟩ :: opened) [] rest
  | [], parts, .closing :: rest => assemble [] (parts ++ [.char '}']) rest
  | innermost :: opened, parts, .closing :: rest =>
    assemble opened (innermost.before ++ [.stop (stopNumber innermost.digits) parts]) rest

/-- The parts of snippet text, behind those that were read in the innermost default. -/
def readWithin (opened : List OpenDefault) (parts : List SnippetPart) (text : List Char) :
    List SnippetPart :=
  assemble opened parts (snippetTokens text)

def readSnippet (text : List Char) : List SnippetPart := readWithin [] [] text

mutual

/-- What an editor inserts for a part while its tab stops stand at their defaults. -/
def SnippetPart.inserted : SnippetPart → List Char
  | .char c => [c]
  | .stop _ default => insertedText default

/-- What an editor inserts for parts while their tab stops stand at their defaults. -/
def insertedText : List SnippetPart → List Char
  | [] => []
  | part :: rest => part.inserted ++ insertedText rest

end

theorem insertedText_append (front back : List SnippetPart) :
    insertedText (front ++ back) = insertedText front ++ insertedText back := by
  induction front with
  | nil => rfl
  | cons part rest ih => simp only [List.cons_append, insertedText, ih, List.append_assoc]

theorem insertedText_chars (text : List Char) :
    insertedText (text.map .char) = text := by
  induction text with
  | nil => rfl
  | cons c rest ih => simp [insertedText, SnippetPart.inserted, ih]

/-! ## Reading on -/

theorem readWithin_cons
    (opened : List OpenDefault) (parts : List SnippetPart) (c : Char) (text : List Char) :
    readWithin opened parts (c :: text) =
      assemble opened parts ((nextToken c text).1 :: snippetTokens (nextToken c text).2) := by
  rw [readWithin, snippetTokens]

theorem readWithin_plain
    {c : Char} (hc : isEscapable c = false) (opened : List OpenDefault)
    (parts : List SnippetPart) (text : List Char) :
    readWithin opened parts (c :: text) = readWithin opened (parts ++ [.char c]) text := by
  have hnext : nextToken c text = (.char c, text) := by
    simp only [isEscapable, Bool.or_eq_false_iff, beq_eq_false_iff_ne, ne_eq] at hc
    simp only [nextToken, if_neg hc.1.1, if_neg hc.1.2, if_neg hc.2]
  rw [readWithin_cons, hnext, assemble, readWithin]

theorem readWithin_escaped
    {c : Char} (hc : isEscapable c = true) (opened : List OpenDefault)
    (parts : List SnippetPart) (text : List Char) :
    readWithin opened parts ('\\' :: c :: text) =
      readWithin opened (parts ++ [.char c]) text := by
  have hnext : nextToken '\\' (c :: text) = (.char c, text) := by
    simp [nextToken, hc]
  rw [readWithin_cons, hnext, assemble, readWithin]

theorem readWithin_brace (parts : List SnippetPart) (text : List Char) :
    readWithin [] parts ('}' :: text) = readWithin [] (parts ++ [.char '}']) text := by
  have hnext : nextToken '}' text = (.closing, text) := rfl
  rw [readWithin_cons, hnext, assemble, readWithin]

theorem readWithin_closing
    (innermost : OpenDefault) (opened : List OpenDefault) (parts : List SnippetPart)
    (text : List Char) :
    readWithin (innermost :: opened) parts ('}' :: text) =
      readWithin opened
        (innermost.before ++ [.stop (stopNumber innermost.digits) parts]) text := by
  have hnext : nextToken '}' text = (.closing, text) := rfl
  rw [readWithin_cons, hnext, assemble, readWithin]

/-! ## Reading tab stops in braces -/

theorem stopNumber_toDigits (index : Nat) : stopNumber (Nat.toDigits 10 index) = index :=
  Nat.ofDigitChars_toDigits (by decide) (by decide)

theorem isDigit_toDigits (index : Nat) : ∀ c ∈ Nat.toDigits 10 index, c.isDigit = true :=
  fun _ => Nat.isDigit_of_mem_toDigits (by decide) (by decide)

theorem digits_at_head
    (index : Nat) {c : Char} (hc : c.isDigit = false) (text : List Char) :
    (Nat.toDigits 10 index ++ c :: text).takeWhile Char.isDigit = Nat.toDigits 10 index ∧
      (Nat.toDigits 10 index ++ c :: text).dropWhile Char.isDigit = c :: text := by
  have hdigits := isDigit_toDigits index
  constructor
  · rw [List.takeWhile_append_of_pos hdigits]
    simp [hc]
  · rw [List.dropWhile_append_of_pos hdigits]
    simp [hc]

theorem readWithin_stop
    (opened : List OpenDefault) (parts : List SnippetPart) (index : Nat) (text : List Char) :
    readWithin opened parts ('$' :: '{' :: (Nat.toDigits 10 index ++ '}' :: text)) =
      readWithin opened (parts ++ [.stop index []]) text := by
  obtain ⟨htake, hdrop⟩ := digits_at_head index (c := '}') rfl text
  have hdigits : (Nat.toDigits 10 index).isEmpty = false := by
    simp [Nat.toDigits_ne_nil]
  have hnext : nextToken '$' ('{' :: (Nat.toDigits 10 index ++ '}' :: text)) =
      (.stop index, text) := by
    simp [nextToken, stop?, bracedStop?, htake, hdrop, hdigits, stopNumber_toDigits]
  rw [readWithin_cons, hnext, assemble, readWithin]

theorem readWithin_opening
    (opened : List OpenDefault) (parts : List SnippetPart) (index : Nat) (text : List Char) :
    readWithin opened parts ('$' :: '{' :: (Nat.toDigits 10 index ++ ':' :: text)) =
      readWithin (⟨Nat.toDigits 10 index, parts⟩ :: opened) [] text := by
  obtain ⟨htake, hdrop⟩ := digits_at_head index (c := ':') rfl text
  have hdigits : (Nat.toDigits 10 index).isEmpty = false := by
    simp [Nat.toDigits_ne_nil]
  have hnext : nextToken '$' ('{' :: (Nat.toDigits 10 index ++ ':' :: text)) =
      (.opening (Nat.toDigits 10 index), text) := by
    simp [nextToken, stop?, bracedStop?, htake, hdrop, hdigits]
  rw [readWithin_cons, hnext, assemble, readWithin]

end Shorthand
