import Mathlib.Data.List.Infix
import Shorthand.Toml.Document

/-!
# Readers of a document

Whatever a reader leaves is the end of what it was given.  So a number that is refused for its
digits stands in the document as it was written, and nothing else is refused in that way.
-/

namespace Shorthand.Toml

/-- A run of digits and low lines, and its digits alone. -/
inductive IsNumeral (isDigit : Char → Bool) : List Char → List Char → Prop
  | nil : IsNumeral isDigit [] []
  | digit {c : Char} {run digits : List Char} :
      isDigit c = true → IsNumeral isDigit run digits → IsNumeral isDigit (c :: run) (c :: digits)
  | low {run digits : List Char} :
      IsNumeral isDigit run digits → IsNumeral isDigit ('_' :: run) digits

/-- A numeral in a text with more digits than may be converted. -/
structure HasLongNumeral (text : List Char) (count : Nat) : Prop where
  exceeds : maxDigits < count
  written : ∃ run digits, run <:+: text ∧ IsNumeral Char.isDigit run digits ∧
    digits.length = count

theorem HasLongNumeral.of_suffix
    {text whole : List Char} {count : Nat} (hlong : HasLongNumeral text count)
    (hsuffix : text <:+ whole) : HasLongNumeral whole count := by
  obtain ⟨hexceeds, run, digits, hrun, hnumeral⟩ := hlong
  exact ⟨hexceeds, run, digits, hrun.trans hsuffix.isInfix, hnumeral⟩

theorem suffix_of_dropWhile {p : Char → Bool} {text rest : List Char} {c : Char}
    (hdrop : text.dropWhile p = c :: rest) : rest <:+ text :=
  (List.suffix_cons c rest).trans (hdrop ▸ List.dropWhile_suffix p)

/-- How many more readers the brackets of a text can set to work in each other. -/
def levels (text : List Char) : Nat := 2 * text.count '[' + 3 * text.count '{'

theorem levels_cons (c : Char) (text : List Char) :
    levels (c :: text) = levels [c] + levels text := by
  simp only [levels, List.count_cons, List.count_nil]
  omega

theorem levels_le_of_suffix {text whole : List Char} (hsuffix : text <:+ whole) :
    levels text ≤ levels whole := by
  have hlists := hsuffix.sublist.count_le '['
  have htables := hsuffix.sublist.count_le '{'
  simp only [levels]
  omega

/-- What in a text makes a reader refuse it. -/
inductive Error.HasCause (depth : Nat) (text : List Char) : Error → Prop
  | invalid : HasCause depth text .invalid
  | tooManyDigits {count : Nat} :
      HasLongNumeral text count → HasCause depth text (.tooManyDigits count)
  | tooDeep : depth ≤ levels text → HasCause depth text .tooDeep

theorem Error.HasCause.of_suffix
    {depth : Nat} {text whole : List Char} {error : Error} (hcause : error.HasCause depth text)
    (hsuffix : text <:+ whole) : error.HasCause depth whole := by
  cases hcause with
  | invalid => exact .invalid
  | tooManyDigits hlong => exact .tooManyDigits (hlong.of_suffix hsuffix)
  | tooDeep hdepth => exact .tooDeep (hdepth.trans (levels_le_of_suffix hsuffix))

/-- The result of reading a text.  What is left is an end of the text, and only a number of
the text is refused for its digits, and only brackets of the text for their depth. -/
structure Reads {α : Type} (depth : Nat) (left : α → List Char) (text : List Char)
    (result : Except Error α) : Prop where
  leaves : ∀ a, result = .ok a → left a <:+ text
  refuses : ∀ error, result = .error error → error.HasCause depth text

variable {depth : Nat}

namespace Reads

variable {α β : Type} {left : α → List Char} {text : List Char} {result : Except Error α}

theorem ok {a : α} (hleft : left a <:+ text) : Reads depth left text (.ok a) :=
  ⟨fun _ h => Except.ok.inj h ▸ hleft, nofun⟩

theorem of_cause {error : Error} (hcause : error.HasCause depth text) :
    Reads depth left text (.error error) :=
  ⟨nofun, fun _ h => Except.error.inj h ▸ hcause⟩

theorem invalid : Reads depth left text (.error .invalid) := of_cause .invalid

theorem of_suffix {whole : List Char} (hreads : Reads depth left text result)
    (hsuffix : text <:+ whole) : Reads depth left whole result :=
  ⟨fun a h => (hreads.leaves a h).trans hsuffix,
    fun error h => (hreads.refuses error h).of_suffix hsuffix⟩

theorem bind {next : α → Except Error β} {last : β → List Char}
    (hreads : Reads depth left text result)
    (hnext : ∀ a, Reads depth last (left a) (next a)) :
    Reads depth last text (result >>= next) := by
  cases result with
  | ok a => exact (hnext a).of_suffix (hreads.leaves a rfl)
  | error error => exact of_cause (hreads.refuses error rfl)

theorem map {f : α → β} {last : β → List Char} (hreads : Reads depth left text result)
    (hleft : ∀ a, last (f a) = left a) : Reads depth last text (result.map f) :=
  hreads.bind fun a => ok (hleft a ▸ List.suffix_refl _)

/-- What reads on behind a bracket, with the levels that it costs. -/
theorem behind {outer : Nat} {c : Char} {rest : List Char} (hreads : Reads depth left rest result)
    (hlevels : outer ≤ depth + levels [c]) : Reads outer left (c :: rest) result where
  leaves a h := (hreads.leaves a h).trans (List.suffix_cons c rest)
  refuses error h := by
    cases hreads.refuses error h with
    | invalid => exact .invalid
    | tooManyDigits hlong => exact .tooManyDigits (hlong.of_suffix (List.suffix_cons c rest))
    | tooDeep hdepth =>
        refine .tooDeep ?_
        rw [levels_cons]
        omega

theorem cons {rest : List Char} (hreads : Reads depth left rest result) (c : Char) :
    Reads depth left (c :: rest) result :=
  hreads.of_suffix (List.suffix_cons c rest)

end Reads

/-! ## Numbers -/

theorem exists_of_groupedTail (isDigit : Char → Bool) (text : List Char) :
    ∃ run, text = run ++ (groupedTail isDigit text).2 ∧
      IsNumeral isDigit run (groupedTail isDigit text).1 := by
  fun_induction groupedTail isDigit text with
  | case1 => exact ⟨[], rfl, .nil⟩
  | case2 c rest hc digits left hgroup ih =>
      obtain ⟨run, hrest, hnumeral⟩ := ih
      rw [hgroup] at hrest hnumeral
      exact ⟨'_' :: c :: run, by simp [hrest], .low (.digit hc hnumeral)⟩
  | case3 c rest hc => exact ⟨[], rfl, .nil⟩
  | case4 c rest _ hc digits left hgroup ih =>
      obtain ⟨run, hrest, hnumeral⟩ := ih
      rw [hgroup] at hrest hnumeral
      exact ⟨c :: run, by simp [hrest], .digit hc hnumeral⟩
  | case5 c rest _ hc => exact ⟨[], rfl, .nil⟩

theorem exists_of_grouped?
    {isDigit : Char → Bool} {text digits rest : List Char}
    (hgrouped : grouped? isDigit text = some (digits, rest)) :
    ∃ run, text = run ++ rest ∧ IsNumeral isDigit run digits := by
  cases text with
  | nil => cases hgrouped
  | cons c text =>
      simp only [grouped?, Option.ite_none_right_eq_some, Option.some.injEq, Prod.mk.injEq]
        at hgrouped
      obtain ⟨hc, rfl, rfl⟩ := hgrouped
      obtain ⟨run, hrest, hnumeral⟩ := exists_of_groupedTail isDigit text
      exact ⟨c :: run, congrArg (c :: ·) hrest, .digit hc hnumeral⟩

theorem suffix_of_grouped? {isDigit : Char → Bool} {text digits rest : List Char}
    (hgrouped : grouped? isDigit text = some (digits, rest)) : rest <:+ text := by
  obtain ⟨run, rfl, -⟩ := exists_of_grouped? hgrouped
  exact List.suffix_append run rest

/-- The digits behind the two characters that name their base. -/
theorem suffix_of_map_grouped?
    {isDigit : Char → Bool} {text rest : List Char} {n : Nat}
    {f : List Char × List Char → Nat × List Char} (hf : ∀ digits, (f digits).2 = digits.2)
    (hmap : (grouped? isDigit text).map f = some (n, rest)) (a b : Char) :
    rest <:+ a :: b :: text := by
  obtain ⟨⟨digits, left⟩, hgrouped, hpair⟩ := Option.map_eq_some_iff.mp hmap
  have hrest : left = rest := by
    have hleft := hf (digits, left)
    rw [hpair] at hleft
    exact hleft.symm
  rw [← hrest]
  exact (suffix_of_grouped? hgrouped).trans (List.suffix_append [a, b] text)

theorem suffix_of_based? {text rest : List Char} {n : Nat}
    (hbased : based? text = some (n, rest)) : rest <:+ text := by
  unfold based? at hbased
  split at hbased
  · exact suffix_of_map_grouped? (fun _ => rfl) hbased '0' 'x'
  · exact suffix_of_map_grouped? (fun _ => rfl) hbased '0' 'b'
  · exact suffix_of_map_grouped? (fun _ => rfl) hbased '0' 'o'
  · cases hbased

theorem exists_of_whole? {text digits rest : List Char}
    (hwhole : whole? text = some (digits, rest)) :
    ∃ run, text = run ++ rest ∧ IsNumeral Char.isDigit run digits := by
  unfold whole? at hwhole
  split at hwhole
  · cases hwhole
    exact ⟨['0'], rfl, .digit rfl .nil⟩
  · exact exists_of_grouped? hwhole

theorem takeSign_suffix (text : List Char) : (takeSign text).2 <:+ text := by
  unfold takeSign
  split
  · exact List.suffix_cons _ _
  · exact List.suffix_cons _ _
  · exact List.suffix_refl _

theorem takeFraction_suffix (text : List Char) : (takeFraction text).2 <:+ text := by
  unfold takeFraction
  split
  · split
    next hgrouped => exact (suffix_of_grouped? hgrouped).trans (List.suffix_cons _ _)
    next => exact List.suffix_refl _
  · exact List.suffix_refl _

theorem takeExponent_suffix (text : List Char) : (takeExponent text).2 <:+ text := by
  cases text with
  | nil => exact List.suffix_refl _
  | cons c rest =>
      simp only [takeExponent]
      split
      · split
        next hgrouped =>
          exact ((suffix_of_grouped? hgrouped).trans (takeSign_suffix rest)).trans
            (List.suffix_cons c rest)
        next => exact List.suffix_refl _
      · exact List.suffix_refl _

theorem reads_number? {text : List Char} {result : Except Error (Value × List Char)}
    (hnumber : number? text = some result) : Reads depth Prod.snd text result := by
  unfold number? at hnumber
  split at hnumber
  next hbased =>
    cases hnumber
    exact .ok (suffix_of_based? hbased)
  next =>
    obtain ⟨⟨digits, rest⟩, hwhole, rfl⟩ := Option.map_eq_some_iff.mp hnumber
    obtain ⟨run, hbody, hnumeral⟩ := exists_of_whole? hwhole
    have hsign := takeSign_suffix text
    have hrest : (takeExponent (takeFraction rest).2).2 <:+ text :=
      calc (takeExponent (takeFraction rest).2).2
          <:+ rest := (takeExponent_suffix _).trans (takeFraction_suffix rest)
        _ <:+ (takeSign text).2 := hbody ▸ List.suffix_append run rest
        _ <:+ text := hsign
    simp only
    split
    · split
      next hexceeds =>
        have hrun : run <:+: text :=
          (List.infix_append' [] run rest).trans (hbody ▸ hsign.isInfix)
        exact .of_cause (.tooManyDigits ⟨hexceeds, run, digits, hrun, hnumeral, rfl⟩)
      next => exact .ok hrest
    · exact .ok hrest

/-! ## Moments and words -/

theorem suffix_of_fixedDigits {count n : Nat} {text rest : List Char}
    (hdigits : fixedDigits count text = some (n, rest)) : rest <:+ text := by
  simp only [fixedDigits, Option.ite_none_right_eq_some, Option.some.injEq, Prod.mk.injEq]
    at hdigits
  obtain ⟨-, -, rfl⟩ := hdigits
  exact List.drop_suffix count text

theorem suffix_of_after {c : Char} {text rest : List Char}
    (hafter : after c text = some rest) : rest <:+ text := by
  cases text with
  | nil => cases hafter
  | cons head tail =>
      simp only [after, Option.ite_none_right_eq_some, Option.some.injEq] at hafter
      obtain ⟨-, rfl⟩ := hafter
      exact List.suffix_cons head tail

theorem takeMicroseconds_suffix (text : List Char) : (takeMicroseconds text).2 <:+ text := by
  unfold takeMicroseconds
  split
  · simp only
    split
    · exact List.suffix_refl _
    · exact (List.dropWhile_suffix _).trans (List.suffix_cons _ _)
  · exact List.suffix_refl _

theorem suffix_of_time? {text rest : List Char} {time : Time}
    (htime : time? text = some (time, rest)) : rest <:+ text := by
  simp only [time?, Option.bind_eq_bind, Option.bind_eq_some_iff, Option.ite_none_right_eq_some]
    at htime
  obtain ⟨⟨hour, left⟩, hhour, left₁, hcolon, ⟨minute, left₂⟩, hminute, left₃, hcolon₂,
    ⟨second, left₄⟩, hsecond, -, ⟨⟩⟩ := htime
  calc (takeMicroseconds left₄).2
      <:+ left₄ := takeMicroseconds_suffix left₄
    _ <:+ left₃ := suffix_of_fixedDigits hsecond
    _ <:+ left₂ := suffix_of_after hcolon₂
    _ <:+ left₁ := suffix_of_fixedDigits hminute
    _ <:+ left := suffix_of_after hcolon
    _ <:+ text := suffix_of_fixedDigits hhour

theorem takeOffset_suffix (text : List Char) : (takeOffset text).2 <:+ text := by
  cases text with
  | nil => exact List.suffix_refl _
  | cons c rest =>
      simp only [takeOffset]
      split
      · exact List.suffix_cons c rest
      · split
        · split
          next hoffset =>
            simp only [Option.bind_eq_bind, Option.bind_eq_some_iff,
              Option.ite_none_right_eq_some] at hoffset
            obtain ⟨⟨hour, left⟩, hhour, left₁, hcolon, ⟨minute, left₂⟩, hminute, -, ⟨⟩⟩ := hoffset
            calc left₂
                <:+ left₁ := suffix_of_fixedDigits hminute
              _ <:+ left := suffix_of_after hcolon
              _ <:+ rest := suffix_of_fixedDigits hhour
              _ <:+ c :: rest := List.suffix_cons c rest
          next => exact List.suffix_refl _
        · exact List.suffix_refl _

theorem suffix_of_date? {text rest : List Char} {date : Date}
    (hdate : date? text = some (date, rest)) : rest <:+ text := by
  simp only [date?, Option.bind_eq_bind, Option.bind_eq_some_iff, Option.ite_none_right_eq_some]
    at hdate
  obtain ⟨⟨year, left⟩, hyear, left₁, hdash, ⟨month, left₂⟩, hmonth, left₃, hdash₂,
    ⟨day, left₄⟩, hday, -, ⟨⟩⟩ := hdate
  calc left₄
      <:+ left₃ := suffix_of_fixedDigits hday
    _ <:+ left₂ := suffix_of_after hdash₂
    _ <:+ left₁ := suffix_of_fixedDigits hmonth
    _ <:+ left := suffix_of_after hdash
    _ <:+ text := suffix_of_fixedDigits hyear

theorem suffix_of_timeBehind? {text rest : List Char} {time : Time}
    (htime : timeBehind? text = some (time, rest)) : rest <:+ text := by
  cases text with
  | nil => cases htime
  | cons c text =>
      simp only [timeBehind?, Option.ite_none_right_eq_some] at htime
      exact (suffix_of_time? htime.2).trans (List.suffix_cons c text)

theorem reads_moment? {text : List Char} {result : Except Error (Value × List Char)}
    (hmoment : moment? text = some result) : Reads depth Prod.snd text result := by
  unfold moment? at hmoment
  split at hmoment
  next date rest hdate =>
    have hrest : rest <:+ text := suffix_of_date? hdate
    cases hmoment
    split
    · exact .invalid
    · split
      · exact .ok hrest
      next htime =>
        exact .ok ((takeOffset_suffix _).trans ((suffix_of_timeBehind? htime).trans hrest))
  next =>
    obtain ⟨⟨time, rest⟩, htime, rfl⟩ := Option.map_eq_some_iff.mp hmoment
    exact .ok (suffix_of_time? htime)

theorem suffix_of_afterWord {word : String} {text rest : List Char}
    (hword : afterWord word text = some rest) : rest <:+ text := by
  simp only [afterWord, Option.ite_none_right_eq_some, Option.some.injEq] at hword
  obtain ⟨-, rfl⟩ := hword
  exact List.drop_suffix _ text

theorem reads_scalar (text : List Char) : Reads depth Prod.snd text (scalar text) := by
  unfold scalar
  split
  next result hresult =>
    cases hmoment : moment? text with
    | some _ =>
        rw [hmoment] at hresult
        cases hresult
        exact reads_moment? hmoment
    | none =>
        rw [hmoment] at hresult
        exact reads_number? hresult
  next =>
    split
    next word hword =>
      obtain ⟨⟨word, value⟩, -, hafter⟩ := List.exists_of_findSome?_eq_some hword
      obtain ⟨rest, hrest, rfl⟩ := Option.map_eq_some_iff.mp hafter
      exact .ok (suffix_of_afterWord hrest)
    next => exact .invalid

/-! ## Texts and keys -/

theorem reads_codePoint (count : Nat) (text : List Char) :
    Reads depth Prod.snd text (codePoint count text) := by
  simp only [codePoint]
  split
  · exact .ok (List.drop_suffix count text)
  · exact .invalid

theorem reads_lineEnding (text : List Char) : Reads depth Prod.snd text (lineEnding text) := by
  have hrest := List.dropWhile_suffix (l := text) isWhite
  unfold lineEnding
  split
  · exact .ok (List.nil_suffix)
  next rest heq =>
    rw [heq] at hrest
    exact .ok ((List.dropWhile_suffix _).trans ((List.suffix_cons _ _).trans hrest))
  · exact .invalid

theorem reads_escape (isMultiline : Bool) (text : List Char) :
    Reads depth Prod.snd text (escape isMultiline text) := by
  unfold escape
  split
  case h_8 rest => exact ((reads_codePoint 4 rest).map fun _ => by rfl).cons _
  case h_9 rest => exact ((reads_codePoint 8 rest).map fun _ => by rfl).cons _
  case h_10 =>
    split
    · exact reads_lineEnding _
    · exact .invalid
  case h_11 => exact .invalid
  all_goals exact .ok (List.suffix_cons _ _)

theorem reads_basicText (isMultiline : Bool) (fuel : Nat) (text : List Char) :
    Reads depth Prod.snd text (basicText isMultiline fuel text) := by
  fun_induction basicText isMultiline fuel text with
  | case1 | case2 | case7 => exact .invalid
  | case3 => exact .ok (List.suffix_cons _ _)
  | case4 fuel _ rest => exact .ok (List.suffix_append ['"', '"', '"'] rest)
  | case5 =>
      rename_i ih
      exact (ih.map fun _ => by rfl).cons _
  | case6 fuel rest =>
      rename_i ih
      refine ((reads_escape isMultiline rest).bind ?_).cons _
      rintro ⟨head, rest⟩
      refine (ih rest).bind ?_
      rintro ⟨tail, rest⟩
      exact .ok (List.suffix_refl rest)
  | case8 =>
      rename_i ih
      exact (ih.map fun _ => by rfl).cons _

theorem reads_literalText (text : List Char) : Reads depth Prod.snd text (literalText text) := by
  fun_induction literalText text with
  | case1 | case3 => exact .invalid
  | case2 => exact .ok (List.suffix_cons _ _)
  | case4 =>
      rename_i ih
      exact (ih.map fun _ => by rfl).cons _

theorem reads_literalLines (text : List Char) : Reads depth Prod.snd text (literalLines text) := by
  fun_induction literalLines text with
  | case1 | case3 => exact .invalid
  | case2 rest => exact .ok (List.suffix_append ['\'', '\'', '\''] rest)
  | case4 =>
      rename_i ih
      exact (ih.map fun _ => by rfl).cons _

theorem withMarks_suffix (mark : Char) (text rest : List Char) :
    (withMarks mark text rest).2 <:+ rest := by
  unfold withMarks
  split
  · split
    · exact List.suffix_refl _
    · split
      · exact List.suffix_cons _ _
      · exact List.suffix_append [_, _] _
  · split
    · exact List.nil_suffix
    · exact List.suffix_refl _
  · exact List.suffix_refl _

theorem dropNewline_suffix (text : List Char) : dropNewline text <:+ text := by
  unfold dropNewline
  split
  · exact List.suffix_cons _ _
  · exact List.suffix_refl _

/-- A text on several lines, behind the three marks that open it. -/
theorem reads_withMarks
    {mark a b c : Char} {rest : List Char} {result : Except Error (List Char × List Char)}
    (hreads : Reads depth Prod.snd (dropNewline rest) result) :
    Reads depth Prod.snd (a :: b :: c :: rest)
      (result >>= fun (text, rest) => pure (withMarks mark text rest)) := by
  refine (hreads.of_suffix ?_).bind ?_
  · exact (dropNewline_suffix rest).trans (List.suffix_append [a, b, c] rest)
  · rintro ⟨text, rest⟩
    exact .ok (withMarks_suffix mark text rest)

theorem reads_quotedText (text : List Char) : Reads depth Prod.snd text (quotedText text) := by
  unfold quotedText
  split
  · exact reads_withMarks (reads_basicText ..)
  · exact reads_withMarks (reads_literalLines _)
  · exact (reads_basicText ..).cons _
  · exact (reads_literalText _).cons _
  · exact .invalid

theorem reads_keyPart (text : List Char) : Reads depth Prod.snd text (keyPart text) := by
  unfold keyPart
  split
  · exact ((reads_basicText ..).map fun _ => by rfl).cons _
  · exact ((reads_literalText _).map fun _ => by rfl).cons _
  · split
    · exact .invalid
    · exact .ok (List.dropWhile_suffix _)

theorem reads_key (fuel : Nat) (text : List Char) : Reads depth Prod.snd text (key fuel text) := by
  induction fuel generalizing text with
  | zero => exact .invalid
  | succ fuel ih =>
      rw [key]
      refine (reads_keyPart text).bind ?_
      rintro ⟨part, rest⟩
      simp only
      split
      next behind hdot =>
        have hparts :=
          (List.dropWhile_suffix (l := behind) isWhite).trans (suffix_of_dropWhile hdot)
        refine ((ih _).of_suffix hparts).bind ?_
        rintro ⟨parts, rest⟩
        exact .ok (List.suffix_refl rest)
      next => exact .ok (List.dropWhile_suffix _)

/-! ## Values -/

theorem reads_skipComment (text : List Char) : Reads depth id text (skipComment text) := by
  unfold skipComment
  split
  · split
    · exact .invalid
    · exact .ok ((List.dropWhile_suffix _).trans (List.suffix_cons _ _))
  · exact .ok (List.suffix_refl _)

theorem reads_skipFiller (fuel : Nat) (text : List Char) :
    Reads depth id text (skipFiller fuel text) := by
  induction fuel generalizing text with
  | zero => exact .ok (List.suffix_refl text)
  | succ fuel ih =>
      have hblanks := List.dropWhile_suffix (l := text) isWhiteOrNewline
      rw [skipFiller]
      split
      next rest hcomment =>
        rw [hcomment] at hblanks
        exact ((reads_skipComment _).of_suffix hblanks).bind ih
      next => exact .ok hblanks

theorem reads_required {α : Type} (text : List Char) (a : Option α) :
    Reads depth (fun _ => text) text (required a) := by
  cases a with
  | none => exact .invalid
  | some a => exact .ok (List.suffix_refl text)

/-- Every reader of values, with some fuel.  A value needs the levels of its brackets alone;
the other readers stand a level or two above the value that they call. -/
structure ReadsValues (fuel : Nat) : Prop where
  value : ∀ depth text, Reads depth Prod.snd text (value fuel depth text)
  items : ∀ depth text, Reads (depth - 1) Prod.snd text (items fuel depth text)
  fields : ∀ depth table frozen text,
    Reads (depth - 2) Prod.snd text (fields fuel depth table frozen text)
  pair : ∀ depth text, Reads (depth - 1) (·.2.2) text (pair fuel depth text)

/-- A reader that goes on below, where it may be at work at all. -/
theorem Reads.within
    {α : Type} {left : α → List Char} {text : List Char} {next : Nat → Except Error α} (above : Nat)
    (hnext : ∀ inner, depth = inner + 1 → Reads (depth - above) left text (next inner)) :
    Reads (depth - above) left text (deeper depth >>= next) := by
  cases depth with
  | zero =>
      rw [Nat.zero_sub]
      exact of_cause (.tooDeep (Nat.zero_le _))
  | succ inner => exact hnext inner rfl

section
variable {fuel : Nat} (hreads : ReadsValues fuel)
include hreads

theorem reads_value (depth : Nat) (text : List Char) :
    Reads depth Prod.snd text (value (fuel + 1) depth text) := by
  rw [value]
  refine Reads.within 0 ?_
  rintro inner rfl
  have hlist : inner + 1 ≤ inner - 1 + levels ['['] := by
    simp [levels]
    omega
  have htable : inner + 1 ≤ inner - 2 + levels ['{'] := by
    simp [levels]
    omega
  split
  · exact (reads_quotedText _).map fun _ => by rfl
  · exact (reads_quotedText _).map fun _ => by rfl
  next rest =>
    refine ((reads_skipFiller rest.length rest).bind fun rest => ?_).behind hlist
    refine (hreads.items inner rest).bind ?_
    rintro ⟨items, rest⟩
    exact .ok (List.suffix_refl rest)
  next rest =>
    refine Reads.behind ?_ htable
    split
    next hclosing => exact .ok (suffix_of_dropWhile hclosing)
    next =>
      refine ((hreads.fields inner [] [] _).of_suffix (List.dropWhile_suffix _)).bind ?_
      rintro ⟨table, rest⟩
      exact .ok (List.suffix_refl rest)
  · exact reads_scalar text

theorem reads_items (depth : Nat) (text : List Char) :
    Reads (depth - 1) Prod.snd text (items (fuel + 1) depth text) := by
  rw [items]
  refine Reads.within 1 ?_
  rintro inner rfl
  split
  · exact .ok (List.suffix_cons _ _)
  · refine (hreads.value inner _).bind ?_
    rintro ⟨item, rest⟩
    refine (reads_skipFiller rest.length rest).bind fun rest => ?_
    split
    · exact .ok (List.suffix_cons _ _)
    next rest =>
      refine ((reads_skipFiller rest.length rest).bind fun rest => ?_).cons _
      refine (hreads.items (inner + 1) rest).bind ?_
      rintro ⟨more, rest⟩
      exact .ok (List.suffix_refl rest)
    · exact .invalid

theorem reads_fields (depth : Nat) (table : Table) (frozen : List KeyPath) (text : List Char) :
    Reads (depth - 2) Prod.snd text (fields (fuel + 1) depth table frozen text) := by
  rw [fields]
  refine Reads.within 2 ?_
  rintro inner rfl
  refine (hreads.pair inner text).bind ?_
  rintro ⟨path, item, rest⟩
  simp only
  split
  · exact .invalid
  · refine Reads.bind (reads_required rest _) fun table => ?_
    split
    next hclosing => exact .ok (suffix_of_dropWhile hclosing)
    next hcomma =>
      exact (hreads.fields (inner + 1) _ _ _).of_suffix
        ((List.dropWhile_suffix _).trans (suffix_of_dropWhile hcomma))
    · exact .invalid

theorem reads_pair (depth : Nat) (text : List Char) :
    Reads (depth - 1) (·.2.2) text (pair (fuel + 1) depth text) := by
  rw [pair]
  refine Reads.within 1 ?_
  rintro inner rfl
  refine (reads_key (text.length + 1) text).bind ?_
  rintro ⟨path, rest⟩
  simp only
  split
  next rest =>
    refine (((hreads.value inner _).of_suffix (List.dropWhile_suffix _)).bind ?_).cons _
    rintro ⟨item, rest⟩
    exact .ok (List.suffix_refl rest)
  · exact .invalid

end

theorem readsValues (fuel : Nat) : ReadsValues fuel := by
  induction fuel with
  | zero =>
      exact ⟨fun _ _ => .invalid, fun _ _ => .invalid, fun _ _ _ _ => .invalid,
        fun _ _ => .invalid⟩
  | succ fuel ih => exact ⟨reads_value ih, reads_items ih, reads_fields ih, reads_pair ih⟩

/-! ## Lines -/

theorem reads_setKey (text : List Char) (document : Document) (header path : KeyPath)
    (item : Value) : Reads depth (fun _ => text) text (document.setKey header path item) := by
  simp only [Document.setKey]
  split
  · exact .invalid
  · split
    · exact .invalid
    · exact (reads_required text _).bind fun _ => .ok (List.suffix_refl text)

theorem reads_declareTable (text : List Char) (document : Document) (path : KeyPath) :
    Reads depth (fun _ => text) text (document.declareTable path) := by
  simp only [Document.declareTable]
  split
  · exact .invalid
  · exact (reads_required text _).bind fun _ => .ok (List.suffix_refl text)

theorem reads_declareItem (text : List Char) (document : Document) (path : KeyPath) :
    Reads depth (fun _ => text) text (document.declareItem path) := by
  simp only [Document.declareItem]
  split
  · exact .invalid
  · exact (reads_required text _).bind fun _ => .ok (List.suffix_refl text)

theorem reads_statement (depth : Nat) (document : Document) (header : KeyPath)
    (text : List Char) :
    Reads (depth - 1) (·.2.2) text (statement depth document header text) := by
  unfold statement
  split
  next rest =>
    refine (((reads_key (rest.length + 1) _).of_suffix (List.dropWhile_suffix _)).bind ?_).of_suffix
      (List.suffix_append ['[', '['] rest)
    rintro ⟨path, rest⟩
    refine (reads_declareItem rest _ path).bind fun document => ?_
    split
    next rest => exact .ok (List.suffix_append [']', ']'] rest)
    · exact .invalid
  next rest _ =>
    refine (((reads_key (rest.length + 1) _).of_suffix (List.dropWhile_suffix _)).bind ?_).cons _
    rintro ⟨path, rest⟩
    refine (reads_declareTable rest _ path).bind fun document => ?_
    split
    · exact .ok (List.suffix_cons _ _)
    · exact .invalid
  · exact .ok (List.suffix_refl _)
  · exact .ok (List.suffix_refl _)
  · exact .ok (List.suffix_refl _)
  · refine ((readsValues _).pair depth text).bind ?_
    rintro ⟨path, item, rest⟩
    exact (reads_setKey rest document header path item).bind fun _ => .ok (List.suffix_refl rest)

theorem reads_lines (depth fuel : Nat) (document : Document) (header : KeyPath)
    (text : List Char) :
    Reads (depth - 1) (fun _ => []) text (lines depth fuel document header text) := by
  induction fuel generalizing document header text with
  | zero => exact .ok List.nil_suffix
  | succ fuel ih =>
      rw [lines]
      refine ((reads_statement depth document header _).of_suffix (List.dropWhile_suffix _)).bind ?_
      rintro ⟨document, header, rest⟩
      refine ((reads_skipComment _).of_suffix (List.dropWhile_suffix _)).bind fun rest => ?_
      split
      · exact .ok List.nil_suffix
      · exact (ih ..).cons _
      · exact .invalid

/-- A text is refused for what stands in it. -/
theorem hasCause_of_parse {text : List Char} {error : Error}
    (hparse : parse depth text = .error error) : error.HasCause (depth - 1) text := by
  have hreads : Reads (depth - 1) (fun _ => []) text (parse depth text) :=
    (reads_lines depth (text.length + 1) ⟨[], [], [], []⟩ [] text).bind fun _ =>
      .ok List.nil_suffix
  exact hreads.refuses error hparse

-- The bound is met: two brackets cost four levels, a statement and its value one each.
example : levels "a=[[1]]".toList = 4 ∧ parse 5 "a=[[1]]".toList = .error .tooDeep := by
  exact ⟨by cbv, by cbv⟩

example : parse 6 "a=[[1]]".toList = .ok [("a", .list [.list [.int 1]])] := by cbv

end Shorthand.Toml
