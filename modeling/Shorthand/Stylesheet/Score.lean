import Shorthand.Text.Blank

/-!
# Match scores

How well a short form matches a longer name.  The characters of the short form
are sought in the name in order; early ones count more, and one behind a dash
counts twice.
-/

namespace Shorthand.Stylesheet

/-- The sum of the numbers from one to `n`. -/
def triangle (n : Nat) : Nat := n * (n + 1) / 2

/-- The rest of a name from the next place of a character on, and whether a dash
stands right in front of it. -/
def seek (c : Char) : Bool → List Char → Option (List Char × Bool)
  | _, [] => none
  | afterDash, next :: rest =>
    if c == next then some (next :: rest, afterDash) else seek c (next == '-') rest

/-- The points for the characters of a short form behind the first, and how many
of them are found.  `size` is the length of the longer text, and `name` the part
of the name to seek in, which has `total` characters in all. -/
def points (size total : Nat) (name : List Char) : List Char → Nat × Nat
  | [] => (0, 0)
  | c :: rest =>
    match seek c false name with
    | none => (0, 0)
    | some (found, afterDash) =>
      let (more, count) := points size total found rest
      let place := total - found.length
      ((size - place) * (if afterDash then 2 else 1) + more, count + 1)

/-- How well a short form matches a name, from zero to one.  In a partial match
the end of the short form may be missing from the name. -/
def score (isPartial : Bool) (short name : List Char) : Float :=
  let short := lower short
  let name := lower name
  if short == name then 1
  else
    match short, name with
    | a :: shortRest, b :: nameRest =>
      if a != b || (!isPartial && short.length > name.length) then 0
      else
        let size := max short.length name.length
        let (more, count) := points size name.length nameRest shortRest
        if !isPartial && count < shortRest.length then 0
        else
          let ratio := (count + 1).toFloat / size.toFloat
          let best := triangle size - triangle (size - min short.length name.length)
          (size + more).toFloat * ratio / best.toFloat
    | _, _ => 0

/-- The best match so far among candidates, with its score.  A candidate that is
matched in full ends the search; of equal ones the last is taken. -/
def bestFrom {α : Type} (isPartial : Bool) (name : α → List Char) (short : List Char) :
    Option α → Float → List α → Option α
  | best, _, [] => best
  | best, highest, candidate :: rest =>
    let value := score isPartial short (name candidate)
    if value == 1 then some candidate
    else if value != 0 && value ≥ highest then
      bestFrom isPartial name short (some candidate) value rest
    else bestFrom isPartial name short best highest rest

/-- The candidate whose name a short form matches best, if it matches any. -/
def bestMatch? {α : Type} (isPartial : Bool) (name : α → List Char) (short : List Char)
    (candidates : List α) : Option α :=
  bestFrom isPartial name short none 0 candidates

/-- The end of a short form whose characters a name does not hold in order. -/
def unmatchedPart : List Char → List Char → List Char
  | [], _ => []
  | c :: rest, name =>
    match name.dropWhile (· != c) with
    | [] => c :: rest
    | _ :: later => unmatchedPart rest later

end Shorthand.Stylesheet
