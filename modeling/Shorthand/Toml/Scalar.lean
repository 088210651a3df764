import Shorthand.Decimal.Nearest
import Shorthand.Text.Integer
import Shorthand.Value

/-!
# TOML scalars

Numbers and moments of a TOML document.
-/

namespace Shorthand.Toml

/-- Why a text is no document. -/
inductive Error
  | invalid
  /-- An integer has more digits than may be converted. -/
  | tooManyDigits (count : Nat)
  /-- Values lie deeper in each other than may be read. -/
  | tooDeep
  deriving DecidableEq, Repr

/-- The value of a digit in any base up to sixteen. -/
def digitValue (c : Char) : Nat :=
  if c.isDigit then c.toNat - '0'.toNat else c.toLower.toNat - 'a'.toNat + 10

/-- The number that digits write in a base. -/
def number (base : Nat) (digits : List Char) : Nat :=
  digits.foldl (fun n c => n * base + digitValue c) 0

def isHexDigit (c : Char) : Bool :=
  c.isDigit || ('a' ≤ c && c ≤ 'f') || ('A' ≤ c && c ≤ 'F')

/-- The digits of a base other than ten behind its sign. -/
def based? : List Char → Option (Nat × List Char)
  | '0' :: 'x' :: rest => (grouped? isHexDigit rest).map fun (ds, rest) => (number 16 ds, rest)
  | '0' :: 'b' :: rest =>
    (grouped? (fun c => c == '0' || c == '1') rest).map fun (ds, rest) => (number 2 ds, rest)
  | '0' :: 'o' :: rest =>
    (grouped? (fun c => '0' ≤ c && c ≤ '7') rest).map fun (ds, rest) => (number 8 ds, rest)
  | _ => none

/-- The whole part of a number: a zero, or digits that start with another one. -/
def whole? : List Char → Option (List Char × List Char)
  | '0' :: rest => some (['0'], rest)
  | text => grouped? Char.isDigit text

/-- The digits behind a point, if there are any, and what follows. -/
def takeFraction (text : List Char) : Option (List Char) × List Char :=
  match text with
  | '.' :: rest =>
    match grouped? Char.isDigit rest with
    | some (digits, rest) => (some digits, rest)
    | none => (none, text)
  | _ => (none, text)

/-- The exponent of ten, if there is one, and what follows. -/
def takeExponent (text : List Char) : Option Int × List Char :=
  match text with
  | c :: rest =>
    if c == 'e' || c == 'E' then
      let (negative, rest) := takeSign rest
      match grouped? Char.isDigit rest with
      | some (digits, rest) =>
        (some (if negative then -(number 10 digits : Int) else number 10 digits), rest)
      | none => (none, text)
    else (none, text)
  | [] => (none, text)

/-- The number at the head of a text, if there is one. -/
def number? (text : List Char) : Option (Except Error (Value × List Char)) :=
  match based? text with
  | some (n, rest) => some (.ok (.int n, rest))
  | none =>
    let (negative, body) := takeSign text
    (whole? body).map fun (digits, rest) =>
      let (fraction, rest) := takeFraction rest
      let (exponent, rest) := takeExponent rest
      if fraction.isNone && exponent.isNone then
        if digits.length > maxDigits then .error (.tooManyDigits digits.length)
        else .ok (.int (if negative then -(number 10 digits : Int) else number 10 digits), rest)
      else
        let fraction := fraction.getD []
        let size := Decimal.nearest (number 10 (digits ++ fraction))
          (exponent.getD 0 - fraction.length)
        .ok (.float (if negative then -size else size), rest)

/-- Exactly `count` digits at the head of a text as a number, and what follows. -/
def fixedDigits (count : Nat) (text : List Char) : Option (Nat × List Char) :=
  let digits := text.take count
  if digits.length = count && digits.all Char.isDigit then
    some (number 10 digits, text.drop count)
  else none

def after (c : Char) : List Char → Option (List Char)
  | head :: rest => if head == c then some rest else none
  | [] => none

/-- The fraction of a second behind a point, in millionths, and what follows. -/
def takeMicroseconds (text : List Char) : Nat × List Char :=
  match text with
  | '.' :: rest =>
    let digits := rest.takeWhile Char.isDigit
    if digits.isEmpty then (0, text)
    else
      let kept := digits.take 6
      (number 10 kept * Decimal.tenTo (6 - kept.length), rest.dropWhile Char.isDigit)
  | _ => (0, text)

/-- The time of day at the head of a text, and what follows. -/
def time? (text : List Char) : Option (Time × List Char) := do
  let (hour, rest) ← fixedDigits 2 text
  let (minute, rest) ← fixedDigits 2 (← after ':' rest)
  let (second, rest) ← fixedDigits 2 (← after ':' rest)
  if hour ≤ 23 && minute ≤ 59 && second ≤ 59 then
    let (microsecond, rest) := takeMicroseconds rest
    return (⟨hour, minute, second, microsecond⟩, rest)
  else none

/-- The offset from universal time at the head of a text, and what follows. -/
def takeOffset (text : List Char) : Option Int × List Char :=
  match text with
  | c :: rest =>
    if c == 'Z' || c == 'z' then (some 0, rest)
    else if c == '+' || c == '-' then
      let offset : Option (Int × List Char) := do
        let (hour, rest) ← fixedDigits 2 rest
        let (minute, rest) ← fixedDigits 2 (← after ':' rest)
        if hour ≤ 23 && minute ≤ 59 then
          let size : Int := hour * 60 + minute
          return (if c == '-' then -size else size, rest)
        else none
      match offset with
      | some (offset, rest) => (some offset, rest)
      | none => (none, text)
    else (none, text)
  | [] => (none, text)

/-- The day at the head of a text, and what follows. -/
def date? (text : List Char) : Option (Date × List Char) := do
  let (year, rest) ← fixedDigits 4 text
  let (month, rest) ← fixedDigits 2 (← after '-' rest)
  let (day, rest) ← fixedDigits 2 (← after '-' rest)
  if 1 ≤ month && month ≤ 12 && 1 ≤ day && day ≤ 31 then return (⟨year, month, day⟩, rest)
  else none

/-- The time of day behind a day, if there is one, and what follows. -/
def timeBehind? : List Char → Option (Time × List Char)
  | c :: rest => if c == 'T' || c == 't' || c == ' ' then time? rest else none
  | [] => none

/-- The moment, day or time of day at the head of a text, if there is one. -/
def moment? (text : List Char) : Option (Except Error (Value × List Char)) :=
  match date? text with
  | some (date, rest) =>
    some <|
      if !date.isValid then .error .invalid
      else
        match timeBehind? rest with
        | none => .ok (.date date, rest)
        | some (time, rest) =>
          let (offset, rest) := takeOffset rest
          .ok (.dateTime ⟨date, time, offset⟩, rest)
  | none => (time? text).map fun (time, rest) => .ok (.time time, rest)

/-- What follows a word, if the text starts with it. -/
def afterWord (word : String) (text : List Char) : Option (List Char) :=
  if word.toList.isPrefixOf text then some (text.drop word.length) else none

def specialWords : List (String × Value) :=
  [("true", .bool true), ("false", .bool false), ("inf", .float Decimal.infinity),
    ("+inf", .float Decimal.infinity), ("-inf", .float (-Decimal.infinity)),
    ("nan", .float Decimal.notANumber), ("+nan", .float Decimal.notANumber),
    ("-nan", .float Decimal.notANumber)]

/-- The number, moment or word at the head of a text. -/
def scalar (text : List Char) : Except Error (Value × List Char) :=
  match (moment? text).orElse fun _ => number? text with
  | some result => result
  | none =>
    match specialWords.findSome? fun (word, value) =>
        (afterWord word text).map fun rest => (value, rest) with
    | some result => .ok result
    | none => .error .invalid

end Shorthand.Toml
