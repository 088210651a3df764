/-!
# Calendar

Dates, times of day and moments, and how they are written.
-/

namespace Shorthand

/-- A day of the calendar. -/
structure Date where
  year : Nat
  month : Nat
  day : Nat
  deriving DecidableEq, Repr

/-- A time of day. -/
structure Time where
  hour : Nat
  minute : Nat
  second : Nat
  microsecond : Nat
  deriving DecidableEq, Repr

/-- A day and a time of day, perhaps with an offset from universal time in minutes. -/
structure DateTime where
  date : Date
  time : Time
  offset : Option Int
  deriving DecidableEq, Repr

/-- A number with at least `width` digits. -/
def padded (width n : Nat) : List Char :=
  let digits := Nat.toDigits 10 n
  List.replicate (width - digits.length) '0' ++ digits

def isLeapYear (year : Nat) : Bool := year % 4 == 0 && (year % 100 != 0 || year % 400 == 0)

def daysInMonth (year month : Nat) : Nat :=
  if month = 2 then if isLeapYear year then 29 else 28
  else if month = 4 || month = 6 || month = 9 || month = 11 then 30
  else 31

def Date.isValid (date : Date) : Bool :=
  1 ≤ date.year && 1 ≤ date.month && date.month ≤ 12 && 1 ≤ date.day &&
    date.day ≤ daysInMonth date.year date.month

/-- A day by year, month and day. -/
def Date.text (date : Date) : List Char :=
  padded 4 date.year ++ '-' :: padded 2 date.month ++ '-' :: padded 2 date.day

/-- A time of day, with a fraction of a second if there is one. -/
def Time.text (time : Time) : List Char :=
  padded 2 time.hour ++ ':' :: padded 2 time.minute ++ ':' :: padded 2 time.second ++
    if time.microsecond = 0 then [] else '.' :: padded 6 time.microsecond

/-- An offset by sign, hours and minutes. -/
def offsetText (offset : Int) : List Char :=
  (if offset < 0 then '-' else '+') :: padded 2 (offset.natAbs / 60) ++
    ':' :: padded 2 (offset.natAbs % 60)

/-- A moment with a sign between its day and its time. -/
def DateTime.text (separator : Char) (moment : DateTime) : List Char :=
  moment.date.text ++ separator :: moment.time.text ++
    match moment.offset with
    | none => []
    | some offset => offsetText offset

/-- Parts between commas. -/
def listed : List (List Char) → List Char
  | [] => []
  | [part] => part
  | part :: rest => part ++ ',' :: ' ' :: listed rest

/-- The numbers of a day, as a constructor takes them. -/
def Date.arguments (date : Date) : List (List Char) :=
  [date.year, date.month, date.day].map (padded 1)

/-- The numbers of a time of day, without seconds and their fraction if both are zero. -/
def Time.arguments (time : Time) : List (List Char) :=
  ([time.hour, time.minute] ++
    if time.microsecond ≠ 0 then [time.second, time.microsecond]
    else if time.second ≠ 0 then [time.second]
    else []).map (padded 1)

/-- An offset as a constructor call.  A negative one counts up from the day before. -/
def offsetCall (offset : Int) : List Char :=
  if offset = 0 then "datetime.timezone.utc".toList
  else
    "datetime.timezone(datetime.timedelta(".toList ++
      (if offset < 0 then s!"days=-1, seconds={(offset + 1440) * 60}"
       else s!"seconds={offset * 60}").toList ++ "))".toList

/-- A day as a constructor call. -/
def Date.call (date : Date) : List Char :=
  "datetime.date(".toList ++ listed date.arguments ++ [')']

def Time.call (time : Time) : List Char :=
  "datetime.time(".toList ++ listed time.arguments ++ [')']

def DateTime.call (moment : DateTime) : List Char :=
  "datetime.datetime(".toList ++
    listed (moment.date.arguments ++ moment.time.arguments ++
      match moment.offset with
      | none => []
      | some offset => ["tzinfo=".toList ++ offsetCall offset]) ++ [')']

end Shorthand
