import ChatTerminal.Text.Blank
/-!
# Dates in headers

The second that a date in a header denotes. Four spellings are read; the zone is always GMT. A year
below 100 is a year of the two centuries around 2000.
-/

namespace ChatTerminal.Web

open Text

namespace Date

def monthNames : List String :=
  ["Jan", "Feb", "Mar", "Apr", "May", "Jun", "Jul", "Aug", "Sep", "Oct", "Nov", "Dec"]

def dayNames : List String :=
  ["Monday", "Tuesday", "Wednesday", "Thursday", "Friday", "Saturday", "Sunday"]

/-- The number of days from the start of 1970 to a day of the Gregorian calendar. Years are
counted from March, so that the leap day is the last of its year. -/
def daysFromCivil (year : Int) (month day : Nat) : Int :=
  let y := if month ≤ 2 then year - 1 else year
  let era := y / 400
  let yearOfEra := (y % 400).toNat
  let monthFromMarch := (month + 9) % 12
  let dayOfYear := (153 * monthFromMarch + 2) / 5 + day - 1
  let dayOfEra := yearOfEra * 365 + yearOfEra / 4 - yearOfEra / 100 + dayOfYear
  era * 146097 + dayOfEra - 719468

def isLeap (year : Int) : Bool :=
  year % 4 = 0 && (year % 100 ≠ 0 || year % 400 = 0)

def daysInMonth (year : Int) (month : Nat) : Nat :=
  if month = 2 then if isLeap year then 29 else 28
  else if month = 4 || month = 6 || month = 9 || month = 11 then 30 else 31

def number? (least most : Nat) (s : List Char) : Option Nat :=
  if least ≤ s.length && s.length ≤ most && s.all Char.isDigit then
    some (s.foldl (fun n c => n * 10 + (c.toNat - '0'.toNat)) 0)
  else none

def month? (s : List Char) : Option Nat :=
  (monthNames.findIdx? (·.toList == s)).map (· + 1)

/-- The year that a written year stands for. -/
def fullYear (y : Nat) : Nat :=
  if y ≤ 68 then y + 2000 else if y ≤ 99 then y + 1900 else y

def isShortDay (s : List Char) : Bool := dayNames.any (·.toList.take 3 == s)

def isLongDay (s : List Char) : Bool := dayNames.any (·.toList == s)

def clock? (s : List Char) : Option Nat := do
  match ← (pieces (· == ':') s).mapM (number? 2 2) with
  | [h, m, sec] => if h < 24 && m < 60 && sec < 60 then some (h * 3600 + m * 60 + sec) else none
  | _ => none

/-- The second of a day and a time of day, if the calendar has the day. -/
def second? (day month year : Option Nat) (clock : Option Nat) : Option Int := do
  let y := fullYear (← year)
  let m ← month
  let d ← day
  if 1 ≤ d && d ≤ daysInMonth y m then some (daysFromCivil y m d * 86400 + (← clock)) else none

def parse (s : List Char) : Option Int :=
  match pieces (· == ' ') s with
  | [name, day, month, year, clock, ['G', 'M', 'T']] =>
    if name.getLast? = some ',' && isShortDay name.dropLast then
      second? (number? 2 2 day) (month? month) (number? 1 4 year) (clock? clock)
    else none
  | [name, date, clock, ['G', 'M', 'T']] =>
    match pieces (· == '-') date with
    | [day, month, year] =>
      if name.getLast? ≠ some ',' then none
      else if isLongDay name.dropLast && year.length = 2 then
        second? (number? 2 2 day) (month? month) (number? 2 2 year) (clock? clock)
      else if isShortDay name.dropLast then
        second? (number? 2 2 day) (month? month) (number? 1 4 year) (clock? clock)
      else none
    | _ => none
  | [name, month, [], day, clock, year] =>
    if isShortDay name then
      second? (number? 1 1 day) (month? month) (number? 1 4 year) (clock? clock)
    else none
  | [name, month, day, clock, year] =>
    if isShortDay name then
      second? (number? 2 2 day) (month? month) (number? 1 4 year) (clock? clock)
    else none
  | _ => none

end Date

end ChatTerminal.Web
