import Gatehouse.Text.Blank
import Gatehouse.Text.Split
import Gatehouse.Time.Date

/-!
# Reading dates

Header fields show dates in one of three forms: with short names and a year of four
digits, with the full name of the weekday and a year of two digits, or with the year at
the end. A date has to exist and to fall on the weekday that is named.
-/

namespace Gatehouse
namespace Date

/-- The point of time of a date. The year is taken to begin in March, so that a leap day
is the last day of its year. -/
def toTime (date : Date) : Time :=
  let year := if date.month ≤ 2 then date.year - 1 else date.year
  let yearOfCycle := (year % 400).toNat
  let monthFromMarch := if date.month ≤ 2 then date.month + 9 else date.month - 3
  let dayOfYear := (153 * monthFromMarch + 2) / 5 + date.day - 1
  let dayOfCycle := 365 * yearOfCycle + yearOfCycle / 4 - yearOfCycle / 100 + dayOfYear
  let days := year / 400 * daysPerCycle + dayOfCycle - daysBefore1970
  days * secondsPerDay + (date.hour * 3600 + date.minute * 60 + date.second : Nat)

/-- The full names of the weekdays. -/
def fullWeekdayNames : List String :=
  ["Sunday", "Monday", "Tuesday", "Wednesday", "Thursday", "Friday", "Saturday"]

/-- The number of a given count of digits. -/
def number? (count : Nat) (chars : List Char) : Option Nat :=
  if chars.length = count then Text.Decimal.digits? chars else none

/-- The position of a name in a list. -/
def position? (names : List String) (chars : List Char) : Option Nat :=
  names.idxOf? (String.ofList chars)

/-- The month of a short name. -/
def month? (chars : List Char) : Option Nat :=
  (position? monthNames chars).map (· + 1)

/-- The hour, the minute and the second of a time of day. -/
def clock? (chars : List Char) : Option (Nat × Nat × Nat) :=
  match Text.splitEvery ':' chars with
  | [hour, minute, second] => do
      some (← number? 2 hour, ← number? 2 minute, ← number? 2 second)
  | _ => none

/-- A date from its parts. -/
def ofParts? (weekday day month year : Option Nat) (clock : Option (Nat × Nat × Nat)) :
    Option Date := do
  let (hour, minute, second) ← clock
  some { year := ← year, month := ← month, day := ← day, weekday := ← weekday
         hour, minute, second }

/-- The year that two digits stand for. -/
def recentYear (value : Nat) : Nat :=
  if value < 70 then 2000 + value else 1900 + value

/-- A weekday with the comma that follows it. -/
def weekdayBeforeComma? (names : List String) (chars : List Char) : Option Nat :=
  if chars.getLast? = some ',' then position? names chars.dropLast else none

/-- The parts of a date in one of the forms, which need not make up a date that exists. -/
def parts? (chars : List Char) : Option Date :=
  match Text.splitEvery ' ' chars with
  | [weekday, day, month, year, clock, ['G', 'M', 'T']] =>
      ofParts? (weekdayBeforeComma? weekdayNames weekday) (number? 2 day) (month? month)
        (number? 4 year) (clock? clock)
  | [weekday, date, clock, ['G', 'M', 'T']] =>
      match Text.splitEvery '-' date with
      | [day, month, year] =>
          ofParts? (weekdayBeforeComma? fullWeekdayNames weekday) (number? 2 day)
            (month? month) ((number? 2 year).map recentYear) (clock? clock)
      | _ => none
  | [weekday, month, day, clock, year] =>
      ofParts? (position? weekdayNames weekday) (number? 2 day) (month? month)
        (number? 4 year) (clock? clock)
  | [weekday, month, [], day, clock, year] =>
      ofParts? (position? weekdayNames weekday) (number? 1 day) (month? month)
        (number? 4 year) (clock? clock)
  | _ => none

/-- The point of time that a text shows; blanks at its ends do not matter. Years before
1970 cannot be shown. -/
def read? (text : String) : Option Time := do
  let date ← parts? (Text.trim text).toList
  let time := date.toTime
  if 1970 ≤ date.year ∧ ofTime time = date then some time else none

end Date
end Gatehouse
