import Gatehouse.Time.Basic

/-!
# Calendar dates

The date of a point of time in the Gregorian calendar, continued to the years before its
introduction, and the form in which header fields show it. Dates exist for the years
from -9999 to 9999.
-/

namespace Gatehouse

/-- A date with the time of day. Months and days count from one, and weekdays from
Sunday as zero. -/
structure Date where
  year : Int
  month : Nat
  day : Nat
  weekday : Nat
  hour : Nat
  minute : Nat
  second : Nat
  deriving DecidableEq, Repr

namespace Date

/-- The first point of time that has a date. -/
def first : Time := -377705116800

/-- The last point of time that has a date. -/
def last : Time := 253402300799

/-- Whether a point of time has a date. -/
def exists? (time : Time) : Bool :=
  first ≤ time && time ≤ last

/-- The number of seconds of a day. -/
def secondsPerDay : Nat := 86400

/-- The number of days of four hundred years, after which the calendar repeats. -/
def daysPerCycle : Nat := 146097

/-- The days from the first of March of the year zero to the first day of 1970. -/
def daysBefore1970 : Int := 719468

/-- The date of a point of time. The year is taken to begin in March, so that a leap day
is the last day of its year. -/
def ofTime (time : Time) : Date :=
  let days := time / secondsPerDay
  let clock := (time % secondsPerDay).toNat
  let shifted := days + daysBefore1970
  let cycle := shifted / daysPerCycle
  let dayOfCycle := (shifted % daysPerCycle).toNat
  let yearOfCycle :=
    (dayOfCycle - dayOfCycle / 1460 + dayOfCycle / 36524 - dayOfCycle / 146096) / 365
  let dayOfYear := dayOfCycle - (365 * yearOfCycle + yearOfCycle / 4 - yearOfCycle / 100)
  let monthFromMarch := (5 * dayOfYear + 2) / 153
  let month := if monthFromMarch < 10 then monthFromMarch + 3 else monthFromMarch - 9
  { year := cycle * 400 + yearOfCycle + (if month ≤ 2 then 1 else 0)
    month
    day := dayOfYear - (153 * monthFromMarch + 2) / 5 + 1
    weekday := ((days + 4) % 7).toNat
    hour := clock / 3600
    minute := clock / 60 % 60
    second := clock % 60 }

/-- The short names of the weekdays. -/
def weekdayNames : List String := ["Sun", "Mon", "Tue", "Wed", "Thu", "Fri", "Sat"]

/-- The short names of the months. -/
def monthNames : List String :=
  ["Jan", "Feb", "Mar", "Apr", "May", "Jun", "Jul", "Aug", "Sep", "Oct", "Nov", "Dec"]

/-- A number with at least two digits. -/
def twoDigits (value : Nat) : String :=
  if value < 10 then "0" ++ Text.Decimal.natural value else Text.Decimal.natural value

/-- The form of a date in header fields. The year has no leading zeros. -/
def text (date : Date) : String :=
  weekdayNames.getD date.weekday "" ++ ", " ++ twoDigits date.day ++ " "
    ++ monthNames.getD (date.month - 1) "" ++ " " ++ Text.Decimal.integer date.year ++ " "
    ++ twoDigits date.hour ++ ":" ++ twoDigits date.minute ++ ":" ++
      twoDigits date.second ++ " GMT"

end Date
end Gatehouse
