/-!
# Civil dates

Dates follow the proleptic Gregorian calendar.  A date is turned into the
number of days since the first of January 1970.
-/

namespace SapMonitor.Time

/-- Whether the year has a leap day. -/
def isLeapYear (y : Int) : Bool :=
  y % 4 == 0 && (y % 100 != 0 || y % 400 == 0)

/-- The number of days of a month. -/
def daysInMonth (y : Int) (m : Nat) : Nat :=
  if m = 2 then (if isLeapYear y then 29 else 28)
  else if m = 4 || m = 6 || m = 9 || m = 11 then 30
  else 31

/-- The days of the year before the first of a month. -/
def daysBeforeMonth (y : Int) : Nat → Nat
  | 0 => 0
  | 1 => 0
  | m + 1 => daysBeforeMonth y m + daysInMonth y m

/-- The days from the first of January 1970 to the first of January of a
year. -/
def daysBeforeYear (y : Int) : Int :=
  let p := y - 1
  365 * (y - 1970) + (p.fdiv 4 - 492) - (p.fdiv 100 - 19) + (p.fdiv 400 - 4)

/-- The number of a date, counted from the first of January 1970. -/
def dayNumber (y : Int) (m d : Nat) : Int :=
  daysBeforeYear y + daysBeforeMonth y m + (d : Int) - 1

/-- The first and the last year of the calendar. -/
def firstYear : Int := -262143

/-- The last year of the calendar. -/
def lastYear : Int := 262142

/-- The seconds of a day. -/
def secondsPerDay : Int := 86400

/-- The number of a date, if there is such a date in the calendar. -/
def dayNumber? (y : Int) (m d : Nat) : Option Int :=
  if firstYear ≤ y && y ≤ lastYear && 1 ≤ m && m ≤ 12 && 1 ≤ d && d ≤ daysInMonth y m then
    some (dayNumber y m d)
  else none

end SapMonitor.Time
