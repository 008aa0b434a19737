/-!
# Dates

Days of the proleptic Gregorian calendar are numbered from the first day of year 1,
which is day 0 and a Monday.  The year of a day is found from the lengths of the cycles
of 400, 100 and 4 years, the month by running through the lengths of the months.
-/

set_option autoImplicit false

namespace PanelClock

/-- Leap years are the multiples of four that are not multiples of a hundred, and the
multiples of four hundred. -/
def isLeapYear (year : Nat) : Bool := year % 4 = 0 && (year % 100 ≠ 0 || year % 400 = 0)

/-- The number of the first day of a year. -/
def yearStart (year : Nat) : Nat :=
  let before := year - 1
  365 * before + before / 4 - before / 100 + before / 400

/-- The year that a day lies in. -/
def yearOfDay (day : Nat) : Nat :=
  let inCycle := day % 146097
  let centuries := min (inCycle / 36524) 3
  let inCentury := inCycle - 36524 * centuries
  let fours := inCentury / 1461
  let inFour := inCentury % 1461
  let years := min (inFour / 365) 3
  400 * (day / 146097) + 100 * centuries + 4 * fours + years + 1

/-- The lengths of the months of a year. -/
def monthLengths (year : Nat) : List Nat :=
  [31, if isLeapYear year then 29 else 28, 31, 30, 31, 30, 31, 31, 30, 31, 30, 31]

/-- Runs through the lengths of months: how many lie wholly before a day, and the day
that is left. -/
def monthsBefore : List Nat → Nat → Nat × Nat
  | [], day => (0, day)
  | length :: rest, day =>
      if day < length then (0, day)
      else
        let (months, left) := monthsBefore rest (day - length)
        (months + 1, left)

/-- A date of the calendar. -/
structure Date where
  year : Nat
  month : Nat
  day : Nat
  deriving DecidableEq, Repr

namespace Date

/-- The date of a day. -/
def ofDay (day : Nat) : Date :=
  let year := yearOfDay day
  let (months, left) := monthsBefore (monthLengths year) (day - yearStart year)
  ⟨year, months + 1, left + 1⟩

/-- The day of a date. -/
def toDay (date : Date) : Nat :=
  let before := ((monthLengths date.year).take (date.month - 1)).foldr (· + ·) 0
  yearStart date.year + before + (date.day - 1)

end Date

/-- The day of the week, Monday being 0. -/
def weekdayOfDay (day : Nat) : Nat := day % 7

/-- The place of a day in its year, the first day being 0. -/
def dayOfYear (day : Nat) : Nat := day - yearStart (yearOfDay day)

/-- The year and number of the week of a day, where weeks start on Monday and belong to
the year that their Thursday lies in. -/
def weekDate (day : Nat) : Nat × Nat :=
  let thursday := day - weekdayOfDay day + 3
  (yearOfDay thursday, dayOfYear thursday / 7 + 1)

end PanelClock
