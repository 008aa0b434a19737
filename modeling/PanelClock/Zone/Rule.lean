import PanelClock.Text.Basic
import PanelClock.Calendar.WallTime

/-!
# Rules for local time

Clocks in a place keep an observance: an offset from universal time and a name for it.
A yearly rule switches between a standard and a daylight observance on two days of every
year.  A zone may have earlier eras in front of its rule.
-/

set_option autoImplicit false

namespace PanelClock

/-- What the clocks of a place keep for a while. -/
structure Observance where
  /-- Seconds ahead of universal time. -/
  offset : Int
  /-- Daylight saving time is observed. -/
  daylight : Bool
  abbreviation : Text
  deriving DecidableEq, Repr

/-- A day in every year. -/
inductive YearlyDay where
  /-- The n-th given weekday of a month; Sunday is 0, and the fifth week is the last. -/
  | weekday (month week weekday : Nat)
  /-- Counted from 0 at the first of January. -/
  | ofYear (place : Nat)
  /-- Counted from 1, without the 29th of February. -/
  | ofCommonYear (place : Nat)
  deriving DecidableEq, Repr

/-- The days of a year before each month and before the year that follows. -/
def monthStarts (year : Nat) : List Nat :=
  (List.range 13).map fun months => ((monthLengths year).take months).foldr (· + ·) 0

/-- The days before a month and before the month after it.  A leap year is looked up behind
a common one: the month after December of a common year is one of a leap year, and the one
before January of a leap year starts where a common year ends.  What lies behind both starts
long after the year. -/
def monthSpan (year month : Nat) : Nat × Nat :=
  let starts := monthStarts 1 ++ monthStarts 4
  let place := (if isLeapYear year then 13 else 0) + month
  ((starts[place - 1]?).getD 65535, (starts[place]?).getD 65535)

/-- The weekday, Sunday being 0, of the first day of a month.  The month before January is
the last one of the year before; after December January and February are those of the next
year.  Weekdays come again after 400 years, so that there is a year before every year. -/
def firstWeekdayOfMonth (year month : Nat) : Nat :=
  let place := (month + 11) % 12 + 1
  let year :=
    if month = 0 then year + 399
    else if 12 < month ∧ place ≤ 2 then year + 401
    else year + 400
  (weekdayOfDay (Date.toDay ⟨year, place, 1⟩) + 1) % 7

/-- The days of a year before the day. -/
def YearlyDay.inYear (year : Nat) : YearlyDay → Int
  | weekday month week day =>
      let (start, stop) := monthSpan year month
      let weekdayBefore := firstWeekdayOfMonth year month
      let first := if weekdayBefore ≤ day then day - weekdayBefore else day + 7 - weekdayBefore
      let later := min (week - 1) ((stop - start - 1 - first) / 7)
      (start + first + 7 * later : Nat)
  | ofYear place => place
  | ofCommonYear place => if 60 ≤ place && isLeapYear year then place else (place : Int) - 1

/-- A change of clocks in every year. -/
structure YearlyChange where
  day : YearlyDay
  /-- The wall time of the change in seconds after midnight. -/
  second : Int
  deriving DecidableEq, Repr

/-- The second of universal time, counted from the start of year 1, at which clocks that
kept an offset until then change in a year.  Changes of the years before a first one are
put into that one. -/
def YearlyChange.moment (change : YearlyChange) (firstYear year : Nat) (offset : Int) : Int :=
  (yearStart (max firstYear year) + change.day.inYear year) * 86400 + change.second - offset

/-- Daylight saving time with the days on which it begins and ends. -/
structure DaylightRule where
  observance : Observance
  begins : YearlyChange
  ends : YearlyChange
  deriving DecidableEq, Repr

/-- The rule for all later years. -/
structure ZoneRule where
  standard : Observance
  daylight : Option DaylightRule := none
  /-- The year into which the changes of all years before it are put. -/
  firstYear : Nat := 1
  deriving DecidableEq, Repr

namespace ZoneRule

/-- The observance at a second of universal time. -/
def observanceAt (rule : ZoneRule) (second : Int) : Observance :=
  match rule.daylight with
  | none => rule.standard
  | some daylight =>
      let year := yearOfDay (second / 86400).toNat
      let start := daylight.begins.moment rule.firstYear year rule.standard.offset
      let stop := daylight.ends.moment rule.firstYear year daylight.observance.offset
      let inside :=
        if start ≤ stop then decide (start ≤ second ∧ second < stop)
        else !decide (stop ≤ second ∧ second < start)
      if inside then daylight.observance else rule.standard

end ZoneRule

/-- A stretch of time in which an observance held. -/
structure Era where
  /-- The second of universal time, counted from the start of year 1, of its begin. -/
  start : Int
  stop : Int
  observance : Observance
  deriving DecidableEq, Repr

end PanelClock
