import PanelClock.Calendar.Date

/-!
# Wall times and moments

A wall time is what a calendar and a clock on the wall show, without a zone: the number
of microseconds since the start of year 1.  A moment is a point of universal time,
counted from the same start in universal time, and may lie outside the years 1 to 9999.
-/

set_option autoImplicit false

namespace PanelClock

/-- Microseconds in a second. -/
def microsPerSecond : Nat := 1000000

/-- Microseconds in a day. -/
def microsPerDay : Nat := 86400 * microsPerSecond

/-- The number of days in the years 1 to 9999. -/
def calendarDays : Nat := yearStart 10000

/-- Microseconds in the years 1 to 9999. -/
def endOfTime : Nat := calendarDays * microsPerDay

/-- What a calendar and a clock on the wall show: microseconds since the start of year 1. -/
structure WallTime where
  micros : Nat
  deriving DecidableEq, Repr

namespace WallTime

/-- The wall time of a date and a time of day. -/
def ofFields (date : Date) (hour minute second microsecond : Nat) : WallTime :=
  ⟨date.toDay * microsPerDay
    + ((hour * 60 + minute) * 60 + second) * microsPerSecond + microsecond⟩

/-- The day a wall time lies in. -/
def dayNumber (wall : WallTime) : Nat := wall.micros / microsPerDay

/-- The date a wall time lies in. -/
def date (wall : WallTime) : Date := Date.ofDay wall.dayNumber

/-- The seconds since midnight. -/
def secondOfDay (wall : WallTime) : Nat := wall.micros / microsPerSecond % 86400

def hour (wall : WallTime) : Nat := wall.secondOfDay / 3600

def minute (wall : WallTime) : Nat := wall.secondOfDay / 60 % 60

def second (wall : WallTime) : Nat := wall.secondOfDay % 60

def microsecond (wall : WallTime) : Nat := wall.micros % microsPerSecond

/-- The day of the week, Monday being 0. -/
def weekday (wall : WallTime) : Nat := weekdayOfDay wall.dayNumber

/-- The place of the day in its year, the first day being 0. -/
def dayOfYear (wall : WallTime) : Nat := PanelClock.dayOfYear wall.dayNumber

theorem hour_lt (wall : WallTime) : wall.hour < 24 := by
  simp only [hour, secondOfDay]; omega

theorem microsecond_lt (wall : WallTime) : wall.microsecond < microsPerSecond :=
  Nat.mod_lt _ (by decide)

end WallTime

/-- A point of universal time: microseconds since the start of year 1. -/
structure Moment where
  micros : Int
  deriving DecidableEq, Repr

namespace Moment

/-- Whole seconds since the start of year 1, rounded down. -/
def seconds (moment : Moment) : Int := moment.micros / (microsPerSecond : Nat)

/-- The start of 1970. -/
def epoch : Moment := ⟨(yearStart 1970 * microsPerDay : Nat)⟩

/-- Microseconds since the start of 1970. -/
def microsSinceEpoch (moment : Moment) : Int := moment.micros - epoch.micros

/-- The wall time in universal time, none outside the years 1 to 9999. -/
def wallTime? (moment : Moment) : Option WallTime :=
  if 0 ≤ moment.micros ∧ moment.micros < (endOfTime : Nat) then some ⟨moment.micros.toNat⟩
  else none

/-- The moment moved by a number of seconds. -/
def shift (moment : Moment) (seconds : Int) : Moment :=
  ⟨moment.micros + seconds * (microsPerSecond : Nat)⟩

end Moment

/-- The moment at which clocks that are a number of microseconds ahead of universal time show a
wall time. -/
def WallTime.atOffset (wall : WallTime) (offset : Int) : Moment := ⟨wall.micros - offset⟩

end PanelClock
