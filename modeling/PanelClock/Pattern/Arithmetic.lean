import PanelClock.Calendar.WallTime
import PanelClock.Number.Binary64
import PanelClock.Number.Numeral

/-!
# Arithmetic fields

Fields whose text is computed from the wall time and the offset alone, without locale
data: quarter, week numbers, day of week in month, Julian day, fractions of a second,
milliseconds of the day.  The length of the field run says how wide a field is.
-/

set_option autoImplicit false

namespace PanelClock

/-- The quarter of the year, 1 to 4. -/
def quarterOfYear (wall : WallTime) : Nat := (wall.date.month - 1) / 3 + 1

/-- The quarter as a number, in two digits, or with its name. -/
def quarterText (wall : WallTime) (length : Nat) : Text :=
  let quarter := numeral (quarterOfYear wall)
  match length with
  | 2 => '0' :: quarter
  | 3 => 'Q' :: quarter
  | 4 => quarter ++ ". quarter"
  | _ => quarter

/-- The number of the week of a day of the year: the week that holds the first of January
is week 1, and a new week starts on the given weekday.  Both the weekday that the year
starts on and the day of the year count from 0. -/
def weekNumber (firstOfYear : Nat) (firstWeekday : Int) (dayOfYear : Nat) : Nat :=
  (dayOfYear + (((firstOfYear : Int) - firstWeekday) % 7).toNat) / 7 + 1

/-- The number of the week of the year that a wall time lies in. -/
def weekOfYear (wall : WallTime) (firstWeekday : Int) : Nat :=
  weekNumber (weekdayOfDay (yearStart wall.date.year)) firstWeekday wall.dayOfYear

def weekOfYearText (firstWeekday : Int) (wall : WallTime) (length : Nat) : Text :=
  paddedNumeral length (weekOfYear wall firstWeekday)

/-- The week of the month is not computed: it needs week data of the locale. -/
def weekOfMonthText : Text := "?"

/-- Which of its weekday in the month a day is, "2" for a second Wednesday. -/
def weekdayInMonthText (wall : WallTime) : Text := numeral ((wall.date.day - 1) / 7 + 1)

/-- The Julian day at the start of 1970. -/
def epochJulianDay : Rat := mkRat 4881175 2

/-- The whole part of the Julian day of a wall time, which starts at noon.  The day is
computed in floating-point numbers: first the days since 1970, then their sum with the
Julian day of 1970. -/
def julianDay (wall : WallTime) : Int :=
  let days := nearestDouble (mkRat ((wall.micros : Int) - Moment.epoch.micros) microsPerDay)
  (nearestDouble (days + epochJulianDay)).floor

def julianDayText (wall : WallTime) : Text := signedNumeral (julianDay wall)

/-- The milliseconds of a second, cut or filled up with zeros to the given number of
digits.  They are counted on from 1000, so that zeros in front of them are written too, and
the 1 is left out again. -/
def fractionText (wall : WallTime) (length : Nat) : Text :=
  let digits := numeral (1000 + wall.microsecond / 1000)
  let filled := if 3 < length then Text.fillRight '0' (length + 1) digits else digits
  (filled.take (length + 1)).drop 1

/-- The milliseconds since midnight. -/
def millisecondOfDay (wall : WallTime) : Nat :=
  wall.secondOfDay * 1000 + wall.microsecond / 1000

def millisecondOfDayText (wall : WallTime) (length : Nat) : Text :=
  paddedNumeral length (millisecondOfDay wall)

end PanelClock
