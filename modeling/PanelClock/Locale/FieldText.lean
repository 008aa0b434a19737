import PanelClock.Locale.Basic
import PanelClock.Pattern.LocalePattern
import PanelClock.Zone.Basic

/-!
# Fields in the words of a locale

The text of a field of a locale pattern at a local time: numbers padded to the length of
the run, names in the width that the length selects, and names of time zones.  A zone
for which the locale has no name shows its offset.
-/

set_option autoImplicit false

namespace PanelClock

/-- The width of names that a run length selects. -/
def NameWidth.ofLength (length : Nat) : NameWidth :=
  if length ≤ 3 then .abbreviated else if length = 4 then .wide else .narrow

/-- The offset of a zone without a name: hours and minutes of the offset as it is split
by rounding down. -/
def offsetDigits (offset : Int) (separator : Text) : Text :=
  let hours := offset / 3600
  let minutes := (offset % 3600 / 60).toNat
  (if hours < 0 then '-' else '+') :: paddedNumeral 2 hours.natAbs ++ separator
    ++ paddedNumeral 2 minutes

namespace LocaleNames

/-- The offset that stands for the name of a zone. -/
def offsetName (names : LocaleNames) (long : Bool) (offset : Int) : Text :=
  if long then names.offsetLabel ++ offsetDigits offset ":" else offsetDigits offset []

/-- The names of a zone. -/
def zoneNames? (names : LocaleNames) (zone : Zone) : Option ZoneNames :=
  names.zones.find? (·.key = zone.name)

/-- The standard or daylight name of a zone, whichever its clocks observe. -/
def zoneName (names : LocaleNames) (zone : Zone) (long : Bool) (observance : Observance) : Text :=
  let name? := (names.zoneNames? zone).bind fun row =>
    match long, observance.daylight with
    | false, false => row.shortStandard
    | false, true => row.shortDaylight
    | true, false => row.longStandard
    | true, true => row.longDaylight
  name?.getD (names.offsetName long observance.offset)

/-- The name of a zone that holds all year. -/
def genericZoneName (names : LocaleNames) (zone : Zone) (long : Bool) : Text :=
  match names.zoneNames? zone with
  | some row => if long then row.longGeneric else row.shortGeneric
  | none => names.unknownRegion.1 ++ zone.name ++ names.unknownRegion.2

/-- The name of a month. -/
def monthName (names : LocaleNames) (alone : Bool) (width : NameWidth) (month : Nat) : Text :=
  let row := if alone then names.months.alone else names.months.within
  ((row.get width)[month - 1]?).getD []

/-- The name of a weekday, Monday being 0. -/
def weekdayName (names : LocaleNames) (alone : Bool) (width : NameWidth) (weekday : Nat) : Text :=
  let row := if alone then names.weekdays.alone else names.weekdays.within
  ((row.get width)[weekday]?).getD []

/-- The names of the halves of the day in a width, or in the first of the other widths
that has them. -/
def halfDayNames? (names : LocaleNames) (width : NameWidth) : Option HalfDayNames :=
  names.halfDays.get width <|> names.halfDays.wide <|> names.halfDays.narrow
    <|> names.halfDays.abbreviated

/-- The name of the half of the day. -/
def halfDayName (names : LocaleNames) (width : NameWidth) (wall : WallTime) : Text :=
  match names.halfDayNames? width with
  | none => []
  | some halves => if wall.hour < 12 then halves.morning else halves.afternoon

/-- The name of the part of the day, which is its half where the locale has no others. -/
def dayPeriodName (names : LocaleNames) (width : NameWidth) (wall : WallTime) : Text :=
  let second := wall.secondOfDay
  match names.dayPeriods.find? fun period => period.start ≤ second && second < period.stop with
  | some period => period.name
  | none => names.halfDayName width wall

/-- The number of a weekday in a week that starts as the locale has it, from 1. -/
def weekdayNumber (names : LocaleNames) (weekday : Nat) : Nat :=
  (7 - names.firstWeekday + weekday) % 7 + 1

/-- The text of a field of a locale pattern, none for letters without locale data. -/
def fieldText? (names : LocaleNames) (zone : Zone) (time : LocalTime) (letter : Char)
    (length : Nat) : Option Text :=
  let wall := time.wall
  let padded (n : Nat) : Option Text := some (paddedNumeral length n)
  let width := NameWidth.ofLength length
  match letter with
  | 'G' => some (names.era.get width)
  | 'y' | 'u' =>
      let year := paddedNumeral length wall.date.year
      some (if length = 2 then year.drop (year.length - 2) else year)
  | 'M' | 'L' =>
      if length ≤ 2 then padded wall.date.month
      else some (names.monthName (letter = 'L') width wall.date.month)
  | 'd' => padded wall.date.day
  | 'D' => padded (wall.dayOfYear + 1)
  | 'E' => some (names.weekdayName false width wall.weekday)
  | 'e' | 'c' =>
      if length < 3 then padded (names.weekdayNumber wall.weekday)
      else some (names.weekdayName (letter = 'c') width wall.weekday)
  | 'a' => some (names.halfDayName width wall)
  | 'B' => some (names.dayPeriodName width wall)
  | 'h' => padded (if wall.hour % 12 = 0 then 12 else wall.hour % 12)
  | 'H' => padded wall.hour
  | 'K' => padded (wall.hour % 12)
  | 'k' => padded (if wall.hour = 0 then 24 else wall.hour)
  | 'm' => padded wall.minute
  | 's' => padded wall.second
  | 'z' => some (names.zoneName zone (length = 4) time.observance)
  | 'v' => some (names.genericZoneName zone (length = 4))
  | _ => none

/-- The text of a segment of a locale pattern. -/
def segmentText (names : LocaleNames) (zone : Zone) (time : LocalTime) :
    Segment → Except Fault Text
  | .literal text => .ok text
  | .field letter length =>
      match names.fieldText? zone time letter length with
      | some text => .ok text
      | none => .error (.fieldWithoutData (Segment.specifier letter length))

/-- The text of a locale pattern at a local time. -/
def patternText (names : LocaleNames) (zone : Zone) (time : LocalTime)
    (pattern : LocalePattern) : Except Fault Text :=
  (pattern.segments.mapM (names.segmentText zone time)).map List.flatten

end LocaleNames

end PanelClock
