import PanelClock.Text.Basic

/-!
# Names of a locale

What a locale calls months, weekdays, eras, parts of the day and time zones, and the
patterns that it has for combinations of fields.
-/

set_option autoImplicit false

namespace PanelClock

/-- The widths of names. -/
inductive NameWidth where
  | abbreviated
  | wide
  | narrow
  deriving DecidableEq, Repr

/-- Something in each of the widths. -/
structure ByWidth (α : Type) where
  abbreviated : α
  wide : α
  narrow : α
  deriving DecidableEq, Repr

/-- The one of a width. -/
def ByWidth.get {α : Type} (all : ByWidth α) : NameWidth → α
  | .abbreviated => all.abbreviated
  | .wide => all.wide
  | .narrow => all.narrow

/-- Names of a row of things as they stand within a date and as they stand alone. -/
structure NameRow where
  within : ByWidth (List Text)
  alone : ByWidth (List Text)
  deriving DecidableEq, Repr

/-- The names of the two halves of the day. -/
structure HalfDayNames where
  morning : Text
  afternoon : Text
  deriving DecidableEq, Repr

/-- The names of a time zone, where a locale has them. -/
structure ZoneNames where
  key : Text
  shortStandard : Option Text
  shortDaylight : Option Text
  shortGeneric : Text
  longStandard : Option Text
  longDaylight : Option Text
  longGeneric : Text
  deriving DecidableEq, Repr

/-- A name for a part of the day, from one second of the day up to another. -/
structure DayPeriod where
  start : Nat
  stop : Nat
  name : Text
  deriving DecidableEq, Repr

/-- A pattern that a locale has for a combination of fields. -/
structure SkeletonPattern where
  /-- The fields, each with its letter and width, without layout. -/
  skeleton : Text
  pattern : Text
  deriving DecidableEq, Repr

/-- The names and patterns of a locale. -/
structure LocaleNames where
  months : NameRow
  weekdays : NameRow
  /-- The era that begins with year 1. -/
  era : ByWidth Text
  halfDays : ByWidth (Option HalfDayNames)
  /-- The names that win over the halves of the day, the first that fits. -/
  dayPeriods : List DayPeriod
  shortTime : Text
  /-- What stands in front of an offset in a long zone name. -/
  offsetLabel : Text
  /-- The first day of the week, Monday being 0. -/
  firstWeekday : Nat
  zones : List ZoneNames
  /-- What stands around the name of a zone that lies in no known region. -/
  unknownRegion : Text × Text
  skeletons : List SkeletonPattern

end PanelClock
