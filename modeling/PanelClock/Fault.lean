import PanelClock.Number.Numeral

/-!
# Faults

A fault is a reason for which a computation on times, numbers or locale patterns has no
result.  It has a kind and a message.
-/

set_option autoImplicit false

namespace PanelClock

/-- The kinds of faults. -/
inductive FaultKind where
  | value
  | overflow
  deriving DecidableEq, Repr

/-- Why a computation on times, numbers or locale patterns has no result. -/
inductive Fault where
  /-- A time lies outside the years 1 to 9999 in the zone it is taken to. -/
  | dateOutOfRange
  /-- A local time leads to a year outside 1 to 9999 while its zone is looked up. -/
  | yearOutOfRange (year : Int)
  /-- An offset of a whole day or more from universal time. -/
  | offsetTooLarge (offset : Int)
  /-- A field run of a locale pattern has a length that its letter does not allow. -/
  | fieldLength (run : Text)
  /-- A number is too large for a floating-point number. -/
  | numberTooLarge
  /-- A locale pattern holds a field for which the locale data have no rendering. -/
  | fieldWithoutData (run : Text)
  deriving DecidableEq, Repr

namespace Fault

/-- The kind of a fault. -/
def kind : Fault → FaultKind
  | dateOutOfRange => .overflow
  | numberTooLarge => .overflow
  | yearOutOfRange _ => .value
  | offsetTooLarge _ => .value
  | fieldLength _ => .value
  | fieldWithoutData _ => .value

/-- A duration in seconds as whole days and the seconds of the last one, which are left out
when there are none. -/
def durationText (seconds : Int) : Text :=
  let days : Text := "days=" ++ signedNumeral (seconds / 86400)
  let rest : Text :=
    if seconds % 86400 = 0 then [] else ", seconds=" ++ signedNumeral (seconds % 86400)
  "datetime.timedelta(" ++ days ++ rest ++ ")"

/-- What is required of an offset from universal time. -/
def offsetRule : Text :=
  "offset must be a timedelta strictly between -timedelta(hours=24) and timedelta(hours=24)"

/-- The message of a fault. -/
def message : Fault → Text
  | dateOutOfRange => "date value out of range"
  | yearOutOfRange year => "year " ++ signedNumeral year ++ " is out of range"
  | offsetTooLarge offset => offsetRule ++ ", not " ++ durationText offset ++ "."
  | fieldLength run => "Invalid length for field: '" ++ run ++ "'"
  | numberTooLarge => "int too large to convert to float"
  | fieldWithoutData run => "No locale data for field: '" ++ run ++ "'"

end Fault

end PanelClock
