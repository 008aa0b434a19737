import PanelClock.Number.Numeral

/-!
# Offsets from universal time

An offset in seconds is written as a sign with hours, minutes and, where they are asked
for and not zero, seconds.  The field letters `Z`, `O`, `X` and `x` choose a style by the
length of their run.
-/

set_option autoImplicit false

namespace PanelClock

/-- How an offset is written. -/
structure OffsetStyle where
  /-- The text starts with `GMT`, and is nothing else for a zero offset. -/
  gmt : Bool := false
  /-- Hours have at least two digits. -/
  twoDigitHours : Bool := true
  /-- Colons stand between the parts. -/
  separator : Bool := false
  /-- Seconds are written when they are not zero. -/
  seconds : Bool := false
  /-- A zero offset is the letter `Z`. -/
  zeroAsZ : Bool := false
  /-- Minutes are left out when they and the seconds are zero. -/
  omitZeroMinutes : Bool := false
  deriving DecidableEq, Repr

namespace OffsetStyle

/-- The sign, hours, minutes and seconds of an offset in a style. -/
def parts (style : OffsetStyle) (offset : Int) : Text :=
  let size := offset.natAbs
  let hours := size / 3600
  let minutes := size / 60 % 60
  let seconds := size % 60
  let colon : Text := if style.separator then [':'] else []
  let hourText := if style.twoDigitHours then paddedNumeral 2 hours else numeral hours
  let minuteText :=
    if style.omitZeroMinutes && minutes = 0 && seconds = 0 then []
    else
      colon ++ paddedNumeral 2 minutes
        ++ (if style.seconds && seconds ≠ 0 then colon ++ paddedNumeral 2 seconds else [])
  (if offset < 0 then '-' else '+') :: hourText ++ minuteText

/-- An offset in a style. -/
def write (style : OffsetStyle) (offset : Int) : Text :=
  if style.zeroAsZ && offset = 0 then "Z"
  else if style.gmt then
    if offset = 0 then "GMT" else "GMT" ++ style.parts offset
  else style.parts offset

/-- The style of a run of `Z`. -/
def zone (length : Nat) : OffsetStyle :=
  { gmt := length = 4
    twoDigitHours := length ≠ 4
    separator := 4 ≤ length
    seconds := 5 ≤ length
    zeroAsZ := 5 ≤ length }

/-- The style of a run of `O`. -/
def localizedGmt (length : Nat) : OffsetStyle :=
  { gmt := true
    twoDigitHours := 3 ≤ length
    separator := 3 ≤ length
    omitZeroMinutes := length < 3 }

/-- The style of a run of `X` or `x`; only `X` has a letter for a zero offset. -/
def iso (zeroAsZ : Bool) (length : Nat) : OffsetStyle :=
  { separator := 1 < length && length % 2 = 1
    seconds := 4 ≤ length
    zeroAsZ := zeroAsZ
    omitZeroMinutes := length = 1 }

end OffsetStyle

end PanelClock
