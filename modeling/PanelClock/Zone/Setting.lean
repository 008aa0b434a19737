import PanelClock.Diagnostic.Error
import PanelClock.System
import PanelClock.Text.Digit

/-!
# Time zone settings

A setting of a time zone selects the zone of the system, universal time, a fixed offset,
or the zone of a place.
-/

set_option autoImplicit false

namespace PanelClock

/-- The words that select universal time. -/
def universalWords : List Text := ["UTC", "Z", "GMT"]

/-- What a text of the form of an offset denotes: seconds ahead of universal time, or
nothing when hours or minutes are too many. -/
inductive OffsetText where
  | offset (seconds : Int)
  | tooLarge
  deriving DecidableEq, Repr

/-- Splits off the sign of an offset. -/
def takeSign? : Text → Option (Int × Text)
  | '+' :: rest => some (1, rest)
  | '-' :: rest => some (-1, rest)
  | _ => none

/-- The two characters of hours and the two of minutes, with an optional colon between them. -/
def clockDigits? : Text → Option (Text × Text)
  | [a, b, c, d] => some ([a, b], [c, d])
  | [a, b, ':', c, d] => some ([a, b], [c, d])
  | _ => none

/-- The number that decimal digits write; the digits may be those of any script. -/
def digitsValue? (digits : Text) : Option Nat :=
  (digits.mapM digitValue?).map fun values => values.foldl (fun sofar value => 10 * sofar + value) 0

/-- Reads a sign and two digits of hours and of minutes, with an optional colon between
them. -/
def readOffset? (text : Text) : Option OffsetText := do
  let (sign, rest) ← takeSign? text
  let (hourDigits, minuteDigits) ← clockDigits? rest
  let hours ← digitsValue? hourDigits
  let minutes ← digitsValue? minuteDigits
  if 23 < hours ∨ 59 < minutes then some .tooLarge
  else some (.offset (sign * (3600 * hours + 60 * minutes : Nat)))

/-- The zone that a text other than a default selects, where the table of places is known by
its lookup. -/
def zoneOfText (placeOf? : Text → Option Zone) (text : Text) : Except Cause Zone :=
  if universalWords.contains text.upperAscii then .ok .universal
  else match readOffset? text with
    | some (.offset seconds) => .ok (.ofOffset seconds)
    | some .tooLarge => .error (.timezoneUnknown text)
    | none =>
        match placeOf? text with
        | some zone => .ok zone
        | none => .error (.timezoneUnknown text)

/-- A setting that asks for the zone of the system: one that asks for the default, or a word of
its own. -/
def Setting.asksSystemZone : Setting → Bool
  | none => true
  | some text => isDefaultText text || keyword text = ("local" : Text)

/-- The zone that a setting selects, where the table of places is known by its lookup and the
system has a zone if the setting asks for it. -/
def System.resolveZoneBy (system : System) (placeOf? : Text → Option Zone) :
    Setting → Except Cause Zone
  | none => .ok system.zone
  | some text =>
      if Setting.asksSystemZone (some text) then .ok system.zone
      else zoneOfText placeOf? text.trim

/-- The fault with which a setting asks for the zone of a system that has none. -/
def System.zoneFaultFor? (system : System) (setting : Setting) : Option Fault :=
  if setting.asksSystemZone then system.zoneFault? else none

/-- The zone that a setting selects.  A setting that asks for the zone of a system that has none
fails with a fault that is no error of the clock. -/
def System.resolveZone (system : System) (setting : Setting) : Except (Failure Fault) Zone :=
  match system.zoneFaultFor? setting with
  | some fault => .error (.escaped fault)
  | none => (system.resolveZoneBy system.places setting).mapError .ofConfiguration

end PanelClock
