import PanelClock.Locale.Setting
import PanelClock.Value
import PanelClock.Variant.Basic
import PanelClock.Zone.Setting

/-!
# Formatter configurations

A configuration holds the settings of zone, locale and calendar in normal form: a setting
that asks for the default of the system is nothing, so that configurations that select
the same are equal.
-/

set_option autoImplicit false

namespace PanelClock

/-- A setting of the wrong kind. -/
structure SettingKindFault where
  name : Text
  value : Value

/-- What is said of a setting of the wrong kind. -/
def SettingKindFault.message (fault : SettingKindFault) : Text :=
  fault.name ++ " must be str or None, got " ++ fault.value.kindName

/-- Settings in normal form. -/
structure Configuration where
  timeZone : Setting
  locale : Setting
  calendar : Setting
  deriving DecidableEq, Repr

/-- What a configuration selects. -/
structure ResolvedConfiguration where
  zone : Zone
  locale : Locale
  calendar : Setting

namespace Configuration

/-- The configuration of settings. -/
def ofSettings (timeZone locale calendar : Setting) : Configuration :=
  ⟨timeZone.normalize, locale.normalize, calendar.normalize⟩

/-- Reads a value as a setting. -/
def readSetting (name : Text) : Value → Except SettingKindFault Setting
  | .none => .ok Option.none
  | .text text => .ok (some text)
  | value => .error ⟨name, value⟩

/-- The configuration of values; the first one of the wrong kind is reported. -/
def ofValues (timeZone locale calendar : Value) : Except SettingKindFault Configuration := do
  let timeZone ← readSetting "timezone" timeZone
  let locale ← readSetting "locale" locale
  let calendar ← readSetting "calendar" calendar
  return ofSettings timeZone locale calendar

/-- The calendar can be rendered. -/
def usesGregorianCalendar (configuration : Configuration) : Bool :=
  match configuration.calendar with
  | none => true
  | some calendar => isGregorian calendar

/-- The settings that a formatter is configured with. -/
def settings (configuration : Configuration) : FormatterSettings :=
  ⟨configuration.timeZone, configuration.locale, configuration.calendar⟩

/-- What a configuration selects; the zone is looked up first. -/
def resolve (system : System) (configuration : Configuration) :
    Except (Failure Fault) ResolvedConfiguration := do
  let zone ← system.resolveZone configuration.timeZone
  let locale ← (system.resolveLocale configuration.locale).mapError .ofConfiguration
  return ⟨zone, locale, configuration.calendar⟩

end Configuration

end PanelClock
