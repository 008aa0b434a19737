import PanelClock.Locale.Setting
import PanelClock.Pattern.Formatter
import PanelClock.Pattern.Newline
import PanelClock.Variant.Profile
import PanelClock.Zone.Setting

/-!
# Classic patterns

Patterns of field letters with literal text in single quotes.  A pattern always
prescribes its layout.  Settings that select no locale or no zone are reported whenever
a pattern is rendered, and not before.
-/

set_option autoImplicit false

namespace PanelClock

/-- A classic formatter: a pattern formatter, or the reason why its settings select
none. -/
inductive Classic where
  | ready (formatter : PatternFormatter)
  | rejected (cause : Cause)

namespace Classic

/-- The profile of the variant. -/
def profile : Profile where
  label := "SimpleDateFormat"
  description := "Unicode CLDR date field patterns"
  capabilities := { timeZone := true, locale := true }
  help :=
    { link := Cause.fieldTableUrl
      left :=
        [ ⟨"y", "year", "2023"⟩,
          ⟨"yy", "year (2 digits only)", "23"⟩,
          ⟨"", "", ""⟩,
          ⟨"M", "month (numeric)", "4"⟩,
          ⟨"MM", "month (numeric, padded)", "04"⟩,
          ⟨"MMM", "month (short)", "Apr"⟩,
          ⟨"MMMM", "month (full)", "April"⟩,
          ⟨"MMMMM", "month (narrow)", "A"⟩,
          ⟨"", "", ""⟩,
          ⟨"w", "week of year", "9"⟩,
          ⟨"ww", "week of year (padded)", "09"⟩,
          ⟨"W", "week of month", "2"⟩,
          ⟨"", "", ""⟩,
          ⟨"d", "day of month", "7"⟩,
          ⟨"dd", "day of month (padded)", "07"⟩,
          ⟨"", "", ""⟩,
          ⟨"'text'", "literal text", ""⟩ ]
      right :=
        [ ⟨"EEE", "weekday (abbrev.)", "Tue"⟩,
          ⟨"EEEE", "weekday (full)", "Tuesday"⟩,
          ⟨"EEEEE", "weekday (narrow)", "T"⟩,
          ⟨"EEEEEE", "weekday (short)", "Tu"⟩,
          ⟨"", "", ""⟩,
          ⟨"h", "hour", "1-12"⟩,
          ⟨"hh", "hour (padded)", "01-12"⟩,
          ⟨"k", "hour", "0-23"⟩,
          ⟨"kk", "hour (padded)", "00-23"⟩,
          ⟨"", "", ""⟩,
          ⟨"m", "minute", "7"⟩,
          ⟨"mm", "minute (padded)", "07"⟩,
          ⟨"", "", ""⟩,
          ⟨"aaa", "period (am/pm)", ""⟩,
          ⟨"", "", ""⟩,
          ⟨"", "", ""⟩,
          ⟨"\\n", "new line", ""⟩ ] }

/-- The formatter for settings of zone and locale, where the table of places is known by its
lookup and locales by the way codes are read. -/
def configureBy (system : System) (placeOf? : Text → Option Zone)
    (readLocale : Text → Except LocaleFault Locale) (timeZone locale : Setting) : Classic :=
  let selected := do
    let locale ← system.resolveLocaleBy readLocale locale
    let zone ← system.resolveZoneBy placeOf? timeZone
    return PatternFormatter.fresh locale zone
  match selected with
  | .ok formatter => ready formatter
  | .error cause => rejected cause

/-- The formatter for settings of zone and locale. -/
def configure (system : System) (timeZone locale : Setting) : Classic :=
  configureBy system system.places system.locales timeZone locale

/-- The fault with which settings ask for the zone of a system that has none.  The locale is looked
up first, and no zone is asked for when it is refused. -/
def fault? (system : System) (readLocale : Text → Except LocaleFault Locale)
    (timeZone locale : Setting) : Option Fault :=
  match system.resolveLocaleBy readLocale locale with
  | .ok _ => system.zoneFaultFor? timeZone
  | .error _ => none

/-- Renders a pattern at an instant. -/
def format (system : System) (pattern : Text) (instant : Instant) :
    Classic → Except (Failure Fault) Text × Classic
  | rejected cause => (.error (.reported (.ofCause .configuration cause)), rejected cause)
  | ready formatter =>
      let (result, later) :=
        formatter.format system (patternMarker :: expandNewlines pattern) instant
      (result, ready later)

end Classic

end PanelClock
