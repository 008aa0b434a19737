import PanelClock.Variant.Beats
import PanelClock.Variant.Classic
import PanelClock.Variant.Sample
import PanelClock.Variant.Token

/-!
# Formatter variants

A variant is a kind of formatter; configuring it with settings gives an instance, which
renders patterns at instants.  The plain variant only carries a profile and has no
instances.
-/

set_option autoImplicit false

namespace PanelClock

/-- The settings that a formatter is configured with. -/
structure FormatterSettings where
  timeZone : Setting := none
  locale : Setting := none
  calendar : Setting := none
  deriving DecidableEq, Repr

/-- The kinds of formatters. -/
inductive Variant where
  | classic
  | token
  | beats
  | upper
  | recording
  /-- The profile that all others are built on. -/
  | plain
  deriving DecidableEq, Repr

/-- A configured formatter. -/
inductive Formatter where
  | classic (formatter : Classic)
  | token (formatter : TokenFormatter)
  | beats
  | upper
  | recording (settings : FormatterSettings)

namespace Variant

/-- What is known of a variant. -/
def profile : Variant → Profile
  | classic => Classic.profile
  | token => TokenFormatter.profile
  | beats => Beats.profile
  | upper => Sample.upperProfile
  | recording => Sample.recordingProfile
  | plain => {}

/-- The name of a variant's class. -/
def className : Variant → Text
  | classic => "ClassicFormatter"
  | token => "TokenFormatter"
  | beats => "BeatsFormatter"
  | upper => "UpperFormatter"
  | recording => "RecordingFormatter"
  | plain => "BaseFormatter"

/-- What is said of a variant without instances. -/
def abstractMessage : Text :=
  "Can't instantiate abstract class BaseFormatter with abstract method format"

/-- The instance of a variant for settings, none for the plain one, where the table of places is
known by its lookup and locales by the way codes are read. -/
def configureBy? (system : System) (placeOf? : Text → Option Zone)
    (readLocale : Text → Except LocaleFault Locale) (settings : FormatterSettings) :
    Variant → Option Formatter
  | classic =>
      some (.classic (.configureBy system placeOf? readLocale settings.timeZone settings.locale))
  | token =>
      some (.token
        (.configureBy system placeOf? settings.timeZone settings.locale settings.calendar))
  | beats => some .beats
  | upper => some .upper
  | recording => some (.recording settings)
  | plain => none

/-- The instance of a variant for settings, none for the plain one. -/
def configure? (system : System) (settings : FormatterSettings) (variant : Variant) :
    Option Formatter :=
  variant.configureBy? system system.places system.locales settings

/-- The fault with which a variant asks for the zone of a system that has none. -/
def fault? (system : System) (readLocale : Text → Except LocaleFault Locale)
    (settings : FormatterSettings) : Variant → Option Fault
  | classic => Classic.fault? system readLocale settings.timeZone settings.locale
  | token => system.zoneFaultFor? settings.timeZone
  | _ => none

/-- Makes the instance of a variant for settings, which fails where it asks for the zone of a system
that has none. -/
def make? (system : System) (placeOf? : Text → Option Zone)
    (readLocale : Text → Except LocaleFault Locale) (settings : FormatterSettings)
    (variant : Variant) : Except Fault (Option Formatter) :=
  match variant.fault? system readLocale settings with
  | some fault => .error fault
  | none => .ok (variant.configureBy? system placeOf? readLocale settings)

end Variant

namespace Formatter

/-- The variant of a formatter. -/
def variant : Formatter → Variant
  | classic _ => .classic
  | token _ => .token
  | beats => .beats
  | upper => .upper
  | recording _ => .recording

/-- A formatter as it is shown in messages. -/
def shown (formatter : Formatter) : Text :=
  formatter.variant.profile.instanceText formatter.variant.className

/-- Renders a pattern at an instant. -/
def format (system : System) (pattern : Text) (instant : Instant) :
    Formatter → Except (Failure Fault) Text × Formatter
  | classic formatter =>
      let (result, later) := formatter.format system pattern instant
      (result, classic later)
  | token formatter => (formatter.format system pattern instant, token formatter)
  | beats => (Beats.format system pattern instant, beats)
  | upper => (.ok pattern.upper, upper)
  | recording settings =>
      (.ok (Sample.showSettings settings.timeZone settings.locale settings.calendar pattern),
        recording settings)

end Formatter

end PanelClock
