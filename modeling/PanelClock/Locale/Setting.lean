import PanelClock.Diagnostic.Cause
import PanelClock.System

/-!
# Locale settings

A setting of a locale selects the locale of the system or the one that its code names.
-/

set_option autoImplicit false

namespace PanelClock

/-- The locale that a code names once it is in normal form, where locales are known by the way
codes are read. -/
def localeOfCode (readLocale : Text → Except LocaleFault Locale) (code : Text) :
    Except Cause Locale :=
  match readLocale (normalizeLocale code) with
  | .ok locale => .ok locale
  | .error fault => .error (.localeUnknown code fault.message)

/-- The locale that a setting selects, where locales are known by the way codes are read. -/
def System.resolveLocaleBy (system : System) (readLocale : Text → Except LocaleFault Locale) :
    Setting → Except Cause Locale
  | none => localeOfCode readLocale system.localeCode
  | some text =>
      localeOfCode readLocale (if Setting.isDefaultText text then system.localeCode else text)

/-- The locale that a setting selects. -/
def System.resolveLocale (system : System) : Setting → Except Cause Locale :=
  system.resolveLocaleBy system.locales

end PanelClock
