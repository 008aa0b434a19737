import PanelClock.Diagnostic.Basic
import PanelClock.Value

/-!
# Causes

Everything that can go wrong with a configuration, a rendering or the registry, with
the one wording of each.
-/

set_option autoImplicit false

namespace PanelClock

/-- What can go wrong. -/
inductive Cause where
  | localeUnknown (code reason : Text)
  | timezoneUnknown (name : Text)
  /-- A calendar that the given formatter variant cannot render. -/
  | calendarUnsupported (calendar : Text) (formatterKey : Option Text)
  | settingInvalid (key : Text) (value : Value) (reason : Text)
  | formattingFailed (pattern reason : Text) (locale timeZone : Option Text)
  /-- A pattern without a renderer, with the skeleton that no locale pattern matches. -/
  | noRenderer (pattern : Text) (locale skeleton : Option Text)
  | patternInvalid (pattern reason : Text)
  | formatterNotFound (key : Text)
  | formatterDuplicate (key : Text)
  | discoveryFailed (reason : Text)
  | registryNotLoaded

namespace Cause

/-- Where field letters are documented. -/
def fieldTableUrl : Text :=
  "https://www.unicode.org/reports/tr35/tr35-dates.html#Date_Field_Symbol_Table"

/-- The diagnostic of a cause. -/
def diagnostic : Cause → Diagnostic
  | localeUnknown code reason =>
      { code := .localeUnknown
        message := "Unknown locale '" ++ code ++ "': " ++ reason
        hint := some "Use a BCP-47 tag such as 'en-US' or switch back to the default locale"
        locale := some code }
  | timezoneUnknown name =>
      { code := .timezoneUnknown
        message := "Unknown time zone '" ++ name ++ "'"
        hint := some "Use an IANA zone name such as 'Europe/Berlin' or an offset like '+02:00'"
        timeZone := some name }
  | calendarUnsupported calendar formatterKey =>
      { code := .calendarUnsupported
        message := "Calendar '" ++ calendar ++ "' is not supported"
        hint := some "Only Gregorian calendars ('gregory', 'iso8601') can be rendered"
        formatterKey := formatterKey }
  | settingInvalid key value reason =>
      { code := .settingInvalid
        message := "Invalid value " ++ value.written ++ " for setting '" ++ key ++ "': " ++ reason }
  | formattingFailed pattern reason locale timeZone =>
      { code := .formattingFailed
        message := "Formatting failed: " ++ reason
        pattern := some pattern
        locale := locale
        timeZone := timeZone }
  | noRenderer pattern locale skeleton =>
      { code := .noRenderer
        message :=
          match skeleton with
          | some (c :: rest) => "No locale format matches skeleton '" ++ c :: rest ++ "'"
          | _ => "Pattern does not select any date or time field"
        hint := some "Prefix the pattern with '#' to use explicit field letters"
        helpUrl := some fieldTableUrl
        pattern := some pattern
        locale := locale }
  | patternInvalid pattern reason =>
      { code := .patternInvalid
        message := "Invalid pattern: " ++ reason
        pattern := some pattern }
  | formatterNotFound key =>
      { code := .formatterNotFound
        message := "Formatter '" ++ key ++ "' is not registered"
        hint := some "Call FormatterRegistry.as_list() to see the available formatters"
        formatterKey := some key }
  | formatterDuplicate key =>
      { code := .formatterDuplicate
        message := "Formatter '" ++ key ++ "' is already registered"
        formatterKey := some key }
  | discoveryFailed reason =>
      { code := .discoveryFailed
        message := "Formatter discovery failed: " ++ reason }
  | registryNotLoaded =>
      { code := .registryNotLoaded
        message := "Formatter registry has not been loaded"
        hint := some "Await FormatterRegistry.load() before selecting a formatter" }

end Cause

end PanelClock
