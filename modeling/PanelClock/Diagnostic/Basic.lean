import PanelClock.Text.Basic

/-!
# Diagnostics

A diagnostic says what went wrong: a code, a message, and the context it happened in.
Codes come in three groups: configuration from 1001, rendering from 2001, and the
registry of formatters from 3001.
-/

set_option autoImplicit false

namespace PanelClock

/-- What kind of thing went wrong. -/
inductive DiagnosticCode where
  | localeUnknown
  | timezoneUnknown
  | calendarUnsupported
  | settingInvalid
  | formattingFailed
  | noRenderer
  | patternInvalid
  | formatterNotFound
  | discoveryFailed
  | formatterDuplicate
  | registryNotLoaded
  deriving DecidableEq, Repr

namespace DiagnosticCode

/-- All codes in ascending order. -/
def all : List DiagnosticCode :=
  [localeUnknown, timezoneUnknown, calendarUnsupported, settingInvalid, formattingFailed,
    noRenderer, patternInvalid, formatterNotFound, discoveryFailed, formatterDuplicate,
    registryNotLoaded]

/-- The name of a code. -/
def name : DiagnosticCode → Text
  | localeUnknown => "LOCALE_UNKNOWN"
  | timezoneUnknown => "TIMEZONE_UNKNOWN"
  | calendarUnsupported => "CALENDAR_UNSUPPORTED"
  | settingInvalid => "SETTING_INVALID"
  | formattingFailed => "FORMATTING_FAILED"
  | noRenderer => "NO_RENDERER"
  | patternInvalid => "PATTERN_INVALID"
  | formatterNotFound => "FORMATTER_NOT_FOUND"
  | discoveryFailed => "DISCOVERY_FAILED"
  | formatterDuplicate => "FORMATTER_DUPLICATE"
  | registryNotLoaded => "REGISTRY_NOT_LOADED"

/-- The number of a code. -/
def value : DiagnosticCode → Nat
  | localeUnknown => 1001
  | timezoneUnknown => 1002
  | calendarUnsupported => 1003
  | settingInvalid => 1004
  | formattingFailed => 2001
  | noRenderer => 2002
  | patternInvalid => 2003
  | formatterNotFound => 3001
  | discoveryFailed => 3002
  | formatterDuplicate => 3003
  | registryNotLoaded => 3004

/-- The code with a name. -/
def ofName? (name : Text) : Option DiagnosticCode := all.find? (·.name = name)

end DiagnosticCode

/-- What went wrong, and the context it happened in. -/
structure Diagnostic where
  code : DiagnosticCode
  message : Text
  /-- How to mend it. -/
  hint : Option Text := none
  helpUrl : Option Text := none
  /-- The pattern that was being rendered. -/
  pattern : Option Text := none
  locale : Option Text := none
  timeZone : Option Text := none
  /-- The registry key of the formatter variant. -/
  formatterKey : Option Text := none
  severity : Text := "error"
  deriving DecidableEq, Repr

end PanelClock
