import PanelClock.Diagnostic.Error
import PanelClock.Pattern.Newline
import PanelClock.Variant.Profile
import PanelClock.Variant.Token.Pattern
import PanelClock.Zone.Setting

/-!
# The token variant

Token patterns are rendered in the zone and the language of the settings.  The calendar
must be a Gregorian one.  Settings that cannot be honoured are reported whenever a
pattern is rendered, and not before.
-/

set_option autoImplicit false

namespace PanelClock

/-- The name of the token locale for a code: the whole code, else its language. -/
def tokenLocaleName? (code : Text) : Option Text :=
  let name := (Text.lower (normalizeLocale code)).map fun c => if c = '_' then '-' else c
  [name, Text.before '-' name].find? tokenLocales.contains

/-- A token formatter: the zone and the locale of its settings, or the reason why they
select none. -/
inductive TokenFormatter where
  | ready (zone : Zone) (localeName : Text)
  | rejected (cause : Cause)

namespace TokenFormatter

/-- The key under which the variant is registered. -/
def key : Text := "01_luxon"

/-- The locale when the one of the system is not supported. -/
def fallbackLocale : Text := "en-us"

/-- The profile of the variant. -/
def profile : Profile where
  label := "Luxon"
  description := "Token based formatting"
  capabilities := ⟨true, true, true⟩
  help :=
    { link := "https://arrow.readthedocs.io/en/latest/guide.html#supported-tokens"
      left :=
        [ ⟨"YYYY", "year", "2023"⟩,
          ⟨"YY", "year (2 digits only)", "23"⟩,
          ⟨"", "", ""⟩,
          ⟨"M", "month (numeric)", "4"⟩,
          ⟨"MM", "month (numeric, padded)", "04"⟩,
          ⟨"MMM", "month (short)", "Apr"⟩,
          ⟨"MMMM", "month (full)", "April"⟩,
          ⟨"", "", ""⟩,
          ⟨"W", "ISO week date", "2023-W14-5"⟩,
          ⟨"", "", ""⟩,
          ⟨"D", "day of month", "7"⟩,
          ⟨"DD", "day of month (padded)", "07"⟩,
          ⟨"Do", "day of month (ordinal)", "7th"⟩,
          ⟨"DDDD", "day of year (padded to 3)", "097"⟩,
          ⟨"", "", ""⟩,
          ⟨"[text]", "literal text", ""⟩ ]
      right :=
        [ ⟨"d", "weekday (numeric)", "1-7"⟩,
          ⟨"ddd", "weekday (abbrev.)", "Tue"⟩,
          ⟨"dddd", "weekday (full)", "Tuesday"⟩,
          ⟨"", "", ""⟩,
          ⟨"h", "hour", "1-12"⟩,
          ⟨"hh", "hour (padded)", "01-12"⟩,
          ⟨"H", "hour", "0-23"⟩,
          ⟨"HH", "hour (padded)", "00-23"⟩,
          ⟨"A", "AM-PM", "PM"⟩,
          ⟨"", "", ""⟩,
          ⟨"m", "minute", "7"⟩,
          ⟨"mm", "minute (padded)", "07"⟩,
          ⟨"ss", "second (padded)", "09"⟩,
          ⟨"", "", ""⟩,
          ⟨"ZZ", "UTC offset", "+02:00"⟩,
          ⟨"\\n", "new line", ""⟩ ] }

/-- The locale name that a setting selects. -/
def selectLocale (system : System) (locale : Setting) : Except Cause Text :=
  match locale.filter fun text => !Setting.isDefaultText text with
  | none => .ok ((tokenLocaleName? system.localeCode).getD fallbackLocale)
  | some code =>
      match tokenLocaleName? code with
      | some name => .ok name
      | none => .error (.localeUnknown code "not supported by arrow")

/-- Accepts the calendars that can be rendered. -/
def checkCalendar (calendar : Setting) : Except Cause Unit :=
  match Setting.normalize calendar with
  | none => .ok ()
  | some name => if isGregorian name then .ok () else .error (.calendarUnsupported name (some key))

/-- The formatter for settings of zone, locale and calendar, where the table of places is known by
its lookup. -/
def configureBy (system : System) (placeOf? : Text → Option Zone)
    (timeZone locale calendar : Setting) : TokenFormatter :=
  let selected := do
    let zone ← system.resolveZoneBy placeOf? timeZone
    let name ← selectLocale system locale
    checkCalendar calendar
    return (zone, name)
  match selected with
  | .ok (zone, name) => ready zone name
  | .error cause => rejected cause

/-- The formatter for settings of zone, locale and calendar. -/
def configure (system : System) (timeZone locale calendar : Setting) : TokenFormatter :=
  configureBy system system.places timeZone locale calendar

/-- A formatter is ready when zone, locale and calendar are accepted. -/
theorem configure_eq_ready_iff (system : System) (timeZone locale calendar : Setting) (zone : Zone)
    (name : Text) :
    configure system timeZone locale calendar = ready zone name ↔
      system.resolveZoneBy system.places timeZone = .ok zone ∧
        selectLocale system locale = .ok name ∧ checkCalendar calendar = .ok () := by
  unfold configure configureBy
  cases system.resolveZoneBy system.places timeZone with
  | error cause => simp [bind, Except.bind]
  | ok place =>
      cases selectLocale system locale with
      | error cause => simp [bind, Except.bind]
      | ok found =>
          cases checkCalendar calendar with
          | error cause => simp [bind, Except.bind]
          | ok accepted => simp [bind, Except.bind, pure, Except.pure]

/-- Renders a pattern at an instant. -/
def format (system : System) (pattern : Text) (instant : Instant) :
    TokenFormatter → Except (Failure Fault) Text
  | rejected cause => .error (.reported (.ofCause .configuration cause))
  | ready zone name =>
      match system.clockTime zone instant with
      | .ok time => .ok (tokenPatternText (.ofLocale name) time (expandNewlines pattern))
      | .error fault => .error (.escaped fault)

end TokenFormatter

end PanelClock
