import PanelClock.Proofs.Configurations
import PanelClock.Proofs.SameMoment

/-!
# Settings that cannot be used

Making a formatter looks at its settings one after the other.  Classic patterns take the locale
first and then the zone; token patterns take the zone, then the locale, then the calendar.  What
each of these looks refuses is said here by the form of the setting (`UnknownZone`,
`UnknownLocale`, `UnsupportedLocale`, `UnsupportedCalendar`), and the cause for which a variant
refuses all settings is that of its first look that refuses (`Variant.Refuses`).

The refusal does not show when the formatter is made.  It is kept, and no rendering changes it
(`Formatter.rejection?_afterFormats`).  Hence a formatter for settings that its variant refuses
reports that one cause whenever a pattern is rendered, and a formatter for other settings never
reports a configuration (`Variant.ReportsRefusals`).

Only one thing goes wrong while a formatter is made: a setting may ask for the zone of a system
that has none (`Variant.fault?_eq_some_iff`).  Then there is no formatter, and this is the one
exception to the rule (`Variant.reportsRefusals_iff`).
-/

set_option autoImplicit false

namespace PanelClock

/-! ## What is refused -/

/-- A setting of a zone selects none, for a cause: it is of the form of an offset and its hours or
minutes are not those of a clock, or it is no word, no offset and no place. -/
inductive UnknownZone (placeOf? : Text → Option Zone) : Setting → Cause → Prop where
  | offset {text : Text} {sign : Int} {hours minutes : Nat}
      (form : OffsetForm text.trim sign hours minutes) (beyond : ¬ (hours ≤ 23 ∧ minutes ≤ 59)) :
      UnknownZone placeOf? (some text) (.timezoneUnknown text.trim)
  | place {text : Text} (own : ¬ Setting.SelectsSystemZone (some text))
      (other : ¬ text.SelectsUniversalTime)
      (unlike : ¬ ∃ sign hours minutes, OffsetForm text.trim sign hours minutes)
      (missing : placeOf? text.trim = none) :
      UnknownZone placeOf? (some text) (.timezoneUnknown text.trim)

/-- A setting of a locale selects none, for a cause: its code cannot be read, or that of the system
where it asks for the default. -/
inductive UnknownLocale (system : System) (readLocale : Text → Except LocaleFault Locale) :
    Setting → Cause → Prop where
  | default {setting : Setting} {fault : LocaleFault} (asks : setting.isDefault)
      (unread : readLocale (normalizeLocale system.localeCode) = .error fault) :
      UnknownLocale system readLocale setting (.localeUnknown system.localeCode fault.message)
  | code {text : Text} {fault : LocaleFault} (chosen : ¬ Setting.isDefaultText text)
      (unread : readLocale (normalizeLocale text) = .error fault) :
      UnknownLocale system readLocale (some text) (.localeUnknown text fault.message)

/-- Token patterns have no locale for the code of a setting. -/
inductive UnsupportedLocale : Setting → Cause → Prop where
  | intro {text : Text} (chosen : ¬ Setting.isDefaultText text)
      (unnamed : tokenLocaleName? text = none) :
      UnsupportedLocale (some text) (.localeUnknown text "not supported by arrow")

/-- Token patterns cannot be rendered in the calendar of a setting. -/
inductive UnsupportedCalendar : Setting → Cause → Prop where
  | intro {text : Text} (outside : text.trim.lower ∉ defaultWords ++ gregorianCalendars) :
      UnsupportedCalendar (some text)
        (.calendarUnsupported text.trim (some TokenFormatter.key))

/-- A variant refuses settings for a cause: the first one that it comes to.  Classic patterns have
no use for the calendar, and the other variants refuse no settings. -/
inductive Variant.Refuses (system : System) (placeOf? : Text → Option Zone)
    (readLocale : Text → Except LocaleFault Locale) (settings : FormatterSettings) :
    Variant → Cause → Prop where
  | classicLocale {cause : Cause} (locale : UnknownLocale system readLocale settings.locale cause) :
      Refuses system placeOf? readLocale settings .classic cause
  | classicZone {cause : Cause}
      (locale : ∀ earlier, ¬ UnknownLocale system readLocale settings.locale earlier)
      (zone : UnknownZone placeOf? settings.timeZone cause) :
      Refuses system placeOf? readLocale settings .classic cause
  | tokenZone {cause : Cause} (zone : UnknownZone placeOf? settings.timeZone cause) :
      Refuses system placeOf? readLocale settings .token cause
  | tokenLocale {cause : Cause}
      (zone : ∀ earlier, ¬ UnknownZone placeOf? settings.timeZone earlier)
      (locale : UnsupportedLocale settings.locale cause) :
      Refuses system placeOf? readLocale settings .token cause
  | tokenCalendar {cause : Cause}
      (zone : ∀ earlier, ¬ UnknownZone placeOf? settings.timeZone earlier)
      (locale : ∀ earlier, ¬ UnsupportedLocale settings.locale earlier)
      (calendar : UnsupportedCalendar settings.calendar cause) :
      Refuses system placeOf? readLocale settings .token cause

/-! ## What each look at the settings refuses -/

theorem zoneOfText_of_universal (placeOf? : Text → Option Zone) {text : Text}
    (universal : text.upper ∈ universalWords) : zoneOfText placeOf? text = .ok .universal := by
  rw [Text.upper_mem_iff (by decide)] at universal
  exact if_pos (by rwa [List.contains_iff_mem])

namespace System

variable (system : System)

/-- **Exactly the unknown zones are refused.** -/
theorem resolveZoneBy_eq_error_iff (placeOf? : Text → Option Zone) {setting : Setting}
    {cause : Cause} :
    system.resolveZoneBy placeOf? setting = .error cause ↔ UnknownZone placeOf? setting cause := by
  constructor
  · intro refused
    by_cases own : setting.SelectsSystemZone
    · rw [system.resolveZoneBy_of_selectsSystemZone placeOf? own] at refused
      cases refused
    · obtain ⟨text, rfl⟩ : ∃ text, setting = some text :=
        Option.ne_none_iff_exists'.mp fun unset => own (unset ▸ trivial)
      rw [system.resolveZoneBy_of_not_selectsSystemZone placeOf? own] at refused
      by_cases other : text.SelectsUniversalTime
      · rw [zoneOfText_of_universal placeOf? other] at refused
        cases refused
      · rw [zoneOfText_of_not_universal placeOf? other] at refused
        split at refused
        · cases refused
        · next large =>
            obtain ⟨sign, hours, minutes, form, value⟩ := readOffset?_eq_some_iff.mp large
            cases refused
            refine .offset form fun inside => ?_
            rw [if_pos inside] at value
            cases value
        · next unread =>
            split at refused
            · cases refused
            · next missing =>
                cases refused
                exact .place own other (readOffset?_eq_none_iff.mp unread) missing
  · intro unknown
    cases unknown with
    | offset form beyond => rw [form.resolveZoneBy_eq system placeOf?, if_neg beyond]
    | place own other unlike missing =>
        rw [system.resolveZoneBy_of_not_selectsSystemZone placeOf? own,
          zoneOfText_of_not_universal placeOf? other, readOffset?_eq_none_iff.mpr unlike]
        dsimp only
        rw [missing]

theorem localeOfCode_eq_error_iff {readLocale : Text → Except LocaleFault Locale} {code : Text}
    {cause : Cause} :
    localeOfCode readLocale code = .error cause ↔ ∃ fault,
      readLocale (normalizeLocale code) = .error fault ∧
        cause = .localeUnknown code fault.message := by
  unfold localeOfCode
  cases readLocale (normalizeLocale code) with
  | ok locale => simp
  | error fault => simp [eq_comm]

/-- **Exactly the unknown locales are refused.** -/
theorem resolveLocaleBy_eq_error_iff (readLocale : Text → Except LocaleFault Locale)
    {setting : Setting} {cause : Cause} :
    system.resolveLocaleBy readLocale setting = .error cause ↔
      UnknownLocale system readLocale setting cause := by
  constructor
  · intro refused
    by_cases asks : setting.isDefault
    · rw [system.resolveLocaleBy_of_isDefault readLocale asks] at refused
      obtain ⟨fault, unread, rfl⟩ := localeOfCode_eq_error_iff.mp refused
      exact .default asks unread
    · obtain ⟨text, rfl⟩ : ∃ text, setting = some text :=
        Option.ne_none_iff_exists'.mp fun unset => asks (unset ▸ rfl)
      have chosen : ¬ Setting.isDefaultText text := asks
      rw [resolveLocaleBy, if_neg chosen] at refused
      obtain ⟨fault, unread, rfl⟩ := localeOfCode_eq_error_iff.mp refused
      exact .code chosen unread
  · intro unknown
    cases unknown with
    | default asks unread =>
        rw [system.resolveLocaleBy_of_isDefault readLocale asks]
        exact localeOfCode_eq_error_iff.mpr ⟨_, unread, rfl⟩
    | code chosen unread =>
        rw [resolveLocaleBy, if_neg chosen]
        exact localeOfCode_eq_error_iff.mpr ⟨_, unread, rfl⟩

end System

namespace TokenFormatter

/-- **Exactly the locales without a name for token patterns are refused.** -/
theorem selectLocale_eq_error_iff (system : System) {setting : Setting} {cause : Cause} :
    selectLocale system setting = .error cause ↔ UnsupportedLocale setting cause := by
  constructor
  · intro refused
    unfold selectLocale at refused
    split at refused
    · cases refused
    · next text kept =>
        obtain ⟨rfl, chosen⟩ := Option.filter_eq_some_iff.mp kept
        split at refused
        · cases refused
        · next unnamed =>
            cases refused
            exact .intro (by simpa using chosen) unnamed
  · rintro ⟨chosen, unnamed⟩
    rw [selectLocale, Option.filter_some, if_pos (by simpa using chosen)]
    dsimp only
    rw [unnamed]

/-- **Exactly the calendars that cannot be rendered are refused.** -/
theorem checkCalendar_eq_error_iff {setting : Setting} {cause : Cause} :
    checkCalendar setting = .error cause ↔ UnsupportedCalendar setting cause := by
  constructor
  · intro refused
    unfold checkCalendar at refused
    rcases setting.normalize_cases with ⟨-, unset⟩ | ⟨text, rfl, chosen, kept⟩
    · rw [unset] at refused
      cases refused
    · rw [kept] at refused
      dsimp only at refused
      split at refused
      · cases refused
      · next other =>
          cases refused
          refine .intro fun inside => ?_
          rw [List.mem_append, ← Setting.isDefaultText_iff, ← isGregorian_iff] at inside
          exact inside.elim chosen other
  · rintro ⟨outside⟩
    rw [List.mem_append, not_or, ← Setting.isDefaultText_iff, ← isGregorian_iff] at outside
    rw [checkCalendar, Setting.normalize, if_neg outside.1]
    dsimp only
    rw [if_neg outside.2]

end TokenFormatter

/-! ## Formatters for settings -/

/-- A choice gives a value exactly when it is refused for no cause. -/
theorem exists_eq_ok_iff {ε α : Type} {choice : Except ε α} :
    (∃ value, choice = .ok value) ↔ ∀ cause, choice ≠ .error cause := by
  cases choice with
  | error cause => simp
  | ok value => simp

section Configured

variable (system : System) (placeOf? : Text → Option Zone)
  (readLocale : Text → Except LocaleFault Locale) (settings : FormatterSettings)

theorem Classic.configureBy_eq_rejected_iff {cause : Cause} :
    Classic.configureBy system placeOf? readLocale settings.timeZone settings.locale =
        .rejected cause ↔
      Variant.Refuses system placeOf? readLocale settings .classic cause := by
  have choices : Classic.configureBy system placeOf? readLocale settings.timeZone
      settings.locale = .rejected cause ↔
      system.resolveLocaleBy readLocale settings.locale = .error cause ∨
        (∃ locale, system.resolveLocaleBy readLocale settings.locale = .ok locale) ∧
          system.resolveZoneBy placeOf? settings.timeZone = .error cause := by
    unfold Classic.configureBy
    cases system.resolveLocaleBy readLocale settings.locale with
    | error other => simp [bind, Except.bind]
    | ok locale =>
        cases system.resolveZoneBy placeOf? settings.timeZone with
        | error other => simp [bind, Except.bind]
        | ok zone => simp [bind, Except.bind, pure, Except.pure]
  simp only [choices, exists_eq_ok_iff, ne_eq, system.resolveLocaleBy_eq_error_iff,
    system.resolveZoneBy_eq_error_iff]
  constructor
  · rintro (locale | ⟨locale, zone⟩)
    · exact .classicLocale locale
    · exact .classicZone locale zone
  · intro refuses
    cases refuses with
    | classicLocale locale => exact .inl locale
    | classicZone locale zone => exact .inr ⟨locale, zone⟩

theorem TokenFormatter.configureBy_eq_rejected_iff {cause : Cause} :
    TokenFormatter.configureBy system placeOf? settings.timeZone settings.locale
        settings.calendar = .rejected cause ↔
      Variant.Refuses system placeOf? readLocale settings .token cause := by
  have choices : TokenFormatter.configureBy system placeOf? settings.timeZone settings.locale
      settings.calendar = .rejected cause ↔
      system.resolveZoneBy placeOf? settings.timeZone = .error cause ∨
        (∃ zone, system.resolveZoneBy placeOf? settings.timeZone = .ok zone) ∧
          (selectLocale system settings.locale = .error cause ∨
            (∃ name, selectLocale system settings.locale = .ok name) ∧
              checkCalendar settings.calendar = .error cause) := by
    unfold TokenFormatter.configureBy
    cases system.resolveZoneBy placeOf? settings.timeZone with
    | error other => simp [bind, Except.bind]
    | ok zone =>
        cases selectLocale system settings.locale with
        | error other => simp [bind, Except.bind]
        | ok name =>
            cases checkCalendar settings.calendar with
            | error other => simp [bind, Except.bind]
            | ok accepted => simp [bind, Except.bind, pure, Except.pure]
  simp only [choices, exists_eq_ok_iff, ne_eq, selectLocale_eq_error_iff,
    checkCalendar_eq_error_iff, system.resolveZoneBy_eq_error_iff]
  constructor
  · rintro (zone | ⟨zone, locale | ⟨locale, calendar⟩⟩)
    · exact .tokenZone zone
    · exact .tokenLocale zone locale
    · exact .tokenCalendar zone locale calendar
  · intro refuses
    cases refuses with
    | tokenZone zone => exact .inl zone
    | tokenLocale zone locale => exact .inr ⟨zone, .inl locale⟩
    | tokenCalendar zone locale calendar => exact .inr ⟨zone, .inr ⟨locale, calendar⟩⟩

/-- The cause for which the settings of a formatter are refused. -/
def Formatter.rejection? : Formatter → Option Cause
  | classic (.rejected cause) => some cause
  | token (.rejected cause) => some cause
  | _ => none

/-- **A formatter keeps the cause for which its variant refuses the settings, and no other.** -/
theorem Formatter.rejection?_of_configureBy? {variant : Variant} {formatter : Formatter}
    (configured : variant.configureBy? system placeOf? readLocale settings = some formatter)
    (cause : Cause) :
    formatter.rejection? = some cause ↔
      variant.Refuses system placeOf? readLocale settings cause := by
  cases variant with
  | classic =>
      cases configured
      rw [← Classic.configureBy_eq_rejected_iff]
      cases Classic.configureBy system placeOf? readLocale settings.timeZone settings.locale <;>
        simp [rejection?]
  | token =>
      cases configured
      rw [← TokenFormatter.configureBy_eq_rejected_iff]
      cases TokenFormatter.configureBy system placeOf? settings.timeZone settings.locale
        settings.calendar <;> simp [rejection?]
  | plain => cases configured
  | beats | upper | recording =>
      cases configured
      constructor
      · intro kept
        cases kept
      · intro refuses
        cases refuses

end Configured

/-! ## Rendering with a formatter -/

/-- A pattern formatter reports what concerns the rendering only. -/
theorem PatternFormatter.kind_of_format_eq_error {formatter : PatternFormatter} {system : System}
    {pattern : Text} {instant : Instant} {error : ClockError}
    (failed : (formatter.format system pattern instant).1 = .error (.reported error)) :
    error.kind = .formatting := by
  unfold format at failed
  dsimp only at failed
  split at failed
  · cases failed
  · cases failed
    rfl
  · split at failed
    · cases failed
    · cases failed
      rfl

namespace Formatter

variable (system : System) (formatter : Formatter)

/-- A rendering keeps the refusal. -/
theorem rejection?_format (pattern : Text) (instant : Instant) :
    (formatter.format system pattern instant).2.rejection? = formatter.rejection? := by
  cases formatter with
  | classic formatter =>
      cases formatter with
      | ready formatter => rfl
      | rejected cause => rfl
  | token formatter => rfl
  | beats => rfl
  | upper => rfl
  | recording settings => rfl

/-- **No renderings change the refusal.** -/
theorem rejection?_afterFormats (requests : List (Text × Instant)) :
    (formatter.afterFormats system requests).rejection? = formatter.rejection? := by
  induction requests generalizing formatter with
  | nil => rfl
  | cons request requests ih =>
      exact (ih (formatter.format system request.1 request.2).2).trans
        (formatter.rejection?_format system request.1 request.2)

variable {formatter}

/-- A formatter for refused settings reports the cause, whatever is rendered. -/
theorem format_of_rejection? {cause : Cause} (refused : formatter.rejection? = some cause)
    (pattern : Text) (instant : Instant) :
    (formatter.format system pattern instant).1 =
      .error (.reported (.ofCause .configuration cause)) := by
  unfold rejection? at refused
  split at refused
  · cases refused
    rfl
  · cases refused
    rfl
  · cases refused

/-- A formatter for other settings reports no configuration. -/
theorem kind_ne_of_rejection?_eq_none (accepted : formatter.rejection? = none) {pattern : Text}
    {instant : Instant} {error : ClockError}
    (failed : (formatter.format system pattern instant).1 = .error (.reported error)) :
    error.kind ≠ .configuration := by
  cases formatter with
  | classic formatter =>
      cases formatter with
      | rejected cause => cases accepted
      | ready formatter =>
          intro kind
          rw [PatternFormatter.kind_of_format_eq_error failed] at kind
          cases kind
  | token formatter =>
      cases formatter with
      | rejected cause => cases accepted
      | ready zone name =>
          simp only [format, TokenFormatter.format] at failed
          split at failed
          · cases failed
          · cases failed
  | beats =>
      simp only [format, Beats.format] at failed
      split at failed
      · cases failed
      · cases failed
  | upper => cases failed
  | recording settings => cases failed

end Formatter

/-! ## Making a formatter -/

/-- A system without a zone: nothing names a place, and its clocks are a day or more away from
universal time. -/
def System.Zoneless (system : System) : Prop :=
  system.place? = none ∧ 86400 ≤ (system.clocks system.present).offset.natAbs

/-- What a system without a zone answers who asks for it. -/
theorem System.zoneFault?_eq_some_iff (system : System) {fault : Fault} :
    system.zoneFault? = some fault ↔
      system.Zoneless ∧ fault = .offsetTooLarge (system.clocks system.present).offset := by
  unfold zoneFault? checkedOffset Zoneless
  cases system.place? with
  | some zone => simp
  | none =>
      by_cases far : (system.clocks system.present).offset.natAbs < 86400
      · simp [far, Nat.not_le.mpr far]
      · simp [far, Nat.le_of_not_lt far, eq_comm]

namespace Variant

variable (system : System) (placeOf? : Text → Option Zone)
  (readLocale : Text → Except LocaleFault Locale) (settings : FormatterSettings)
  (variant : Variant)

/-- A variant comes to ask for the zone of a system that has none.  Classic patterns do not come to
that where the locale is refused, and variants other than classic and token patterns ask for no
zone. -/
def AsksZoneless : Prop :=
  system.Zoneless ∧ settings.timeZone.SelectsSystemZone ∧
    (variant = .token ∨
      variant = .classic ∧ ∀ cause, ¬ UnknownLocale system readLocale settings.locale cause)

/-- **What goes wrong while a formatter is made**: it asks for the zone of a system that has
none. -/
theorem fault?_eq_some_iff (fault : Fault) :
    variant.fault? system readLocale settings = some fault ↔
      variant.AsksZoneless system readLocale settings ∧
        fault = .offsetTooLarge (system.clocks system.present).offset := by
  have asked : system.zoneFaultFor? settings.timeZone = some fault ↔
      settings.timeZone.SelectsSystemZone ∧ system.zoneFault? = some fault := by
    rw [System.zoneFaultFor?, ← Setting.asksSystemZone_iff]
    split
    · next asks => simp [asks]
    · next other => simp [other]
  rw [system.zoneFault?_eq_some_iff] at asked
  unfold AsksZoneless
  cases variant with
  | classic =>
      simp only [← system.resolveLocaleBy_eq_error_iff readLocale, Variant.fault?,
        Classic.fault?]
      cases system.resolveLocaleBy readLocale settings.locale with
      | ok locale => simp [asked, and_left_comm, and_assoc]
      | error cause => simp
  | token => simp [Variant.fault?, asked, and_left_comm, and_assoc]
  | beats | upper | recording | plain => simp [Variant.fault?]

/-- A variant makes a formatter for settings, and it reports settings that cannot be used by every
rendering, and only there: if the variant refuses the settings, all renderings report the one cause
of that, after any other renderings and whatever is rendered, and otherwise none reports a
configuration. -/
def ReportsRefusals : Prop :=
  ∃ formatter, variant.make? system placeOf? readLocale settings = .ok (some formatter) ∧
    (∀ cause, variant.Refuses system placeOf? readLocale settings cause →
      ∀ requests pattern instant,
        ((formatter.afterFormats system requests).format system pattern instant).1 =
          .error (.reported (.ofCause .configuration cause))) ∧
    ((∀ cause, ¬ variant.Refuses system placeOf? readLocale settings cause) →
      ∀ requests pattern instant error,
        ((formatter.afterFormats system requests).format system pattern instant).1 =
          .error (.reported error) → error.kind ≠ .configuration)

/-- A formatter that is made without a fault reports what is refused. -/
theorem reportsRefusals_of_fault?_eq_none (instances : variant ≠ .plain)
    (faultless : variant.fault? system readLocale settings = none) :
    variant.ReportsRefusals system placeOf? readLocale settings := by
  obtain ⟨formatter, configured⟩ :
      ∃ formatter, variant.configureBy? system placeOf? readLocale settings = some formatter := by
    cases variant with
    | plain => exact absurd rfl instances
    | classic | token | beats | upper | recording => exact ⟨_, rfl⟩
  have kept := Formatter.rejection?_of_configureBy? system placeOf? readLocale settings configured
  refine ⟨formatter, ?_, fun cause refuses requests pattern instant => ?_,
    fun accepts requests pattern instant error failed => ?_⟩
  · rw [make?, faultless, configured]
  · have refused : (formatter.afterFormats system requests).rejection? = some cause := by
      rw [Formatter.rejection?_afterFormats]
      exact (kept cause).mpr refuses
    exact Formatter.format_of_rejection? system refused pattern instant
  · have accepted : (formatter.afterFormats system requests).rejection? = none := by
      rw [Formatter.rejection?_afterFormats, Option.eq_none_iff_forall_ne_some]
      exact fun cause refused => accepts cause ((kept cause).mp refused)
    exact Formatter.kind_ne_of_rejection?_eq_none system accepted failed

/-- Where making a formatter goes wrong there is none to report what is refused. -/
theorem make?_of_fault?_eq_some {fault : Fault}
    (failed : variant.fault? system readLocale settings = some fault) :
    variant.make? system placeOf? readLocale settings = .error fault ∧
      ¬ variant.ReportsRefusals system placeOf? readLocale settings := by
  have made : variant.make? system placeOf? readLocale settings = .error fault := by
    rw [make?, failed]
  refine ⟨made, ?_⟩
  rintro ⟨formatter, other, -⟩
  rw [made] at other
  cases other

/-- **Settings that cannot be used are reported by every rendering, and only there, exactly when
the variant does not come to ask for the zone of a system that has none.**  It has instances
then, as all variants but the plain one have. -/
theorem reportsRefusals_iff :
    variant.ReportsRefusals system placeOf? readLocale settings ↔
      variant ≠ .plain ∧ ¬ variant.AsksZoneless system readLocale settings := by
  have faulty := variant.fault?_eq_some_iff system readLocale settings
  constructor
  · intro reports
    refine ⟨?_, fun asks => ?_⟩
    · rintro rfl
      obtain ⟨formatter, made, -⟩ := reports
      cases made
    · have failed := (faulty _).mpr ⟨asks, rfl⟩
      exact (variant.make?_of_fault?_eq_some system placeOf? readLocale settings failed).2 reports
  · rintro ⟨instances, asksNot⟩
    have faultless : variant.fault? system readLocale settings = none := by
      rw [Option.eq_none_iff_forall_ne_some]
      exact fun fault failed => asksNot ((faulty fault).mp failed).1
    exact variant.reportsRefusals_of_fault?_eq_none system placeOf? readLocale settings instances
      faultless

/-- Where nothing can be used, a classic formatter reports the locale and a token formatter the
zone, on a system that has no zone as well. -/
theorem reportsRefusals_first :
    let settings : FormatterSettings :=
      { timeZone := some "Mars/Olympus", locale := some "zz-ZZ", calendar := some "hebrew" }
    let system : System := { timeZone := some "AAA24" }
    (∃ formatter, Variant.classic.make? system zoneOfKey? Locale.read settings =
        .ok (some formatter) ∧
      ∀ requests pattern instant,
        ((formatter.afterFormats system requests).format system pattern instant).1 =
          .error (.reported (.ofCause .configuration
            (.localeUnknown "zz-ZZ" "unknown locale 'zz_ZZ'")))) ∧
    ∃ formatter, Variant.token.make? system zoneOfKey? Locale.read settings =
        .ok (some formatter) ∧
      ∀ requests pattern instant,
        ((formatter.afterFormats system requests).format system pattern instant).1 =
          .error (.reported (.ofCause .configuration (.timezoneUnknown "Mars/Olympus"))) := by
  intro settings system
  have chosen : ¬ settings.timeZone.SelectsSystemZone := by decide
  have unread : Locale.read (normalizeLocale "zz-ZZ") = .error (.unknown "zz_ZZ") := rfl
  have locale : Variant.classic.Refuses system zoneOfKey? Locale.read settings
      (.localeUnknown "zz-ZZ" "unknown locale 'zz_ZZ'") :=
    .classicLocale (.code (by decide) unread)
  have zone : Variant.token.Refuses system zoneOfKey? Locale.read settings
      (.timezoneUnknown "Mars/Olympus") :=
    .tokenZone (.place (by decide) (by decide) (readOffset?_eq_none_iff.mp rfl) rfl)
  obtain ⟨classic, made, reports, -⟩ :=
    (reportsRefusals_iff system zoneOfKey? Locale.read settings .classic).mpr
      ⟨by decide, fun asks => chosen asks.2.1⟩
  obtain ⟨token, made', reports', -⟩ :=
    (reportsRefusals_iff system zoneOfKey? Locale.read settings .token).mpr
      ⟨by decide, fun asks => chosen asks.2.1⟩
  exact ⟨⟨classic, made, reports _ locale⟩, token, made', reports' _ zone⟩

/-- Clocks that are said to be a day behind universal time, where nothing names a place, leave no
formatter to report anything: making one for no settings at all fails. -/
theorem make?_zoneless :
    let system : System := { timeZone := some "AAA24" }
    let fault := Fault.offsetTooLarge (-86400)
    (Variant.classic.make? system zoneOfKey? Locale.read {} = .error fault ∧
      ¬ Variant.classic.ReportsRefusals system zoneOfKey? Locale.read {}) ∧
    (Variant.token.make? system zoneOfKey? Locale.read {} = .error fault ∧
      ¬ Variant.token.ReportsRefusals system zoneOfKey? Locale.read {}) := by
  intro system fault
  have classic : Variant.classic.fault? system Locale.read {} = some fault := by decide +kernel
  have token : Variant.token.fault? system Locale.read {} = some fault := by decide +kernel
  exact ⟨make?_of_fault?_eq_some system zoneOfKey? Locale.read {} .classic classic,
    make?_of_fault?_eq_some system zoneOfKey? Locale.read {} .token token⟩

end Variant

end PanelClock
