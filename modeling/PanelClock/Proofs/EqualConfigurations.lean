import PanelClock.Proofs.Configurations

/-!
# Which configurations are equal

Two configurations are equal when their settings have the same normal forms.  A normal form drops
the blanks around a text and forgets by which word the default was asked for
(`Setting.normalize_eq_iff`).  Hence settings that select the same make equal configurations, as
far as the words that select a default are those that normal forms forget.

For locales and calendars they are.  For zones there is one word more: `local` selects the zone of
the system, too, and is kept.  So two configurations that select the same are equal exactly when no
zone is asked for by that word, or when both are and it is spelled alike
(`Configuration.ofValues_eq_iff`).  The other direction has no exception: equal configurations come
from settings that select the same.
-/

set_option autoImplicit false

namespace PanelClock

namespace Setting

/-- Two settings make the same choice: both select a default, or they are the same text but for
the blanks around it. -/
def SameChoice (selectsDefault : Setting → Prop) (first second : Setting) : Prop :=
  selectsDefault first ∧ selectsDefault second ∨ first.map Text.trim = second.map Text.trim

/-- A setting asks for the zone of the system by the word that stands for no other default. -/
def AsksLocal : Setting → Prop
  | none => False
  | some text => text.trim.lower = "local"

end Setting

/-! ## Settings that select a default -/

namespace System

/-- The settings that select the zone of the system are those that do so on every system, whatever
places there are. -/
theorem selectsSystemZone_iff_forall (setting : Setting) :
    setting.SelectsSystemZone ↔ ∀ (system : System) (placeOf? : Text → Option Zone),
      system.resolveZoneBy placeOf? setting = .ok system.zone := by
  constructor
  · intro selects system placeOf?
    exact system.resolveZoneBy_of_selectsSystemZone placeOf? selects
  · intro always
    cases setting with
    | none => trivial
    | some text =>
        by_contra other
        -- What another text selects is the same on all systems, and their zones are not.
        have same : ∀ system : System, zoneOfText zoneOfKey? text.trim = .ok system.zone := by
          intro system
          rw [← system.resolveZoneBy_of_not_selectsSystemZone zoneOfKey? other]
          exact always system zoneOfKey?
        have equal : standard.zone = zone { timeZone := some "Asia/Tokyo" } :=
          Except.ok.inj ((same _).symm.trans (same _))
        exact absurd (congrArg Zone.key? equal) (by decide)

/-- The settings that ask for the default are those that select the locale of every system, however
codes are read. -/
theorem isDefault_iff_forall (setting : Setting) :
    setting.isDefault ↔ ∀ (system : System) (readLocale : Text → Except LocaleFault Locale),
      system.resolveLocaleBy readLocale setting = localeOfCode readLocale system.localeCode := by
  constructor
  · intro asks system readLocale
    exact system.resolveLocaleBy_of_isDefault readLocale asks
  · intro always
    cases setting with
    | none => rfl
    | some text =>
        by_contra other
        -- A refusal tells the code that was read, and systems have different ones.
        have same : ∀ system : System, text = system.localeCode := by
          intro system
          have chosen : ¬ Setting.isDefaultText text := other
          have refused := always system fun _ => .error (.unknown [])
          rw [resolveLocaleBy, if_neg chosen] at refused
          exact code_eq_of_localeOfCode refused.symm
        have equal : standard.localeCode = localeCode { language := some "de_DE" } :=
          (same _).symm.trans (same _)
        exact absurd equal (by decide)

end System

namespace Setting

theorem selectsSystemZone_iff_isDefault_or (setting : Setting) :
    setting.SelectsSystemZone ↔ setting.isDefault ∨ setting.AsksLocal := by
  cases setting with
  | none => exact iff_of_true trivial (.inl rfl)
  | some text =>
      rw [SelectsSystemZone, systemZoneWords, List.mem_cons, or_comm, ← isDefaultText_iff]
      rfl

theorem AsksLocal.not_isDefault {setting : Setting} (asks : setting.AsksLocal) :
    ¬ setting.isDefault := by
  cases setting with
  | none => exact asks.elim
  | some text =>
      intro default
      have word := (isDefaultText_iff text).mp default
      rw [show text.trim.lower = "local" from asks] at word
      exact absurd word (by decide)

/-! ## Equal normal forms -/

variable {first second : Setting}

theorem isDefault_of_normalize_eq_none (unset : first.normalize = none) : first.isDefault := by
  rcases first.normalize_cases with ⟨asks, -⟩ | ⟨text, rfl, -, kept⟩
  · exact asks
  · rw [kept] at unset
    cases unset

theorem normalize_eq_none_of_isDefault (asks : first.isDefault) : first.normalize = none := by
  rcases first.normalize_cases with ⟨-, unset⟩ | ⟨text, rfl, chosen, -⟩
  · exact unset
  · exact absurd asks chosen

/-- Texts that are the same without blanks have the same normal form. -/
theorem normalize_eq_of_map_trim (trimmed : first.map Text.trim = second.map Text.trim) :
    first.normalize = second.normalize := by
  have kept : ∀ setting : Setting, setting.normalize = normalize (setting.map Text.trim) := by
    intro setting
    cases setting with
    | none => rfl
    | some text =>
        rw [Option.map_some, normalize, normalize, isDefaultText_trim, Text.trim_trim]
  rw [kept first, kept second, trimmed]

/-- **Normal forms are equal exactly when both settings ask for the default, or when they are the
same text but for blanks.** -/
theorem normalize_eq_iff :
    first.normalize = second.normalize ↔
      SameChoice (fun setting => setting.isDefault) first second := by
  constructor
  · intro same
    rcases first.normalize_cases with ⟨asks, unset⟩ | ⟨text, rfl, -, kept⟩
    · rw [unset] at same
      exact .inl ⟨asks, isDefault_of_normalize_eq_none same.symm⟩
    · rw [kept] at same
      rcases second.normalize_cases with ⟨-, unset⟩ | ⟨other, rfl, -, kept'⟩
      · rw [unset] at same
        cases same
      · exact .inr (same.trans kept')
  · rintro (⟨asks, asks'⟩ | trimmed)
    · rw [normalize_eq_none_of_isDefault asks, normalize_eq_none_of_isDefault asks']
    · exact normalize_eq_of_map_trim trimmed

/-- **Zones that select the same have equal normal forms unless one is asked for by the word that
normal forms keep**, and then only if both are, in one spelling. -/
theorem SameChoice.normalize_eq_iff (same : SameChoice SelectsSystemZone first second) :
    first.normalize = second.normalize ↔
      (first.AsksLocal ∨ second.AsksLocal → first.map Text.trim = second.map Text.trim) := by
  rw [Setting.normalize_eq_iff]
  constructor
  · rintro (⟨asks, asks'⟩ | trimmed) localWord
    · exact absurd localWord
        (not_or_intro (fun word => word.not_isDefault asks) fun word => word.not_isDefault asks')
    · exact trimmed
  · intro spelled
    rcases same with ⟨selects, selects'⟩ | trimmed
    · rw [selectsSystemZone_iff_isDefault_or] at selects selects'
      rcases selects with asks | word
      · rcases selects' with asks' | word
        · exact .inl ⟨asks, asks'⟩
        · exact .inr (spelled (.inr word))
      · exact .inr (spelled (.inl word))
    · exact .inr trimmed

end Setting

/-! ## Equal configurations -/

/-- What comes to the same as one choice comes to the same. -/
theorem ChooseAlike.of_common {α : Type} {code : DiagnosticCode}
    {common first second : Except Cause α} (left : ChooseAlike code common first)
    (right : ChooseAlike code common second) : ChooseAlike code first second := by
  cases left with
  | chosen value =>
      cases right with
      | chosen => exact .chosen value
  | refused _ one =>
      cases right with
      | refused _ other => exact .refused one other

namespace Configuration

/-- Configurations are equal when all their settings have the same normal forms. -/
theorem ofSettings_eq_iff {timeZone locale calendar timeZone' locale' calendar' : Setting} :
    ofSettings timeZone locale calendar = ofSettings timeZone' locale' calendar' ↔
      timeZone.normalize = timeZone'.normalize ∧ locale.normalize = locale'.normalize ∧
        calendar.normalize = calendar'.normalize := by
  rw [ofSettings, ofSettings, mk.injEq]

/-- **Which configurations are equal.**  Where two rows of settings select the same (for each of
zone, locale and calendar both select the default, or they are the same text but for blanks), the
configurations are equal exactly when no zone is asked for by the word `local`, or when it is
spelled alike in both.  Conversely equal configurations come from settings that select the same
zone, the same locale and the same calendar, and each resolves to what the settings of the other
one select. -/
theorem ofValues_eq_iff (timeZone locale calendar timeZone' locale' calendar' : Setting) :
    ∃ first second,
      ofValues (valueOf timeZone) (valueOf locale) (valueOf calendar) = .ok first ∧
      ofValues (valueOf timeZone') (valueOf locale') (valueOf calendar') = .ok second ∧
      (timeZone.SameChoice Setting.SelectsSystemZone timeZone' →
        locale.SameChoice (fun setting => setting.isDefault) locale' →
        calendar.SameChoice (fun setting => setting.isDefault) calendar' →
        (first = second ↔ (timeZone.AsksLocal ∨ timeZone'.AsksLocal →
          timeZone.map Text.trim = timeZone'.map Text.trim))) ∧
      (first = second → ∀ (system : System) (placeOf? : Text → Option Zone)
        (readLocale : Text → Except LocaleFault Locale),
        system.resolveZoneBy placeOf? timeZone = system.resolveZoneBy placeOf? timeZone' ∧
        ChooseAlike .localeUnknown (system.resolveLocaleBy readLocale locale)
          (system.resolveLocaleBy readLocale locale') ∧
        TokenFormatter.checkCalendar calendar = TokenFormatter.checkCalendar calendar' ∧
        ∀ result, first.resolve system = .ok result ↔
          system.resolveZone timeZone' = .ok result.zone ∧
            system.resolveLocale locale' = .ok result.locale ∧
              result.calendar = calendar'.normalize) := by
  refine ⟨ofSettings timeZone locale calendar, ofSettings timeZone' locale' calendar',
    ofValues_valueOf _ _ _, ofValues_valueOf _ _ _, ?_, ?_⟩
  · intro zones locales calendars
    rw [ofSettings_eq_iff, zones.normalize_eq_iff, Setting.normalize_eq_iff,
      Setting.normalize_eq_iff, and_iff_left ⟨locales, calendars⟩]
  · intro equal system placeOf? readLocale
    obtain ⟨zones, locales, calendars⟩ := ofSettings_eq_iff.mp equal
    refine ⟨?_, ?_, ?_, fun result => ?_⟩
    · rw [← system.resolveZoneBy_normalize placeOf? timeZone, zones,
        system.resolveZoneBy_normalize]
    · have left := system.resolveLocaleBy_normalize readLocale locale
      rw [locales] at left
      exact left.of_common (system.resolveLocaleBy_normalize readLocale locale')
    · rw [← TokenFormatter.checkCalendar_normalize calendar, calendars,
        TokenFormatter.checkCalendar_normalize]
    · rw [equal]
      exact resolve_eq_ok_iff timeZone' locale' calendar' system result

/-- Blanks and the spelling of defaults do not count, and neither does `local` where both rows of
settings have it. -/
theorem ofValues_eq_of_blanks :
    let asks (setting : Setting) : Prop := setting.isDefault
    Setting.SameChoice Setting.SelectsSystemZone (some " local ") (some "local") ∧
      Setting.SameChoice asks (some "Default") none ∧
      Setting.SameChoice asks (some "gregory") (some "gregory ") ∧
      ∃ configuration,
        ofValues (.text " local ") (.text "Default") (.text "gregory") = .ok configuration ∧
        ofValues (.text "local") .none (.text "gregory ") = .ok configuration := by
  intro asks
  have zones : Setting.SameChoice Setting.SelectsSystemZone (some " local ") (some "local") :=
    .inl (by decide)
  have locales : Setting.SameChoice asks (some "Default") none := .inl ⟨by decide, rfl⟩
  have calendars : Setting.SameChoice asks (some "gregory") (some "gregory ") :=
    .inr (by decide)
  obtain ⟨first, second, made, made', equal, -⟩ :=
    ofValues_eq_iff (some " local ") (some "Default") (some "gregory") (some "local") none
      (some "gregory ")
  have same : first = second := by
    apply (equal zones locales calendars).mpr
    intro _
    decide
  exact ⟨zones, locales, calendars, first, made, same ▸ made'⟩

/-- The word `local` selects the zone of the system, as no setting at all does, and makes another
configuration; so does the same word in capitals. -/
theorem ofValues_local_ne :
    Setting.SelectsSystemZone (some "local") ∧ Setting.SelectsSystemZone (some "LOCAL") ∧
      Setting.SelectsSystemZone none ∧
      ofSettings (some "local") none none ≠ ofSettings none none none ∧
      ofSettings (some "local") none none ≠ ofSettings (some "LOCAL") none none := by
  decide

end Configuration

end PanelClock
