import PanelClock.Locale.Setting

/-!
# Where the locale of the system comes from

The report of the system and three variables are asked in turn for the locale.  `C` and `POSIX`
say that there is none, and a source that gives one of them is passed over.  But names are
compared as they stand, and the code that is taken is put in normal form only after that, without
its encoding and the blanks around it.  So a source is taken that names no locale, when its
encoding is spelled in a way that is not compared with.

The locale of the system is the one that the first genuine source names exactly when the first
source that is taken is genuine.  Otherwise it is one of the names for no locale, and settings
that ask for the default are refused because of it (`System.localeCode_genuine_iff`).
-/

set_option autoImplicit false

namespace PanelClock

/-! ## Sources -/

/-- A code for the locale of the system, with the names that are passed over where it stands. -/
structure LocaleSource where
  code : Text
  passedOver : List Text

namespace LocaleSource

/-- The code is used for the locale of the system. -/
def isTaken (source : LocaleSource) : Bool :=
  !(source.code.isEmpty || source.passedOver.contains source.code)

/-- The code names something, and its normal form does not say that there is no locale. -/
def isGenuine (source : LocaleSource) : Bool :=
  !(source.code.isEmpty || System.pseudoLocales.contains (normalizeLocale source.code))

theorem mem_pseudoLocales_of_not_isGenuine {source : LocaleSource} (taken : source.isTaken)
    (other : ¬ source.isGenuine) : normalizeLocale source.code ∈ System.pseudoLocales := by
  simp only [isTaken, isGenuine, Bool.not_eq_true', Bool.or_eq_false_iff] at taken other
  simpa [taken.1] using other

theorem not_mem_pseudoLocales_of_isGenuine {source : LocaleSource} (genuine : source.isGenuine) :
    normalizeLocale source.code ∉ System.pseudoLocales := by
  simp only [isGenuine, Bool.not_eq_true', Bool.or_eq_false_iff] at genuine
  simpa using genuine.2

theorem map_code_find?_singleton (source : LocaleSource) :
    ([source].find? isTaken).map code = if source.isTaken then some source.code else none := by
  rw [List.find?_singleton]
  split <;> rfl

/-- A genuine source is taken where no more is passed over than names for no locale. -/
theorem isTaken_of_isGenuine {source : LocaleSource}
    (pseudo : ∀ name ∈ source.passedOver, normalizeLocale name ∈ System.pseudoLocales)
    (genuine : source.isGenuine) : source.isTaken := by
  have locale := not_mem_pseudoLocales_of_isGenuine genuine
  have kept : source.code ∉ source.passedOver := fun passed => locale (pseudo _ passed)
  simp only [isGenuine, Bool.not_eq_true', Bool.or_eq_false_iff] at genuine
  simpa [isTaken, genuine.1] using kept

end LocaleSource

/-- The first element with the narrower of two properties is the first one with the wider, if
that one has the narrower property, too. -/
theorem find?_eq_of_narrower {α : Type} {narrow wide : α → Bool} {elements : List α}
    (within : ∀ a ∈ elements, narrow a → wide a)
    (first : ∀ a ∈ elements.find? wide, narrow a) :
    elements.find? narrow = elements.find? wide := by
  induction elements with
  | nil => rfl
  | cons a rest ih =>
      obtain ⟨here, later⟩ := List.forall_mem_cons.mp within
      by_cases held : wide a
      · rw [List.find?_cons_of_pos held] at first ⊢
        exact List.find?_cons_of_pos (first a rfl)
      · rw [List.find?_cons_of_neg held] at first ⊢
        rw [List.find?_cons_of_neg (mt here held), ih later first]

/-! ## The locale of the system -/

namespace System

variable (system : System)

/-- The source of a code that the system reports. -/
def reportedSource : ReportedLocale → List LocaleSource
  | .named code => [⟨code, pseudoLocales⟩]
  | _ => []

/-- The source of a code that a variable gives. -/
def variableSource (value : Option Text) : List LocaleSource :=
  value.toList.map fun code => ⟨code, pseudoLocales ++ [("C.UTF-8" : Text)]⟩

/-- The sources that are asked for the locale, in the order in which they are asked. -/
def localeSources : List LocaleSource :=
  reportedSource system.reported ++ variableSource system.allLocales ++
    variableSource system.timeLocale ++ variableSource system.language

/-- The first source that is taken is genuine, if there is one. -/
def TakesGenuine : Prop :=
  ∀ source ∈ system.localeSources.find? LocaleSource.isTaken, source.isGenuine

/-- The code of the first genuine source in its normal form, else American English. -/
def genuineLocaleCode : Text :=
  ((system.localeSources.find? LocaleSource.isGenuine).map fun source =>
    normalizeLocale source.code).getD "en_US"

theorem map_code_find?_reportedSource :
    ((reportedSource system.reported).find? LocaleSource.isTaken).map LocaleSource.code =
      system.reportedCode? := by
  unfold reportedCode? reportedSource
  cases system.reported with
  | named code =>
      simp only [LocaleSource.map_code_find?_singleton, LocaleSource.isTaken, Bool.not_eq_true',
        ← Bool.not_eq_true, ite_not]
  | nothing => rfl
  | failed => rfl

theorem map_code_find?_variableSource (value : Option Text) :
    ((variableSource value).find? LocaleSource.isTaken).map LocaleSource.code =
      variableCode? value := by
  cases value with
  | none => rfl
  | some code =>
      rw [variableSource, Option.toList_some, List.map_singleton,
        LocaleSource.map_code_find?_singleton, variableCode?, Option.filter_some,
        LocaleSource.isTaken, List.contains_append, ← Bool.or_assoc, List.contains_cons,
        List.contains_nil, Bool.or_false, Bool.beq_eq_decide_eq]

/-- The locale of the system is that of the first source that is taken. -/
theorem localeCode_eq :
    system.localeCode = ((system.localeSources.find? LocaleSource.isTaken).map fun source =>
      normalizeLocale source.code).getD "en_US" := by
  unfold localeCode localeSources
  simp only [List.find?_append, ← map_code_find?_reportedSource, ← map_code_find?_variableSource,
    Option.orElse_eq_orElse, Option.orElse_eq_or, Option.or_assoc, Option.map_or, Option.map_map,
    Function.comp_def]

/-- No source passes over the name of a locale. -/
theorem mem_pseudoLocales_of_passedOver {source : LocaleSource}
    (asked : source ∈ system.localeSources) :
    ∀ name ∈ source.passedOver, normalizeLocale name ∈ pseudoLocales := by
  have reportedNames : ∀ name ∈ pseudoLocales, normalizeLocale name ∈ pseudoLocales := by decide
  have names : ∀ name ∈ pseudoLocales ++ [("C.UTF-8" : Text)],
      normalizeLocale name ∈ pseudoLocales := by decide
  have of_variable : ∀ value, source ∈ variableSource value →
      ∀ name ∈ source.passedOver, normalizeLocale name ∈ pseudoLocales := by
    intro value inside
    obtain ⟨code, -, rfl⟩ := List.mem_map.mp inside
    exact names
  simp only [localeSources, List.mem_append] at asked
  rcases asked with ((inside | inside) | inside) | inside
  · unfold reportedSource at inside
    split at inside
    · obtain rfl := List.mem_singleton.mp inside
      exact reportedNames
    · cases inside
  · exact of_variable _ inside
  · exact of_variable _ inside
  · exact of_variable _ inside

theorem localeCode_eq_genuineLocaleCode (takes : system.TakesGenuine) :
    system.localeCode = system.genuineLocaleCode := by
  have narrower : ∀ source ∈ system.localeSources, source.isGenuine → source.isTaken :=
    fun source asked =>
      LocaleSource.isTaken_of_isGenuine (system.mem_pseudoLocales_of_passedOver asked)
  rw [localeCode_eq, genuineLocaleCode, find?_eq_of_narrower narrower takes]

theorem genuineLocaleCode_not_mem : system.genuineLocaleCode ∉ pseudoLocales := by
  unfold genuineLocaleCode
  cases first : system.localeSources.find? LocaleSource.isGenuine with
  | none => decide
  | some source =>
      exact LocaleSource.not_mem_pseudoLocales_of_isGenuine (List.find?_some first)

theorem takesGenuine_of_not_mem (genuine : system.localeCode ∉ pseudoLocales) :
    system.TakesGenuine := by
  intro source first
  refine Decidable.not_imp_symm (fun pseudo => ?_) genuine
  rw [localeCode_eq, Option.mem_def.mp first]
  exact LocaleSource.mem_pseudoLocales_of_not_isGenuine (List.find?_some first) pseudo

theorem not_mem_pseudoLocales_iff :
    system.localeCode ∉ pseudoLocales ↔ system.TakesGenuine := by
  refine ⟨system.takesGenuine_of_not_mem, fun takes => ?_⟩
  rw [system.localeCode_eq_genuineLocaleCode takes]
  exact system.genuineLocaleCode_not_mem

/-! ## Default settings -/

/-- A setting that asks for the default selects what the locale of the system names. -/
theorem resolveLocaleBy_of_isDefault (readLocale : Text → Except LocaleFault Locale)
    {setting : Setting} (asks : setting.isDefault) :
    system.resolveLocaleBy readLocale setting = localeOfCode readLocale system.localeCode := by
  cases setting with
  | none => rfl
  | some text => exact congrArg (localeOfCode readLocale) (if_pos asks)

end System

/-- A code that names no locale is told as it stands. -/
theorem code_eq_of_localeOfCode {readLocale : Text → Except LocaleFault Locale}
    {code other reason : Text}
    (refused : localeOfCode readLocale code = .error (.localeUnknown other reason)) :
    other = code := by
  unfold localeOfCode at refused
  split at refused
  · cases refused
  · cases refused
    rfl

/-- The names for no locale name none. -/
theorem localeOfCode_of_mem_pseudoLocales : ∀ code ∈ System.pseudoLocales, ∃ reason,
    localeOfCode Locale.read code = .error (.localeUnknown code reason) := by
  rintro code (_ | ⟨_, _ | ⟨_, ⟨⟩⟩⟩)
  · exact ⟨_, rfl⟩
  · exact ⟨_, rfl⟩

namespace System

/-- **The locale of the system is that of the first genuine source exactly when the first source
that is taken is genuine.**  Otherwise it is a name for no locale, and a setting that asks for the
default is refused with that name. -/
theorem localeCode_genuine_iff (system : System) {setting : Setting} (asks : setting.isDefault) :
    (system.localeCode ∉ pseudoLocales ↔ system.TakesGenuine) ∧
      (system.localeCode = system.genuineLocaleCode ↔ system.TakesGenuine) ∧
      ((∃ code ∈ pseudoLocales, ∃ reason,
        system.resolveLocaleBy Locale.read setting = .error (.localeUnknown code reason)) ↔
          ¬ system.TakesGenuine) := by
  have kept := system.not_mem_pseudoLocales_iff
  refine ⟨kept, ⟨fun same => ?_, system.localeCode_eq_genuineLocaleCode⟩, ?_⟩
  · rw [← kept, same]
    exact system.genuineLocaleCode_not_mem
  · rw [← kept, Decidable.not_not, system.resolveLocaleBy_of_isDefault _ asks]
    constructor
    · rintro ⟨code, pseudo, reason, refused⟩
      rwa [← code_eq_of_localeOfCode refused]
    · intro pseudo
      exact ⟨_, pseudo, localeOfCode_of_mem_pseudoLocales _ pseudo⟩

/-- Names for no locale are passed over until a variable names one. -/
theorem localeCode_genuine_language :
    let system : System :=
      { reported := .failed, allLocales := some "C.UTF-8", timeLocale := some "POSIX",
        language := some "de_DE.UTF-8" }
    Setting.isDefault (some " Default ") ∧ system.localeCode ∉ pseudoLocales ∧
      system.localeCode = system.genuineLocaleCode ∧ system.genuineLocaleCode = "de_DE" ∧
      ¬ ∃ code ∈ pseudoLocales, ∃ reason,
        system.resolveLocaleBy Locale.read (some " Default ") =
          .error (.localeUnknown code reason) := by
  intro system
  have asks : Setting.isDefault (some " Default ") := by decide
  have takes : system.TakesGenuine := by
    rintro source ⟨⟩
    rfl
  obtain ⟨kept, same, refused⟩ := system.localeCode_genuine_iff asks
  exact ⟨asks, kept.mpr takes, same.mpr takes, rfl, fun pseudo => refused.mp pseudo takes⟩

/-- An encoding that is spelled in another way hides a name for no locale, be it in a variable
or in what the system reports. -/
theorem localeCode_hidden_pseudo :
    let system : System := { allLocales := some "C.utf8", language := some "de_DE.UTF-8" }
    let reporting : System := { reported := .named "C.UTF-8" }
    system.localeCode = "C" ∧ system.genuineLocaleCode = "de_DE" ∧
      (∃ reason, system.resolveLocaleBy Locale.read none = .error (.localeUnknown "C" reason)) ∧
      reporting.localeCode = "C" ∧ reporting.genuineLocaleCode = "en_US" ∧
      ∃ reason, reporting.resolveLocaleBy Locale.read none = .error (.localeUnknown "C" reason) :=
  ⟨rfl, rfl, ⟨_, rfl⟩, rfl, rfl, ⟨_, rfl⟩⟩

end System

end PanelClock
