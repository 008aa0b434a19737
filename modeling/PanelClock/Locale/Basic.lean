import PanelClock.Locale.Data.AmericanEnglish
import PanelClock.Locale.Data.BritishEnglish
import PanelClock.Locale.Data.French
import PanelClock.Locale.Data.German
import PanelClock.Locale.Data.Japanese
import PanelClock.Locale.Data.Russian
import PanelClock.Locale.Data.TraditionalChinese
import PanelClock.Locale.Identifier

/-!
# Locales

A locale is an identifier with the names that belong to it.
-/

set_option autoImplicit false

namespace PanelClock

/-- A locale with its names. -/
structure Locale where
  id : LocaleId
  names : LocaleNames

/-- The names for each identifier whose names are at hand. -/
def localeTable : List (Text × LocaleNames) :=
  [ ("en", americanEnglish),
    ("en_US", americanEnglish),
    ("en_GB", britishEnglish),
    ("de", german),
    ("de_DE", german),
    ("fr", french),
    ("fr_FR", french),
    ("ja", japanese),
    ("ja_JP", japanese),
    ("ru", russian),
    ("ru_RU", russian),
    ("zh_Hant_TW", traditionalChinese) ]

/-- Identifiers that are known though their own names are not at hand, each with the one whose
names stand in for them. -/
def standIns : List (Text × Text) :=
  [ ("en_US_POSIX", "en_US"),
    ("de_CH", "de"),
    ("fr_CA", "fr") ]

/-- Identifiers that leave out their script, with the ones that name it.  Only an
identifier without variant and modifier may leave it out. -/
def fullIdentifiers : List (Text × LocaleId) :=
  [("zh_TW", { language := "zh", script := some "Hant", territory := some "TW" })]

namespace Locale

/-- The locale of an identifier that is known exactly. -/
def known? (id : LocaleId) : Option Locale :=
  let source := (standIns.lookup id.base).getD id.base
  (localeTable.lookup source).map (⟨id, ·⟩)

/-- The locale of an identifier: known exactly, or by language and territory alone, or
with the script that it leaves out. -/
def ofId? (id : LocaleId) : Option Locale :=
  let reduced : LocaleId := { language := id.language, territory := id.territory }
  known? id <|> known? reduced <|> ((fullIdentifiers.lookup id.text).bind known?)

/-- The locale that a code names. -/
def read (code : Text) : Except LocaleFault Locale := do
  let id ← LocaleId.read code
  match ofId? id with
  | some locale => return locale
  | none => throw (.unknown id.text)

/-- The identifier of a locale as it is written. -/
def code (locale : Locale) : Text := locale.id.text

end Locale

end PanelClock
