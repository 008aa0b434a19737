import PanelClock.Configuration
import PanelClock.Diagnostic.Cause
import PanelClock.Display.Schedule

/-!
# Display settings

The settings of the clock are kept in a store of values under keys.  Reading takes the
default for every missing key, ignores keys that it does not know, and reports the first
setting of a wrong kind or range in the fixed order of the settings.
-/

set_option autoImplicit false

namespace PanelClock

/-- How the label of the clock is aligned. -/
inductive TextAlign where
  | atStart
  | centered
  | atEnd
  deriving DecidableEq, Repr

namespace TextAlign

/-- All alignments. -/
def all : List TextAlign := [atStart, centered, atEnd]

/-- The name of an alignment in the store. -/
def name : TextAlign → Text
  | atStart => "start"
  | centered => "center"
  | atEnd => "end"

/-- The name of an alignment in a style. -/
def styleName : TextAlign → Text
  | atStart => "left"
  | centered => "center"
  | atEnd => "right"

/-- The alignment with a name. -/
def ofName? (name : Text) : Option TextAlign := all.find? (·.name = name)

end TextAlign

/-- The settings of the clock. -/
structure DisplaySettings where
  /-- The registry key of the formatter variant. -/
  formatter : Text := "02_original"
  pattern : Text := "EEE, MMM d  HH:mm"
  updateLevel : Fin 16 := 1
  useDefaultLocale : Bool := true
  customLocale : Text := []
  useDefaultTimeZone : Bool := true
  customTimeZone : Text := []
  useDefaultCalendar : Bool := true
  customCalendar : Text := []
  fontSize : Int := 9
  textAlign : TextAlign := .centered
  applyAllPanels : Bool := false
  removeMessagesIndicator : Bool := false
  deriving DecidableEq, Repr

/-- The settings of a new clock. -/
def DisplaySettings.standard : DisplaySettings := {}

/-- A store of values under keys. -/
abbrev SettingStore := List (Text × Value)

namespace SettingStore

/-- Reads the setting of a key, or takes its default when the key is missing.  A value
that is not accepted is reported with what was expected. -/
def read {α : Type} (store : SettingStore) (key : Text) (default : α)
    (accept : Value → Except Text α) : Except Cause α :=
  match store.lookup key with
  | none => .ok default
  | some value =>
      match accept value with
      | .ok result => .ok result
      | .error expected => .error (.settingInvalid key value expected)

/-- Accepts texts. -/
def acceptText : Value → Except Text Text
  | .text text => .ok text
  | _ => .error "expected a string"

/-- Accepts the two truth values. -/
def acceptBool : Value → Except Text Bool
  | .bool value => .ok value
  | _ => .error "expected a boolean"

/-- Accepts integers. -/
def acceptInteger : Value → Except Text Int
  | .integer value => .ok value
  | _ => .error "expected an integer"

/-- Accepts the update levels from 0 to 15. -/
def acceptLevel (value : Value) : Except Text (Fin 16) := do
  let level ← acceptInteger value
  if h : 0 ≤ level ∧ level < 16 then .ok ⟨level.toNat, by omega⟩
  else .error "expected a level from 0 to 15"

/-- Accepts what is printed as the name of an alignment. -/
def acceptAlign (value : Value) : Except Text TextAlign :=
  match TextAlign.ofName? value.shown with
  | some align => .ok align
  | none => .error "expected start, center or end"

end SettingStore

namespace DisplaySettings

/-- Reads settings from a store. -/
def ofStore (store : SettingStore) : Except Cause DisplaySettings := do
  let formatter ← store.read "formatter" ("02_original" : Text) SettingStore.acceptText
  let pattern ← store.read "pattern" ("EEE, MMM d  HH:mm" : Text) SettingStore.acceptText
  let updateLevel ← store.read "update-level" 1 SettingStore.acceptLevel
  let useDefaultLocale ← store.read "use-default-locale" true SettingStore.acceptBool
  let customLocale ← store.read "custom-locale" [] SettingStore.acceptText
  let useDefaultTimeZone ← store.read "use-default-timezone" true SettingStore.acceptBool
  let customTimeZone ← store.read "custom-timezone" [] SettingStore.acceptText
  let useDefaultCalendar ← store.read "use-default-calendar" true SettingStore.acceptBool
  let customCalendar ← store.read "custom-calendar" [] SettingStore.acceptText
  let fontSize ← store.read "font-size" 9 SettingStore.acceptInteger
  let textAlign ← store.read "text-align" .centered SettingStore.acceptAlign
  let applyAllPanels ← store.read "apply-all-panels" false SettingStore.acceptBool
  let removeMessagesIndicator ←
    store.read "remove-messages-indicator" false SettingStore.acceptBool
  return ⟨formatter, pattern, updateLevel, useDefaultLocale, customLocale, useDefaultTimeZone,
    customTimeZone, useDefaultCalendar, customCalendar, fontSize, textAlign, applyAllPanels,
    removeMessagesIndicator⟩

/-- The store that keeps settings. -/
def toStore (settings : DisplaySettings) : SettingStore :=
  [ ("formatter", .text settings.formatter),
    ("pattern", .text settings.pattern),
    ("update-level", .integer settings.updateLevel.val),
    ("use-default-locale", .bool settings.useDefaultLocale),
    ("custom-locale", .text settings.customLocale),
    ("use-default-timezone", .bool settings.useDefaultTimeZone),
    ("custom-timezone", .text settings.customTimeZone),
    ("use-default-calendar", .bool settings.useDefaultCalendar),
    ("custom-calendar", .text settings.customCalendar),
    ("font-size", .integer settings.fontSize),
    ("text-align", .text settings.textAlign.name),
    ("apply-all-panels", .bool settings.applyAllPanels),
    ("remove-messages-indicator", .bool settings.removeMessagesIndicator) ]

/-- How often the clock is rendered. -/
def updateRate (settings : DisplaySettings) : UpdateRate :=
  UpdateLevel.rateOfNumber (.ofInt settings.updateLevel.val)

/-- The setting that a custom value makes: nothing when the default is used or the variant
does not honour it. -/
def pick (useDefault honoured : Bool) (value : Text) : Setting :=
  if useDefault || !honoured then none else some value

/-- The configuration of the formatter, for a variant of which the given settings are
honoured, all of them when nothing is said. -/
def configuration (settings : DisplaySettings) (capabilities : Option Capabilities) :
    Configuration :=
  let honoured (setting : Capabilities → Bool) : Bool := (capabilities.map setting).getD true
  .ofSettings
    (pick settings.useDefaultTimeZone (honoured (·.timeZone)) settings.customTimeZone)
    (pick settings.useDefaultLocale (honoured (·.locale)) settings.customLocale)
    (pick settings.useDefaultCalendar (honoured (·.calendar)) settings.customCalendar)

/-- The style of the label of the clock. -/
def style (settings : DisplaySettings) : Text :=
  "font-size: " ++ signedNumeral settings.fontSize ++ "pt; text-align: "
    ++ settings.textAlign.styleName

end DisplaySettings

end PanelClock
