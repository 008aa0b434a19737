import PanelClock.Setting
import PanelClock.Text.JsonString
import PanelClock.Variant.Profile

/-!
# Sample variants

Two small variants that do not look at the instant: one writes its pattern in upper case,
the other one shows the settings that it was configured with.
-/

set_option autoImplicit false

namespace PanelClock.Sample

/-- The profile of the variant that writes its pattern in upper case. -/
def upperProfile : Profile where
  label := "Upper"
  description := "Upper-cases the pattern"
  capabilities := { locale := true }

/-- The profile of the variant that shows its settings. -/
def recordingProfile : Profile where
  label := "Recording"

/-- A setting as a JSON value. -/
def settingJson : Setting → Text
  | none => "null"
  | some text => text.jsonString

/-- The settings as a JSON list, followed by the pattern. -/
def showSettings (timeZone locale calendar : Setting) (pattern : Text) : Text :=
  "[" ++ Text.joinWith ", " ([timeZone, locale, calendar].map settingJson) ++ "]" ++ pattern

end PanelClock.Sample
