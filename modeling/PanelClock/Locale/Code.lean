import PanelClock.Setting

/-!
# Locale codes

A locale code separates its parts by hyphens or underscores and may carry an encoding
after a dot.  Its normal form has underscores and no encoding.
-/

set_option autoImplicit false

namespace PanelClock

/-- The normal form of a locale code. -/
def normalizeLocale (code : Text) : Text :=
  (code.trim.before '.').map fun c => if c = '-' then '_' else c

end PanelClock
