import PanelClock.Text.Basic

/-!
# Escaped newlines

Settings keep a pattern on one line, so a backslash followed by an `n` stands for a
newline.  There is no escape for the backslash itself.
-/

set_option autoImplicit false

namespace PanelClock

/-- Reads each backslash followed by an `n` as a newline. -/
def expandNewlines : Text → Text
  | [] => []
  | '\\' :: 'n' :: rest => '\n' :: expandNewlines rest
  | c :: rest => c :: expandNewlines rest

end PanelClock
