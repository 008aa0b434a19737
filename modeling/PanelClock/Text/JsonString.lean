import PanelClock.Text.Quoted

/-!
# JSON strings

A text as a JSON string: in double quotes, with the double quote, the backslash and the
control characters escaped and all else as it is.
-/

set_option autoImplicit false

namespace PanelClock.Text

/-- A character as it stands in a JSON string. -/
def jsonChar (c : Char) : Text :=
  if c = '"' then "\\\""
  else if c = '\\' then "\\\\"
  else if c = '\n' then "\\n"
  else if c = '\r' then "\\r"
  else if c = '\t' then "\\t"
  else if c.toNat = 8 then "\\b"
  else if c.toNat = 12 then "\\f"
  else if c.toNat < 32 then "\\u" ++ hexadecimal 4 c.toNat
  else [c]

/-- A text as a JSON string. -/
def jsonString (text : Text) : Text := '"' :: text.flatMap jsonChar ++ ['"']

end PanelClock.Text
