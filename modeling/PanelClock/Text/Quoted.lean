import PanelClock.Text.Printable

/-!
# Quoted texts

A text is quoted in single quotes, or in double quotes when it holds single quotes and
no double ones.  The quote, the backslash and the characters that do not show as
themselves are escaped, the latter by their code points in hexadecimal.
-/

set_option autoImplicit false

namespace PanelClock.Text

/-- The lower-case hexadecimal digits of a number, at least as many as the width. -/
def hexadecimal (width n : Nat) : Text := fillLeft '0' width (Nat.toDigits 16 n)

/-- The quote that a text is put in. -/
def quoteFor (text : Text) : Char :=
  if text.contains '\'' && !text.contains '"' then '"' else '\''

/-- A character as it stands between the given quotes. -/
def quoteChar (quote c : Char) : Text :=
  if c = quote || c = '\\' then ['\\', c]
  else if c = '\n' then "\\n"
  else if c = '\r' then "\\r"
  else if c = '\t' then "\\t"
  else if isPrintable c then [c]
  else if c.toNat < 0x100 then "\\x" ++ hexadecimal 2 c.toNat
  else if c.toNat < 0x10000 then "\\u" ++ hexadecimal 4 c.toNat
  else "\\U" ++ hexadecimal 8 c.toNat

/-- A text in quotes. -/
def quoted (text : Text) : Text :=
  let quote := quoteFor text
  quote :: text.flatMap (quoteChar quote) ++ [quote]

end PanelClock.Text
