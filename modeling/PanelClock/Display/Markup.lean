import PanelClock.Variant.Profile

/-!
# Markup

Help tables, links and bold labels as markup.  Cells are padded to the width of their
column before they are escaped, so that columns line up once the markup is shown.
-/

set_option autoImplicit false

namespace PanelClock.Markup

/-- A character of text in markup. -/
def escapeChar (c : Char) : Text :=
  if c = '&' then "&amp;"
  else if c = '<' then "&lt;"
  else if c = '>' then "&gt;"
  else [c]

/-- A character of an attribute in markup, which stands between double quotes. -/
def escapeAttributeChar (c : Char) : Text :=
  if c = '"' then "&quot;"
  else if c = '\'' then "&#x27;"
  else escapeChar c

/-- Text in markup. -/
def escape (text : Text) : Text := text.flatMap escapeChar

/-- An attribute in markup. -/
def escapeAttribute (text : Text) : Text := text.flatMap escapeAttributeChar

/-- The widest cell of each column so far and the cells of one more row. -/
def widen : List Nat → List Text → List Nat
  | sizes, [] => sizes
  | [], cell :: cells => cell.length :: widen [] cells
  | size :: sizes, cell :: cells => max size cell.length :: widen sizes cells

/-- The widest cell of each column. -/
def columnSizes (rows : List (List Text)) : List Nat := rows.foldl widen []

/-- A row of three cells in markup. -/
def rowMarkup (token description sample : Text) : Text :=
  "<tt><b>" ++ escape token ++ "</b></tt> | <tt>" ++ escape description
    ++ "</tt> | <tt><i>" ++ escape sample ++ "</i></tt>\n"

/-- The width of a column of a table, 0 without rows. -/
def columnSize (cell : HelpRow Text → Text) (rows : List (HelpRow Text)) : Nat :=
  (rows.map fun row => (cell row).length).foldl max 0

/-- A row with its description and its example translated. -/
def translateRow (translate : Text → Text) (row : HelpRow Text) : HelpRow Text :=
  ⟨row.token, translate row.description, translate row.sample⟩

/-- Help rows as lines of columns below an empty line.  Tokens and descriptions are
aligned on the left, examples on the right. -/
def helpTable (translate : Text → Text) (rows : List (HelpRow Text)) : Text :=
  let rows := rows.map (translateRow translate)
  let tokens := columnSize (·.token) rows
  let descriptions := columnSize (·.description) rows
  let samples := columnSize (·.sample) rows
  "\n\n" ++ rows.flatMap fun row =>
    rowMarkup (row.token.fillRight ' ' tokens) (row.description.fillRight ' ' descriptions)
      (row.sample.fillLeft ' ' samples)

/-- A link with a translated label, nothing without an address. -/
def link (translate : Text → Text) (address label : Text) : Text :=
  if address.isEmpty then []
  else
    "<a href=\"" ++ escapeAttribute address ++ "\">" ++ escape (translate label) ++ "</a>"

/-- A translated label in bold. -/
def bold (translate : Text → Text) (label : Text) : Text :=
  "<b>" ++ escape (translate label) ++ "</b>"

/-- Translates by a table; texts that it misses stay as they are. -/
def translateBy (table : List (Text × Text)) (text : Text) : Text :=
  (table.lookup text).getD text

end PanelClock.Markup
