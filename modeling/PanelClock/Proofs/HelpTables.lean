import Mathlib.Data.List.Forall2
import PanelClock.Display.Markup

/-!
# Help tables are aligned and keep their tags

A cell of a help table is filled up to the width of its column and escaped after that.  What a
reader of markup sees is the escaped cell read back (`unescape`), so that the lengths which are
equal are those of the cells read back: each is as long as the longest entry of its column.

A cell in markup has no bare markup character (`Escaped`, which says just what escaping gives, by
`escaped_iff`), and so never a tag of its own.  The tags of a row are therefore where its frame has
them, and the cells can be told from the table: no other cells without a bare `<` are framed as the
same table (`flatMap_rowFrame_injective`).

Widths are measured over the rows before they are escaped.  The loop that widens all columns
along the rows gives the maximum of each column (`columnSizes_entries`), where there are rows.
-/

set_option autoImplicit false

namespace PanelClock.Markup

/-! ## Text in markup and what it says -/

/-- Text in markup: each `<`, `>` and `&` is written as its entity. -/
inductive Escaped : Text → Prop
  | nil : Escaped []
  | plain {c : Char} {rest : Text} :
      c ≠ '<' → c ≠ '>' → c ≠ '&' → Escaped rest → Escaped (c :: rest)
  | less {rest : Text} : Escaped rest → Escaped ("&lt;" ++ rest)
  | greater {rest : Text} : Escaped rest → Escaped ("&gt;" ++ rest)
  | ampersand {rest : Text} : Escaped rest → Escaped ("&amp;" ++ rest)

/-- Reads the entities of markup. -/
def unescape : Text → Text
  | '&' :: 'l' :: 't' :: ';' :: rest => '<' :: unescape rest
  | '&' :: 'g' :: 't' :: ';' :: rest => '>' :: unescape rest
  | '&' :: 'a' :: 'm' :: 'p' :: ';' :: rest => '&' :: unescape rest
  | c :: rest => c :: unescape rest
  | [] => []

theorem unescape_cons {c : Char} (plain : c ≠ '&') (rest : Text) :
    unescape (c :: rest) = c :: unescape rest := by
  -- The other equations are for texts that start with an ampersand.
  rw [unescape]
  all_goals
    rintro _ rfl
    exact absurd rfl plain

theorem escape_cons (c : Char) (rest : Text) : escape (c :: rest) = escapeChar c ++ escape rest :=
  List.flatMap_cons

theorem escapeChar_plain {c : Char} (notLess : c ≠ '<') (notGreater : c ≠ '>')
    (notAmpersand : c ≠ '&') : escapeChar c = [c] := by
  rw [escapeChar, if_neg notAmpersand, if_neg notLess, if_neg notGreater]

/-- A character in markup in front of other markup. -/
theorem escaped_escapeChar (c : Char) {rest : Text} (escaped : Escaped rest) :
    Escaped (escapeChar c ++ rest) ∧ unescape (escapeChar c ++ rest) = c :: unescape rest := by
  by_cases ampersand : c = '&'
  · subst ampersand
    exact ⟨.ampersand escaped, rfl⟩
  by_cases less : c = '<'
  · subst less
    exact ⟨.less escaped, rfl⟩
  by_cases greater : c = '>'
  · subst greater
    exact ⟨.greater escaped, rfl⟩
  rw [escapeChar_plain less greater ampersand]
  exact ⟨.plain less greater ampersand escaped, unescape_cons ampersand rest⟩

theorem escaped_escape (text : Text) : Escaped (escape text) := by
  induction text with
  | nil => exact .nil
  | cons c rest ih =>
      rw [escape_cons]
      exact (escaped_escapeChar c ih).1

/-- Text in markup says what was escaped. -/
theorem unescape_escape (text : Text) : unescape (escape text) = text := by
  induction text with
  | nil => rfl
  | cons c rest ih =>
      rw [escape_cons, (escaped_escapeChar c (escaped_escape rest)).2, ih]

/-- Text in markup is what escaping gives, and what it says determines it. -/
theorem escaped_iff (markup : Text) : Escaped markup ↔ escape (unescape markup) = markup := by
  constructor
  · intro escaped
    induction escaped with
    | nil => rfl
    | plain notLess notGreater notAmpersand _ ih =>
        rw [unescape_cons notAmpersand, escape_cons, ih,
          escapeChar_plain notLess notGreater notAmpersand]
        rfl
    | less _ ih => exact congrArg (fun rest : Text => "&lt;".toList ++ rest) ih
    | greater _ ih => exact congrArg (fun rest : Text => "&gt;".toList ++ rest) ih
    | ampersand _ ih => exact congrArg (fun rest : Text => "&amp;".toList ++ rest) ih
  · intro same
    rw [← same]
    exact escaped_escape _

theorem Escaped.less_notMem {markup : Text} (escaped : Escaped markup) : '<' ∉ markup := by
  induction escaped with
  | nil => exact List.not_mem_nil
  | plain notLess _ _ _ ih => exact List.not_mem_cons_of_ne_of_not_mem (Ne.symm notLess) ih
  | less _ ih | greater _ ih | ampersand _ ih => simpa using ih

/-! ## Columns -/

/-- The columns of a table. -/
def columns : List (HelpRow Text → Text) := [(·.token), (·.description), (·.sample)]

theorem mem_columns_iff {column : HelpRow Text → Text} :
    column ∈ columns ↔ column = (·.token) ∨ column = (·.description) ∨ column = (·.sample) := by
  simp [columns]

/-- The entries of a row. -/
def entries (row : HelpRow Text) : List Text := columns.map (· row)

/-- Widening the widths of some columns by a row. -/
theorem widen_map (columns : List (HelpRow Text → Text)) (sizes : (HelpRow Text → Text) → Nat)
    (row : HelpRow Text) :
    widen (columns.map sizes) (columns.map (· row)) =
      columns.map fun column => max (sizes column) (column row).length := by
  induction columns with
  | nil => rfl
  | cons column columns ih => rw [List.map_cons, List.map_cons, widen, ih, List.map_cons]

theorem widen_nil (cells : List Text) : widen [] cells = cells.map List.length := by
  induction cells with
  | nil => rfl
  | cons cell cells ih => rw [widen, ih, List.map_cons]

/-- The loop over the rows is a loop for each column. -/
theorem foldl_widen_entries (rows : List (HelpRow Text)) (sizes : (HelpRow Text → Text) → Nat) :
    (rows.map entries).foldl widen (columns.map sizes) =
      columns.map fun column => (rows.map fun row => (column row).length).foldl max
        (sizes column) := by
  induction rows generalizing sizes with
  | nil => rfl
  | cons row rows ih => rw [List.map_cons, List.foldl_cons, entries, widen_map, ih]; rfl

/-- The widths of the columns are measured one column at a time, where there are rows. -/
theorem columnSizes_entries {rows : List (HelpRow Text)} (filled : rows ≠ []) :
    columnSizes (rows.map entries) = columns.map (columnSize · rows) := by
  obtain ⟨row, rows, rfl⟩ := List.exists_cons_of_ne_nil filled
  have first : widen [] (entries row) = columns.map fun column => (column row).length := by
    rw [widen_nil, entries, List.map_map]
    rfl
  rw [columnSizes, List.map_cons, List.foldl_cons, first, foldl_widen_entries]
  simp only [columnSize, List.map_cons, List.foldl_cons, Nat.zero_max]

theorem max?_column {rows : List (HelpRow Text)} (filled : rows ≠ [])
    (column : HelpRow Text → Text) :
    (rows.map fun row => (column row).length).max? = some (columnSize column rows) := by
  obtain ⟨row, rows, rfl⟩ := List.exists_cons_of_ne_nil filled
  rw [columnSize, List.map_cons, List.max?_cons', List.foldl_cons, Nat.zero_max]

theorem length_le_columnSize {rows : List (HelpRow Text)} {row : HelpRow Text}
    (member : row ∈ rows) (column : HelpRow Text → Text) :
    (column row).length ≤ columnSize column rows :=
  (List.max?_eq_some_iff.mp (max?_column (List.ne_nil_of_mem member) column)).2 _
    (List.mem_map_of_mem member)

/-! ## Rows in their tags -/

/-- Cells in markup within the tags of a row. -/
def rowFrame (cells : HelpRow Text) : Text :=
  "<tt><b>" ++ cells.token ++ "</b></tt> | <tt>" ++ cells.description
    ++ "</tt> | <tt><i>" ++ cells.sample ++ "</i></tt>\n"

/-- Cells have no tag of their own. -/
def Tagless (cells : HelpRow Text) : Prop := ∀ column ∈ columns, '<' ∉ column cells

theorem rowFrame_append (cells : HelpRow Text) (rest : Text) :
    rowFrame cells ++ rest =
      "<tt><b>".toList ++ (cells.token ++ ("</b></tt> | <tt>".toList ++ (cells.description ++
        ("</tt> | <tt><i>".toList ++ (cells.sample ++ ("</i></tt>\n".toList ++ rest)))))) := by
  unfold rowFrame
  simp only [List.append_assoc]

/-- What stands in front of a tag can be told from the text. -/
theorem append_tag_inj {tag : Text} (opens : tag.head? = some '<') {first second : Text}
    (absent : '<' ∉ first) (absent' : '<' ∉ second) {rest others : Text}
    (same : first ++ (tag ++ rest) = second ++ (tag ++ others)) :
    first = second ∧ rest = others := by
  obtain ⟨name, rfl⟩ := List.head?_eq_some_iff.mp opens
  have upTo {text : Text} (absent : '<' ∉ text) (rest : Text) :
      (text ++ ('<' :: name ++ rest)).takeWhile (· ≠ '<') = text := by
    rw [List.cons_append, List.takeWhile_append_of_pos, List.takeWhile_cons_of_neg (by simp),
      List.append_nil]
    intro c member
    simpa using ne_of_mem_of_not_mem member absent
  have firsts : first = second := by rw [← upTo absent rest, same, upTo absent' others]
  subst firsts
  exact ⟨rfl, List.append_cancel_left (List.append_cancel_left same)⟩

theorem rowFrame_append_inj {cells others : HelpRow Text} (tagless : Tagless cells)
    (tagless' : Tagless others) {rest more : Text}
    (same : rowFrame cells ++ rest = rowFrame others ++ more) : cells = others ∧ rest = more := by
  rw [rowFrame_append, rowFrame_append] at same
  obtain ⟨token, description, sample⟩ := cells
  obtain ⟨token', description', sample'⟩ := others
  simp only [Tagless, columns, List.forall_mem_cons] at tagless tagless'
  obtain ⟨rfl, afterToken⟩ :=
    append_tag_inj rfl tagless.1 tagless'.1 (List.append_cancel_left same)
  obtain ⟨rfl, afterDescription⟩ := append_tag_inj rfl tagless.2.1 tagless'.2.1 afterToken
  obtain ⟨rfl, afterSample⟩ := append_tag_inj rfl tagless.2.2.1 tagless'.2.2.1 afterDescription
  exact ⟨rfl, afterSample⟩

/-- Cells without a tag of their own can be told from the rows that they make. -/
theorem flatMap_rowFrame_injective {table others : List (HelpRow Text)}
    (tagless : ∀ cells ∈ table, Tagless cells) (tagless' : ∀ cells ∈ others, Tagless cells)
    (same : table.flatMap rowFrame = others.flatMap rowFrame) : table = others := by
  induction table generalizing others with
  | nil =>
      cases others with
      | nil => rfl
      | cons cells others => cases same
  | cons cells table ih =>
      cases others with
      | nil => cases same
      | cons cells' others =>
          rw [List.forall_mem_cons] at tagless tagless'
          rw [List.flatMap_cons, List.flatMap_cons] at same
          obtain ⟨rfl, rows⟩ := rowFrame_append_inj tagless.1 tagless'.1 same
          rw [ih tagless.2 tagless'.2 rows]

/-! ## The table -/

/-- Cells in markup stand for a row among the rows of a table: they have no bare markup character,
they are read back as the row with its token and its description filled up on the right and its
example on the left, and they fit their columns.  A column is as wide as its longest entry, which
is what the loop over the rows measures. -/
structure IsCellsOf (rows : List (HelpRow Text)) (row cells : HelpRow Text) : Prop where
  escaped : ∀ column ∈ columns, Escaped (column cells)
  token : ∃ n, unescape cells.token = row.token ++ List.replicate n ' '
  description : ∃ n, unescape cells.description = row.description ++ List.replicate n ' '
  sample : ∃ n, unescape cells.sample = List.replicate n ' ' ++ row.sample
  longest : ∀ column ∈ columns,
    (rows.map fun row => (column row).length).max? = some (unescape (column cells)).length
  measured : columnSizes (rows.map entries) = columns.map fun column =>
    (unescape (column cells)).length

/-- A row of a table filled up to the widths of the columns. -/
def padRow (rows : List (HelpRow Text)) (row : HelpRow Text) : HelpRow Text where
  token := row.token.fillRight ' ' (columnSize (·.token) rows)
  description := row.description.fillRight ' ' (columnSize (·.description) rows)
  sample := row.sample.fillLeft ' ' (columnSize (·.sample) rows)

/-- A row of cells in markup. -/
def escapeRow (row : HelpRow Text) : HelpRow Text :=
  ⟨escape row.token, escape row.description, escape row.sample⟩

section Cells

variable {column : HelpRow Text → Text} (member : column ∈ columns)
include member

theorem column_escapeRow (row : HelpRow Text) :
    column (escapeRow row) = escape (column row) := by
  obtain rfl | rfl | rfl := mem_columns_iff.mp member <;> rfl

theorem length_column_padRow (rows : List (HelpRow Text)) (row : HelpRow Text) :
    (column (padRow rows row)).length = max (columnSize column rows) (column row).length := by
  obtain rfl | rfl | rfl := mem_columns_iff.mp member
  · exact List.length_rightpad
  · exact List.length_rightpad
  · exact List.length_leftpad

/-- Read back, the cells of a row are as long as their columns are wide. -/
theorem length_unescape_column {rows : List (HelpRow Text)} {row : HelpRow Text}
    (row_mem : row ∈ rows) :
    (unescape (column (escapeRow (padRow rows row)))).length = columnSize column rows := by
  rw [column_escapeRow member, unescape_escape, length_column_padRow member,
    Nat.max_eq_left (length_le_columnSize row_mem column)]

end Cells

theorem isCellsOf_escapeRow {rows : List (HelpRow Text)} {row : HelpRow Text}
    (member : row ∈ rows) : IsCellsOf rows row (escapeRow (padRow rows row)) where
  escaped column inside := by
    rw [column_escapeRow inside]
    exact escaped_escape _
  token := ⟨_, unescape_escape _⟩
  description := ⟨_, unescape_escape _⟩
  sample := ⟨_, unescape_escape _⟩
  longest column inside := by
    rw [length_unescape_column inside member, max?_column (List.ne_nil_of_mem member)]
  measured := by
    rw [columnSizes_entries (List.ne_nil_of_mem member)]
    exact List.map_congr_left fun column inside => (length_unescape_column inside member).symm

/-- Cells in markup have no tag of their own. -/
theorem IsCellsOf.tagless {rows : List (HelpRow Text)} {row cells : HelpRow Text}
    (isCells : IsCellsOf rows row cells) : Tagless cells :=
  fun column inside => (isCells.escaped column inside).less_notMem

/-- **A help table is aligned, and no cell breaks out of it.**  Below an empty line stands one row
for each row in its order, which is the frame of tags around the cells of the row with its
description and its example translated.  The cells can be told from the table. -/
theorem helpTable_cells (translate : Text → Text) (rows : List (HelpRow Text)) :
    ∃ table : List (HelpRow Text),
      helpTable translate rows = "\n\n" ++ table.flatMap rowFrame ∧
      List.Forall₂ (fun row => IsCellsOf (rows.map (translateRow translate))
        (translateRow translate row)) rows table ∧
      ∀ others : List (HelpRow Text), (∀ cells ∈ others, Tagless cells) →
        helpTable translate rows = "\n\n" ++ others.flatMap rowFrame → others = table := by
  have cellsOf : ∀ row ∈ rows, IsCellsOf (rows.map (translateRow translate))
      (translateRow translate row)
      (escapeRow (padRow (rows.map (translateRow translate)) (translateRow translate row))) :=
    fun row member => isCellsOf_escapeRow (List.mem_map_of_mem member)
  have framed : helpTable translate rows = "\n\n" ++ (rows.map fun row =>
      escapeRow (padRow (rows.map (translateRow translate)) (translateRow translate row))).flatMap
        rowFrame := by
    rw [helpTable, List.flatMap_map, List.flatMap_map]
    rfl
  refine ⟨_, framed, ?_, ?_⟩
  · exact List.forall₂_map_right_iff.mpr (List.forall₂_same.mpr cellsOf)
  · intro others tagless same
    refine flatMap_rowFrame_injective tagless ?_ (List.append_cancel_left (same.symm.trans framed))
    exact List.forall_mem_map.mpr fun row member => (cellsOf row member).tagless

/-- An entry that is a tag is shown as it is, and an entity is no shorter than it was written. -/
example : helpTable id [⟨"<b>", "&lt;", "1"⟩, ⟨"y", "", "</tt>"⟩] =
    "\n\n<tt><b>&lt;b&gt;</b></tt> | <tt>&amp;lt;</tt> | <tt><i>    1</i></tt>\n".toList ++
      "<tt><b>y  </b></tt> | <tt>    </tt> | <tt><i>&lt;/tt&gt;</i></tt>\n".toList := by
  decide +kernel

end PanelClock.Markup
