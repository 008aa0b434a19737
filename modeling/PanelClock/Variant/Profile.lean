import PanelClock.Value

/-!
# Profiles of formatter variants

A variant is described by a label, a description, the settings that it honours, and two
columns of help rows that list its pattern vocabulary.
-/

set_option autoImplicit false

namespace PanelClock

/-- The settings that a variant honours. -/
structure Capabilities where
  timeZone : Bool := false
  locale : Bool := false
  calendar : Bool := false
  deriving DecidableEq, Repr

/-- A row of a help table. -/
structure HelpRow (α : Type) where
  token : α
  description : α
  sample : α
  deriving DecidableEq, Repr

/-- A help table in two columns with a link to further reading. -/
structure HelpTable (α : Type) where
  link : Text := []
  left : List (HelpRow α) := []
  right : List (HelpRow α) := []
  deriving DecidableEq, Repr

/-- A row whose cells are all empty sets its neighbours apart. -/
def HelpRow.isSpacer (row : HelpRow Text) : Bool :=
  row.token.isEmpty && row.description.isEmpty && row.sample.isEmpty

/-- A row of values is a spacer when none of them counts as true. -/
def HelpRow.isBlank (row : HelpRow Value) : Bool :=
  !(row.token.isTrue || row.description.isTrue || row.sample.isTrue)

/-! ## Help tables from values -/

/-- The items of a value that holds several: the characters of a text, the keys of a
mapping. -/
def Value.items? : Value → Option (List Value)
  | .text content => some (content.map fun c => .text [c])
  | .list items => some items
  | .mapping entries => some (entries.map fun entry => .text entry.1)
  | _ => Option.none

/-- A row from a value that holds three items. -/
def HelpRow.ofValue? (value : Value) : Option (HelpRow Value) :=
  match value.items? with
  | some [token, description, shown] => some ⟨token, description, shown⟩
  | _ => none

/-- The rows of a column; nothing is no rows. -/
def HelpTable.column? : Value → Option (List (HelpRow Value))
  | .none => some []
  | value => do (← value.items?).mapM HelpRow.ofValue?

/-- A help table from values, none when a column is no row of triples.  A link that is no
text is no link. -/
def HelpTable.ofValues? (link left right : Value) : Option (HelpTable Value) := do
  let leftRows ← column? left
  let rightRows ← column? right
  let address := match link with
    | .text content => content
    | _ => []
  return ⟨address, leftRows, rightRows⟩

/-- What is known of a variant without an instance of it. -/
structure Profile where
  label : Text := []
  description : Text := []
  capabilities : Capabilities := {}
  help : HelpTable Text := {}
  deriving DecidableEq, Repr

namespace Profile

/-- A profile without help; settings are honoured when their flags count as true. -/
def create (label description : Option Text) (timeZone locale calendar : Value) : Profile where
  label := label.getD []
  description := description.getD []
  capabilities := ⟨timeZone.isTrue, locale.isTrue, calendar.isTrue⟩

/-- An instance of a class with this profile, as it is shown in messages. -/
def instanceText (profile : Profile) (className : Text) : Text :=
  className ++ "(label=" ++ profile.label.quoted ++ ")"

end Profile

end PanelClock
