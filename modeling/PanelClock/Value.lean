import PanelClock.Text.Quoted
import PanelClock.Number.Binary64.Shortest

/-!
# Values

Settings and levels come from outside and may be of any kind.  A value is written in
messages with quoted texts, shortest numbers, brackets around lists and braces around
mappings.
-/

set_option autoImplicit false

namespace PanelClock

/-- A value of any kind. -/
inductive Value where
  | none
  | bool (value : Bool)
  | integer (value : Int)
  | float (value : Binary64)
  | text (value : Text)
  | list (items : List Value)
  | mapping (entries : List (Text × Value))

namespace Value

/-- The name of the kind of a value. -/
def kindName : Value → Text
  | none => "NoneType"
  | bool _ => "bool"
  | integer _ => "int"
  | float _ => "float"
  | text _ => "str"
  | list _ => "list"
  | mapping _ => "dict"

/-- Whether a value counts as true: nothing, zero and all empty values do not. -/
def isTrue : Value → Bool
  | none => false
  | bool value => value
  | integer value => value ≠ 0
  | float (.finite _ mantissa _) => mantissa ≠ 0
  | float _ => true
  | text value => !value.isEmpty
  | list items => !items.isEmpty
  | mapping entries => !entries.isEmpty

mutual
/-- A value as it is written in messages. -/
def written : Value → Text
  | none => "None"
  | bool value => if value then "True" else "False"
  | integer value => signedNumeral value
  | float value => value.text
  | text value => value.quoted
  | list items => "[" ++ writtenItems items ++ "]"
  | mapping entries => "\x7b" ++ writtenEntries entries ++ "\x7d"

/-- The items of a list between commas. -/
def writtenItems : List Value → Text
  | [] => []
  | [item] => written item
  | item :: rest => written item ++ ", " ++ writtenItems rest

/-- The entries of a mapping between commas. -/
def writtenEntries : List (Text × Value) → Text
  | [] => []
  | [(key, value)] => key.quoted ++ ": " ++ written value
  | (key, value) :: rest => key.quoted ++ ": " ++ written value ++ ", " ++ writtenEntries rest
end

/-- A value as it is printed: a text is printed as itself. -/
def shown : Value → Text
  | text value => value
  | value => value.written

end Value

end PanelClock
