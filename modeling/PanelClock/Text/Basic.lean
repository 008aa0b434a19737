/-!
# Text

Every pattern, name, label and message of the library is a list of characters, so
that lengths and cuts count code points and functions on text are recursions on its
characters.  String literals are read as texts through a coercion.
-/

set_option autoImplicit false

namespace PanelClock

/-- A text is the list of its characters. -/
abbrev Text := List Char

/-- A string literal denotes the list of its characters. -/
instance : Coe String Text := ⟨String.toList⟩

namespace Text

/-- What holds of all characters of a text is decided along the text. -/
instance (text : Text) (p : Char → Prop) [DecidablePred p] : Decidable (∀ c ∈ text, p c) :=
  text.decidableBAll p

/-- The pieces of a text between the occurrences of a separator.  There is always one
piece more than there are separators. -/
def pieces (separator : Char) : Text → List Text
  | [] => [[]]
  | c :: rest =>
      if c = separator then [] :: pieces separator rest
      else match pieces separator rest with
        | [] => [[c]]
        | piece :: others => (c :: piece) :: others

/-- The text before the first occurrence of a mark. -/
def before (mark : Char) (text : Text) : Text := text.takeWhile (· ≠ mark)

/-- The text after the first occurrence of a mark, nothing when there is none. -/
def after (mark : Char) (text : Text) : Text := (text.dropWhile (· ≠ mark)).drop 1

/-- The text after the first occurrence of a key, none when it does not occur. -/
def afterKey (key : Text) : Text → Option Text
  | [] => if key.isEmpty then some [] else none
  | c :: rest =>
      if key.isPrefixOf (c :: rest) then some ((c :: rest).drop key.length)
      else afterKey key rest

/-- Puts a separator between consecutive texts. -/
def joinWith (separator : Text) (texts : List Text) : Text := separator.intercalate texts

/-- Fills up on the left to a width. -/
def fillLeft (fill : Char) (width : Nat) (text : Text) : Text := text.leftpad width fill

/-- Fills up on the right to a width. -/
def fillRight (fill : Char) (width : Nat) (text : Text) : Text := text.rightpad width fill

/-- Order by code point, the first difference deciding. -/
def precedes : Text → Text → Bool
  | [], [] => false
  | [], _ :: _ => true
  | _ :: _, [] => false
  | a :: as, b :: bs => if a = b then precedes as bs else a.val < b.val

end Text

end PanelClock
