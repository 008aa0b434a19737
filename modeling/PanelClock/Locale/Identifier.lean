import PanelClock.Text.Digit
import PanelClock.Text.Letter
import PanelClock.Text.LetterCase
import PanelClock.Text.Quoted

/-!
# Locale identifiers

An identifier names a language and, after underscores, a script, a territory and a
variant, and after an at sign a modifier.  A locale that is not known exactly is looked
up by language and territory alone.
-/

set_option autoImplicit false

namespace PanelClock

/-- The parts of a locale identifier. -/
structure LocaleId where
  language : Text
  script : Option Text := none
  territory : Option Text := none
  variant : Option Text := none
  modifier : Option Text := none
  deriving DecidableEq, Repr

/-- Why a locale code names no locale. -/
inductive LocaleFault where
  | empty
  | badLanguage (language : Text)
  /-- There are parts left over. -/
  | badShape (identifier : Text)
  | unknown (identifier : Text)
  deriving DecidableEq, Repr

namespace LocaleFault

/-- What is said of an empty identifier. -/
def emptyMessage : Text :=
  "Empty locale identifier value: ''\n\nIf you didn't explicitly pass an empty value to a "
    ++ "Babel function, this could be caused by there being no suitable locale environment "
    ++ "variables for the API you tried to use."

/-- The message of a fault. -/
def message : LocaleFault → Text
  | empty => emptyMessage
  | badLanguage language => "expected only letters, got " ++ language.quoted
  | badShape identifier => identifier.quoted ++ " is not a valid locale identifier"
  | unknown identifier => "unknown locale " ++ identifier.quoted

end LocaleFault

namespace LocaleId

/-- An identifier without its modifier. -/
def base (id : LocaleId) : Text :=
  Text.joinWith "_"
    (id.language :: (id.script.toList ++ id.territory.toList ++ id.variant.toList))

/-- An identifier as it is written. -/
def text (id : LocaleId) : Text :=
  match id.modifier with
  | none => id.base
  | some modifier => id.base ++ '@' :: modifier

/-- Letters only, and at least one. -/
def isWord (text : Text) : Bool := !text.isEmpty && text.all isLetter

/-- Splits off a script: four letters, put in title case. -/
def takeScript : List Text → Option Text × List Text
  | part :: rest =>
      if part.length = 4 && isWord part then (some part.title, rest)
      else (none, part :: rest)
  | [] => (none, [])

/-- Splits off a territory: two letters or three digits of any form. -/
def takeTerritory : List Text → Option Text × List Text
  | part :: rest =>
      if part.length = 2 && isWord part then (some part.upper, rest)
      else if part.length = 3 && part.all isAnyDigit then (some part, rest)
      else (none, part :: rest)
  | [] => (none, [])

/-- Splits off a variant: four characters that start with a digit, or at least five that
start with a letter. -/
def takeVariant : List Text → Option Text × List Text
  | part :: rest =>
      let startsWith (property : Char → Bool) : Bool := (part.take 1).any property
      if (part.length = 4 && startsWith isAnyDigit)
          || (5 ≤ part.length && startsWith isLetter) then
        (some part.upper, rest)
      else (none, part :: rest)
  | [] => (none, [])

/-- Reads an identifier. -/
def read (identifier : Text) : Except LocaleFault LocaleId :=
  if identifier.isEmpty then .error .empty
  else
    let modifier := Text.after '@' identifier
    let body := Text.before '.' (Text.before '@' identifier)
    let parts := Text.pieces '_' body
    let language := (parts.headD []).lower
    if !isWord language then .error (.badLanguage language)
    else
      let (script, parts) := takeScript (parts.drop 1)
      let (territory, parts) := takeTerritory parts
      let (variant, parts) := takeVariant parts
      if !parts.isEmpty then .error (.badShape body)
      else
        .ok ⟨language, script, territory, variant, if modifier.isEmpty then none else some modifier⟩

end LocaleId

end PanelClock
