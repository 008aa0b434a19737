import PanelClock.Text.Blank
import PanelClock.Text.LetterCase

/-!
# Settings that select a default

A setting of a locale, a time zone or a calendar is a text or nothing.  Nothing and a few
words, in any case and with blanks around them, ask for the default of the system.
-/

set_option autoImplicit false

namespace PanelClock

/-- A setting: a text, or nothing. -/
abbrev Setting := Option Text

/-- The words that ask for the default of the system. -/
def defaultWords : List Text := ["", "default", "system"]

namespace Setting

/-- The word that decides what a text selects: without the blanks around it, in lower
case.  All words with a meaning are ASCII. -/
def keyword (text : Text) : Text := text.trim.lowerAscii

/-- A text that asks for the default of the system. -/
def isDefaultText (text : Text) : Bool := defaultWords.contains (keyword text)

/-- A setting that asks for the default of the system. -/
def isDefault : Setting → Bool
  | none => true
  | some text => isDefaultText text

/-- Nothing for a setting that asks for the default, else the text without the blanks
around it. -/
def normalize : Setting → Setting
  | none => none
  | some text => if isDefaultText text then none else some text.trim

end Setting

/-- The calendars that can be rendered. -/
def gregorianCalendars : List Text := ["gregory", "gregorian", "iso8601"]

/-- A calendar that can be rendered, in any case. -/
def isGregorian (calendar : Text) : Bool := gregorianCalendars.contains calendar.lowerAscii

end PanelClock
