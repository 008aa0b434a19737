import PanelClock.Locale.FieldText
import PanelClock.Pattern.Arithmetic
import PanelClock.Pattern.Offset
import PanelClock.Pattern.Style

/-!
# Forms of field runs

A run of a field letter selects a form: a padded number, a field in the words of the
locale, an arithmetic field or an offset.  Letters of locale data have forms up to a
length of five, except that longer weekdays are cut to two characters.  A run without a
form is not rendered at all.
-/

set_option autoImplicit false

namespace PanelClock

/-- How the text of a field run is made. -/
inductive FieldForm where
  /-- The hour as its letter counts it, padded. -/
  | hour (letter : Char) (length : Nat)
  | minute (length : Nat)
  | second (length : Nat)
  /-- The year with at least five digits. -/
  | longYear
  /-- A field of locale data; padded when it is a number. -/
  | named (letter : Char) (width length : Nat)
  | quarter (length : Nat)
  | weekOfYear (firstWeekday : Int) (length : Nat)
  | weekOfMonth
  | weekdayInMonth
  | julianDay
  | fraction (length : Nat)
  | millisecondOfDay (length : Nat)
  | offset (style : OffsetStyle)
  /-- The first two characters of a weekday name. -/
  | weekdayStart (width : Nat)
  deriving DecidableEq, Repr

/-- The hour as a letter counts it: `H` counts midnight as 24, `h` and `K` count 1 to 12,
all others 0 to 23. -/
def hourAs (letter : Char) (hour : Nat) : Nat :=
  if letter = 'H' then (if hour = 0 then 24 else hour)
  else if letter = 'h' ∨ letter = 'K' then
    (if hour = 0 then 12 else if 12 < hour then hour - 12 else hour)
  else hour

/-- The run of locale data for a kind of field in a style. -/
def namedRun? : FieldKind → Style → Option (Char × Nat)
  | .era, .short => some ('G', 1)
  | .era, .long => some ('G', 4)
  | .era, .narrow => some ('G', 5)
  | .year, .twoDigit => some ('y', 2)
  | .year, _ => some ('y', 1)
  | .month, .numeric => some ('L', 1)
  | .month, .twoDigit => some ('L', 2)
  | .month, .short => some ('L', 3)
  | .month, .long => some ('L', 4)
  | .month, .narrow => some ('L', 5)
  | .day, .twoDigit => some ('d', 2)
  | .day, _ => some ('d', 1)
  | .weekday, .short => some ('c', 3)
  | .weekday, .long => some ('c', 4)
  | .weekday, .narrow => some ('c', 5)
  | .timeZoneName, .short => some ('z', 1)
  | .timeZoneName, .long => some ('z', 4)
  | _, _ => none

namespace FieldForm

/-- The form of a letter whose run is rendered by its kind and style. -/
def ofRule? (hasPlace : Bool) (letter : Char) (length : Nat) : Option FieldForm := do
  if letter = 'w' ∨ letter = 'W' ∨ 5 < length then none
  if letter = 'x' ∨ letter = 'X' ∨ (letter = 'Z' ∧ 3 ≤ length) then none
  let rule ← FieldRule.ofLetter? letter
  let style ← rule.style.style? length
  match rule.kind with
  | .hour => some (.hour letter length)
  | .minute => some (.minute length)
  | .second => some (.second length)
  | .period => some (.named 'a' 1 length)
  | kind =>
      if kind = .year ∧ length = 5 then some .longYear
      else if letter = 'v' ∧ hasPlace then
        some (.named 'v' (if style = .long then 4 else 1) length)
      else
        let (letter, width) ← namedRun? kind style
        some (.named letter width length)

/-- The form of a letter whose run is computed without locale data. -/
def ofArithmetic? (firstWeekday : Int) (letter : Char) (length : Nat) : Option FieldForm :=
  match letter with
  | 'w' => some (.weekOfYear firstWeekday length)
  | 'Q' | 'q' => some (.quarter length)
  | 'W' => some .weekOfMonth
  | 'F' => some .weekdayInMonth
  | 'g' => some .julianDay
  | 'S' => some (.fraction length)
  | 'A' => some (.millisecondOfDay length)
  | 'Z' => some (.offset (OffsetStyle.zone length))
  | 'O' => some (.offset (OffsetStyle.localizedGmt length))
  | 'X' => some (.offset (OffsetStyle.iso true length))
  | 'x' => some (.offset (OffsetStyle.iso false length))
  | _ => none

/-- The form of a field run, none when it is not rendered. -/
def ofRun? (firstWeekday : Int) (hasPlace : Bool) (letter : Char) (length : Nat) :
    Option FieldForm :=
  if 5 < length ∧ (letter = 'e' ∨ letter = 'E' ∨ letter = 'c') then some (.weekdayStart 3)
  else ofRule? hasPlace letter length <|> ofArithmetic? firstWeekday letter length

/-- Numbers are padded to a length, other texts are left as they are. -/
def padNumber (length : Nat) (text : Text) : Text :=
  if !text.isEmpty && text.all Char.isDigit then text.fillLeft '0' length else text

/-- The text of a form at a local time. -/
def text (names : LocaleNames) (zone : Zone) (time : LocalTime) : FieldForm → Text
  | hour letter length => paddedNumeral length (hourAs letter time.wall.hour)
  | minute length => paddedNumeral length time.wall.minute
  | second length => paddedNumeral length time.wall.second
  | longYear => paddedNumeral 5 time.wall.date.year
  | named letter width length =>
      padNumber length ((names.fieldText? zone time letter width).getD [])
  | quarter length => quarterText time.wall length
  | weekOfYear firstWeekday length => weekOfYearText firstWeekday time.wall length
  | weekOfMonth => weekOfMonthText
  | weekdayInMonth => weekdayInMonthText time.wall
  | julianDay => julianDayText time.wall
  | fraction length => fractionText time.wall length
  | millisecondOfDay length => millisecondOfDayText time.wall length
  | offset style => style.write time.observance.offset
  | weekdayStart width => ((names.fieldText? zone time 'c' width).getD []).take 2

end FieldForm

end PanelClock
