import PanelClock.Number.Binary64.Decimal
import PanelClock.Number.Binary64.Shortest
import PanelClock.Variant.Token.Words
import PanelClock.Zone.Basic

/-!
# Token patterns

A token pattern is scanned from the left for tokens, the longest first; everything else
is text.  Text in brackets up to the first closing one is literal.  Some tokens are
recognised and show nothing.
-/

set_option autoImplicit false

namespace PanelClock

/-- A piece of a token pattern. -/
inductive TokenPiece where
  | text (c : Char)
  /-- The text between brackets. -/
  | bracketed (content : Text)
  /-- A run of a token letter. -/
  | run (letter : Char) (length : Nat)
  /-- The ordinal of the day. -/
  | ordinalDay
  deriving DecidableEq, Repr

/-- The shortest and the longest token of a letter. -/
def tokenLengths? : Char → Option (Nat × Nat)
  | 'Y' => some (2, 4)
  | 'M' | 'D' | 'd' => some (1, 4)
  | 'H' | 'h' | 'm' | 's' => some (1, 2)
  | 'S' => some (1, 6)
  | 'Z' => some (1, 3)
  | 'a' | 'A' | 'X' | 'x' | 'W' => some (1, 1)
  | _ => none

/-- The text up to a closing bracket. -/
def bracketContent? : Text → Option Text
  | [] => none
  | c :: rest => if c = ']' then some [] else (bracketContent? rest).map (c :: ·)

/-- The piece at the start of a text, with the number of characters that follow its first
one. -/
def tokenAt (c : Char) (rest : Text) : TokenPiece × Nat :=
  let bracket? := if c = '[' then bracketContent? rest else none
  match bracket? with
  | some content => (.bracketed content, content.length + 1)
  | none =>
      if c = 'D' ∧ rest.head? = some 'o' then (.ordinalDay, 1)
      else match tokenLengths? c with
        | none => (.text c, 0)
        | some (least, most) =>
            let length := 1 + ((rest.takeWhile (· = c)).take (most - 1)).length
            if length < least then (.text c, 0) else (.run c length, length - 1)

/-- The pieces of a pattern after a number of characters that belong to an earlier
piece. -/
def tokenPieces : Nat → Text → List TokenPiece
  | _, [] => []
  | 0, c :: rest =>
      let (piece, skipped) := tokenAt c rest
      piece :: tokenPieces skipped rest
  | skipped + 1, _ :: rest => tokenPieces skipped rest

/-! ## Tokens -/

/-- Seconds since 1970 as a floating-point number. -/
def timestamp (time : LocalTime) : Binary64 :=
  .ofRat (mkRat time.moment.microsSinceEpoch microsPerSecond)

/-- Microseconds since 1970, computed in floating-point numbers from the seconds. -/
def microTimestamp (time : LocalTime) : Binary64 :=
  .ofRat (((timestamp time).toRat?.getD 0) * 1000000)

/-- The hour on a dial with twelve hours. -/
def dialHour (hour : Nat) : Nat := if hour = 0 then 12 else if hour < 13 then hour else hour - 12

/-- The offset in whole minutes, cut toward zero, with a sign. -/
def minuteOffset (offset : Int) (separator : Text) : Text :=
  let minutes := offset.tdiv 60
  (if minutes < 0 then '-' else '+') :: paddedNumeral 2 (minutes.natAbs / 60) ++ separator
    ++ paddedNumeral 2 (minutes.natAbs % 60)

/-- The year, week and weekday of a day. -/
def weekDateText (wall : WallTime) : Text :=
  let (year, week) := weekDate wall.dayNumber
  numeral year ++ "-W" ++ paddedNumeral 2 week ++ '-' :: numeral (wall.weekday + 1)

/-- The text of a run of a token letter. -/
def tokenText (words : TokenWords) (time : LocalTime) (letter : Char) (length : Nat) : Text :=
  let wall := time.wall
  let date := wall.date
  let pick (row : List Text) (place : Nat) : Text := (row[place]?).getD []
  let half (names : Text × Text) : Text := if wall.hour < 12 then names.1 else names.2
  match letter, length with
  | 'Y', 4 => paddedNumeral 4 date.year
  | 'Y', 2 => (paddedNumeral 4 date.year).drop 2
  | 'M', 4 => pick words.months (date.month - 1)
  | 'M', 3 => pick words.shortMonths (date.month - 1)
  | 'M', _ => paddedNumeral length date.month
  | 'D', 4 => paddedNumeral 3 (wall.dayOfYear + 1)
  | 'D', 3 => numeral (wall.dayOfYear + 1)
  | 'D', _ => paddedNumeral length date.day
  | 'd', 4 => pick words.weekdays wall.weekday
  | 'd', 3 => pick words.shortWeekdays wall.weekday
  | 'd', 1 => numeral (wall.weekday + 1)
  | 'H', _ => paddedNumeral length wall.hour
  | 'h', _ => paddedNumeral length (dialHour wall.hour)
  | 'm', _ => paddedNumeral length wall.minute
  | 's', _ => paddedNumeral length wall.second
  | 'S', _ => (paddedNumeral 6 wall.microsecond).take length
  | 'Z', 3 => time.observance.abbreviation
  | 'Z', 2 => minuteOffset time.observance.offset ":"
  | 'Z', _ => minuteOffset time.observance.offset []
  | 'a', _ => half words.lowerHalves
  | 'A', _ => half words.upperHalves
  | 'X', _ => (timestamp time).text
  | 'x', _ => (microTimestamp time).fixed 0
  | 'W', _ => weekDateText wall
  | _, _ => []

/-- The text of a piece at a local time. -/
def TokenPiece.render (words : TokenWords) (time : LocalTime) : TokenPiece → Text
  | text c => [c]
  | bracketed content => content
  | run letter length => tokenText words time letter length
  | ordinalDay => words.ordinal time.wall.date.day

/-- The text of a token pattern at a local time. -/
def tokenPatternText (words : TokenWords) (time : LocalTime) (pattern : Text) : Text :=
  (tokenPieces 0 pattern).flatMap (TokenPiece.render words time)

end PanelClock
