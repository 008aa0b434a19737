import PanelClock.Fault
import PanelClock.Pattern.Segment

/-!
# Patterns of locale data

The patterns of locale data have quotes of their own kind: an opening quote always ends
the piece before it, an unterminated quote is dropped with its text, and only the letters
of a fixed set are field letters.  Each field letter allows certain run lengths.  When
segments are written back as a pattern, a literal is quoted only when it holds a field
letter.
-/

set_option autoImplicit false

namespace PanelClock

/-- The field letters of locale data. -/
def localeLetters : Text := "GyYuQqMLwWdDFgEecabBhHKkmsSAzZOvVxX"

/-- Field letters of locale data. -/
def isLocaleLetter (c : Char) : Bool := localeLetters.contains c

/-- The run lengths that a field letter allows. -/
def allowsLength (letter : Char) (length : Nat) : Bool :=
  match letter with
  | 'w' | 'd' | 'h' | 'H' | 'K' | 'k' | 'm' | 's' => length ≤ 2
  | 'W' | 'F' => length ≤ 1
  | 'D' => length ≤ 3
  | 'E' | 'e' => length ≤ 6
  | 'c' => length = 1 || (3 ≤ length && length ≤ 6)
  | 'z' | 'V' => length ≤ 4
  | 'O' | 'v' => length = 1 || length = 4
  | 'G' | 'Q' | 'q' | 'M' | 'L' | 'a' | 'b' | 'B' | 'Z' | 'x' | 'X' => length ≤ 5
  | _ => true

/-- The marks of a pattern of locale data, read outside a quoted section, and inside one
that is closed later. -/
def localeMarks : List Glyph → List Mark × Option (List Mark)
  | [] => ([], none)
  | .quote :: rest =>
      let (outside, inside) := localeMarks rest
      (.cut :: inside.getD [], some outside)
  | .plain c paired :: rest =>
      let (outside, inside) := localeMarks rest
      let shown := if c = '\x00' then '\'' else c
      let mark := if !paired && isLocaleLetter c then Mark.letter c else .text shown
      (mark :: outside, inside.map (.text shown :: ·))

/-- The segments of a pattern of locale data.  Neighbouring literals stay apart where a
quote was opened between them. -/
def readLocaleSegments (pattern : Text) : List Segment :=
  Mark.segments (localeMarks (Glyph.ofPattern pattern)).1

/-- A literal as it is written in a pattern of locale data. -/
def writeLocaleLiteral (text : Text) : Text :=
  if text.any isLocaleLetter then
    '\'' :: text.flatMap (fun c => if c = '\'' then ['\'', '\''] else [c]) ++ ['\'']
  else text

/-- A segment as it is written in a pattern of locale data. -/
def writeLocaleSegment : Segment → Text
  | .literal text => writeLocaleLiteral text
  | .field letter length => Segment.specifier letter length

/-- Segments written as a pattern of locale data. -/
def writeLocaleSegments (segments : List Segment) : Text := segments.flatMap writeLocaleSegment

/-- A run with a length that its letter does not allow. -/
def badRun? : Segment → Option Text
  | .literal _ => none
  | .field letter length =>
      if allowsLength letter length then none else some (Segment.specifier letter length)

/-- A pattern of locale data whose runs all have allowed lengths. -/
structure LocalePattern where
  text : Text
  segments : List Segment
  deriving DecidableEq, Repr

/-- Reads a pattern of locale data; the first run of a bad length is reported. -/
def LocalePattern.read (text : Text) : Except Fault LocalePattern :=
  let segments := readLocaleSegments text
  match segments.findSome? badRun? with
  | some run => .error (.fieldLength run)
  | none => .ok ⟨text, segments⟩

end PanelClock
