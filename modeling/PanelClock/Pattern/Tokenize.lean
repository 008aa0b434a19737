import PanelClock.Pattern.Segment

/-!
# Reading a date pattern

Single quotes delimit literal text, two consecutive quotes are one quote character
inside and outside a quoted section, every ASCII letter outside quotes is a field
letter, and everything else stands for itself.  Reading never fails: an unterminated
quote turns the rest of the pattern into literal text.

Runs of `l` are dropped.  Runs of the hour-preference letters `j`, `J` and `C` are kept
only where a locale is about to decide what they mean.  `Segment.write` goes the other
way and writes a pattern that reads back as given segments.
-/

set_option autoImplicit false

namespace PanelClock

/-- ASCII letters are field letters. -/
def isFieldLetter (c : Char) : Bool :=
  ('a'.val ≤ c.val && c.val ≤ 'z'.val) || ('A'.val ≤ c.val && c.val ≤ 'Z'.val)

/-- The letters that ask for the hour cycle a locale prefers. -/
def isHourPreference (c : Char) : Bool := c = 'j' || c = 'J' || c = 'C'

/-- What happens to runs of hour-preference letters. -/
inductive PreferenceRuns where
  | dropped
  | kept
  deriving DecidableEq, Repr

/-- Whether runs of a letter survive reading. -/
def PreferenceRuns.keeps (mode : PreferenceRuns) (letter : Char) : Bool :=
  letter ≠ 'l' && (mode = .kept || !isHourPreference letter)

/-- Whether a segment survives reading; literals always do. -/
def PreferenceRuns.keepsSegment (mode : PreferenceRuns) : Segment → Bool
  | .literal _ => true
  | .field letter _ => mode.keeps letter

/-- The marks of a pattern, read outside and inside a quoted section. -/
def patternMarks : List Glyph → List Mark × List Mark
  | [] => ([], [])
  | .quote :: rest =>
      let later := patternMarks rest
      (later.2, later.1)
  | .plain c paired :: rest =>
      let later := patternMarks rest
      let mark := if !paired && isFieldLetter c then Mark.letter c else .text c
      (mark :: later.1, .text c :: later.2)

/-- The segments of a pattern. -/
def tokenize (mode : PreferenceRuns) (pattern : Text) : List Segment :=
  Segment.joinLiterals
    ((Mark.segments (patternMarks (Glyph.ofPattern pattern)).1).filter mode.keepsSegment)

/-! ## Writing segments -/

/-- Each quote twice, all else once. -/
def doubleQuotes : Text → Text
  | [] => []
  | c :: rest => if c = '\'' then '\'' :: '\'' :: doubleQuotes rest else c :: doubleQuotes rest

/-- A literal as it is quoted in a pattern: the quotes it starts with stand doubled in
front of the quoted section, because an opening quote must not meet another one. -/
def writeLiteral (text : Text) : Text :=
  let leading := text.takeWhile (· = '\'')
  let rest := text.dropWhile (· = '\'')
  doubleQuotes leading ++ (if rest.isEmpty then [] else '\'' :: doubleQuotes rest ++ ['\''])

/-- A pattern for a list of segments.  Two neighbouring runs of the same letter are kept
apart by a dropped letter. -/
def Segment.write : List Segment → Text
  | [] => []
  | .literal text :: rest => writeLiteral text ++ write rest
  | .field letter length :: rest =>
      let separator : Text :=
        match rest with
        | .field next _ :: _ => if letter = next then ['l'] else []
        | _ => []
      specifier letter length ++ separator ++ write rest

end PanelClock
