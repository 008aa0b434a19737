import PanelClock.Text.Basic

/-!
# Segments of a date pattern

A pattern is read as a list of segments: literal text, and runs of one repeated field
letter.  Reading goes through *marks*, one per character of the pattern once its quotes
are resolved: a character of text, a field letter, or a cut that ends the segment before
it.  Grouping marks into segments is shared by the panel's own pattern syntax and by
the patterns of the locale data.
-/

set_option autoImplicit false

namespace PanelClock

/-- A piece of a pattern. -/
inductive Segment where
  /-- Text that stands for itself. -/
  | literal (text : Text)
  /-- A field letter with its number of repetitions. -/
  | field (letter : Char) (length : Nat)
  deriving DecidableEq, Repr

namespace Segment

/-- The run of a field letter as it stands in a pattern. -/
def specifier (letter : Char) (length : Nat) : Text := List.replicate length letter

/-- The letter and length of a field run. -/
def run? : Segment → Option (Char × Nat)
  | literal _ => none
  | field letter length => some (letter, length)

/-- The field runs of a list of segments, in order. -/
def runs (segments : List Segment) : List (Char × Nat) := segments.filterMap run?

/-- Joins neighbouring literals into one. -/
def joinLiterals : List Segment → List Segment
  | [] => []
  | field letter length :: rest => field letter length :: joinLiterals rest
  | literal text :: rest =>
      match joinLiterals rest with
      | literal next :: others => literal (text ++ next) :: others
      | others => literal text :: others

end Segment

/-! ## Marks -/

/-- What one character of a pattern means once its quotes are resolved. -/
inductive Mark where
  /-- A character of literal text. -/
  | text (c : Char)
  /-- A field letter. -/
  | letter (c : Char)
  /-- The end of the segment before it. -/
  | cut
  deriving DecidableEq, Repr

namespace Mark

/-- Groups marks into segments: neighbouring text into one literal, neighbouring equal
letters into one run, never across a cut. -/
def segments : List Mark → List Segment
  | [] => []
  | cut :: rest => segments rest
  | text c :: rest =>
      match rest, segments rest with
      | text _ :: _, .literal more :: others => .literal (c :: more) :: others
      | _, others => .literal [c] :: others
  | letter c :: rest =>
      match rest, segments rest with
      | letter d :: _, .field e length :: others =>
          if c = d then .field c (length + 1) :: others
          else .field c 1 :: .field e length :: others
      | _, others => .field c 1 :: others

end Mark

/-! ## Quotes -/

/-- A character of a pattern after pairs of quotes are resolved. -/
inductive Glyph where
  /-- A single quote that opens or closes a quoted section. -/
  | quote
  /-- Any other character, and the quote that a pair of quotes denotes. -/
  | plain (c : Char) (paired : Bool)
  deriving DecidableEq, Repr

namespace Glyph

/-- Reads two consecutive quotes as one quote character, from the left. -/
def ofPattern : Text → List Glyph
  | [] => []
  | '\'' :: '\'' :: rest => plain '\'' true :: ofPattern rest
  | '\'' :: rest => quote :: ofPattern rest
  | c :: rest => plain c false :: ofPattern rest

end Glyph

end PanelClock
