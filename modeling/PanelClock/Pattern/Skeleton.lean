import PanelClock.Locale.Basic
import PanelClock.Pattern.LocalePattern
import PanelClock.Pattern.Style
import PanelClock.Pattern.Tokenize

/-!
# Skeletons

A pattern without explicit layout only says which fields should appear and how wide.
Its runs are turned into a skeleton, a row of field runs in which each field stands once
and the hour last.  The locale's pattern for the skeleton is taken as it is when there
is one; otherwise the closest skeleton is chosen and the fields of its pattern take the
widths that were asked for.
-/

set_option autoImplicit false

namespace PanelClock

/-! ## Building a skeleton -/

/-- The skeleton of a pattern that names no field. -/
def defaultSkeleton : Text := "yMd"

/-- The run of a field in a skeleton, by kind and style; weeks, periods and hours have
none of their own. -/
def skeletonRun? : FieldKind → Style → Option (Char × Nat)
  | .era, .long => some ('G', 4)
  | .era, .narrow => some ('G', 5)
  | .era, _ => some ('G', 1)
  | .year, .twoDigit => some ('y', 2)
  | .year, _ => some ('y', 1)
  | .month, .numeric => some ('M', 1)
  | .month, .twoDigit => some ('M', 2)
  | .month, .short => some ('M', 3)
  | .month, .long => some ('M', 4)
  | .month, .narrow => some ('M', 5)
  | .day, .twoDigit => some ('d', 2)
  | .day, _ => some ('d', 1)
  | .weekday, .long => some ('E', 4)
  | .weekday, .narrow => some ('E', 5)
  | .weekday, _ => some ('E', 1)
  | .minute, .numeric => some ('m', 1)
  | .minute, _ => some ('m', 2)
  | .second, .numeric => some ('s', 1)
  | .second, _ => some ('s', 2)
  | .timeZoneName, .long => some ('z', 4)
  | .timeZoneName, .narrow => some ('z', 4)
  | .timeZoneName, _ => some ('z', 1)
  | _, _ => none

/-- What the runs read so far ask for. -/
structure SkeletonRequest where
  /-- The run of each field, in the order in which fields were first named. -/
  parts : List (Char × Nat) := []
  /-- The width of the hour, 0 when no run asks for an hour. -/
  hourWidth : Nat := 0
  /-- The letter of the last run of an hour. -/
  hourLetter : Option Char := none
  deriving DecidableEq, Repr

/-- Puts a run in the place of an earlier run of its letter, or at the end. -/
def putRun (run : Char × Nat) : List (Char × Nat) → List (Char × Nat)
  | [] => [run]
  | first :: rest => if first.1 = run.1 then run :: rest else first :: putRun run rest

namespace SkeletonRequest

/-- What is asked for once another run is read. -/
def add (request : SkeletonRequest) (run : Char × Nat) : SkeletonRequest :=
  match FieldRule.ofLetter? run.1 with
  | none => request
  | some rule =>
      match rule.kind with
      | .week => request
      | .period =>
          { request with hourWidth := if request.hourWidth = 0 then 1 else request.hourWidth }
      | .hour =>
          { request with
            hourWidth := if 1 ≤ rule.style.ordinal run.2 then 2 else 1
            hourLetter := some run.1 }
      | kind =>
          match (rule.style.style? run.2).bind (skeletonRun? kind) with
          | none => request
          | some part => { request with parts := putRun part request.parts }

end SkeletonRequest

/-- Letters of parts of the day. -/
def isPeriodLetter (c : Char) : Bool := c = 'a' || c = 'b' || c = 'B'

/-- The hour letter of the short time pattern of a locale. -/
def preferredHour (names : LocaleNames) : Char :=
  if names.shortTime.contains 'h' || names.shortTime.contains 'K' then 'h' else 'H'

/-- The letter of the hour in a skeleton: a part of the day or a letter of the 12-hour
clock asks for that clock, and letters that leave the choice open get the clock that the
locale prefers. -/
def skeletonHour (names : LocaleNames) (hasPeriod : Bool) (hourLetter : Option Char) : Char :=
  if hasPeriod || hourLetter = some 'h' || hourLetter = some 'K' then 'h'
  else if hourLetter = some 'H' || hourLetter = some 'k' then 'H'
  else preferredHour names

/-- The skeleton that the runs of a pattern ask for. -/
def skeletonOfRuns (names : LocaleNames) (runs : List (Char × Nat)) : Text :=
  let request := runs.foldl SkeletonRequest.add {}
  let hasPeriod := runs.any fun run => isPeriodLetter run.1
  let hour :=
    if request.hourWidth = 0 then []
    else [(skeletonHour names hasPeriod request.hourLetter, request.hourWidth)]
  match request.parts ++ hour with
  | [] => defaultSkeleton
  | parts => parts.flatMap fun part => Segment.specifier part.1 part.2

/-- The skeleton that a pattern asks for. -/
def buildSkeleton (names : LocaleNames) (pattern : Text) : Text :=
  skeletonOfRuns names (Segment.runs (tokenize .kept pattern))

/-! ## The closest skeleton -/

/-- Whether a letter occurs in one of the skeletons. -/
def occursIn (letter : Char) (options : List Text) : Bool := options.any (·.contains letter)

/-- A skeleton with the letters that no option has replaced: a zone name by the generic
one, `k` by `H`, `K` by `h`; parts of the day are dropped. -/
def substituteLetters (options : List Text) (skeleton : Text) : Text :=
  let replace (old : Char) (new : Text) (text : Text) : Text :=
    if occursIn old options then text else text.flatMap fun c => if c = old then new else [c]
  replace 'b' [] (replace 'a' [] (replace 'K' "h" (replace 'k' "H" (replace 'z' "v" skeleton))))

/-- The width of each letter of a skeleton, the last run of a letter counting. -/
def skeletonWidths (skeleton : Text) : List (Char × Nat) :=
  (Segment.runs (readLocaleSegments skeleton)).foldl (fun widths run => putRun run widths) []

/-- Both have the same letters. -/
def sameLetters (first second : List (Char × Nat)) : Bool :=
  first.length = second.length && first.all fun run => (second.lookup run.1).isSome

/-- A month width is a name. -/
def isMonthName (width : Nat) : Bool := 2 < width

/-- How far apart two widths of a letter are; a month that turns from a number into a
name or back is very far. -/
def widthDistance (letter : Char) (first second : Nat) : Nat :=
  if letter = 'M' && isMonthName first ≠ isMonthName second then 0x100
  else (first - second) + (second - first)

/-- How far a skeleton is from another one with the same letters. -/
def skeletonDistance (wanted option : List (Char × Nat)) : Nat :=
  (wanted.map fun run => widthDistance run.1 run.2 ((option.lookup run.1).getD 0)).foldr (· + ·) 0

/-- The closest of several skeletons, the first of equally close ones. -/
def closest (wanted : List (Char × Nat)) : List Text → Option (Text × Nat)
  | [] => none
  | option :: rest =>
      let widths := skeletonWidths option
      let later := closest wanted rest
      if sameLetters wanted widths then
        let distance := skeletonDistance wanted widths
        match later with
        | some (other, best) =>
            if best < distance then some (other, best) else some (option, distance)
        | none => some (option, distance)
      else later

/-- The option whose fields are those of a skeleton and whose widths are closest. -/
def matchSkeleton? (skeleton : Text) (options : List Text) : Option Text :=
  let sorted := options.mergeSort fun first second => !second.precedes first
  (closest (skeletonWidths (substituteLetters sorted skeleton)) sorted).map (·.1)

/-! ## Adjusting widths -/

/-- The letter of the skeleton whose width a letter of a pattern follows. -/
def widthGroup? : Char → Option Char
  | 'G' => some 'G'
  | 'M' | 'L' => some 'M'
  | 'd' => some 'd'
  | 'E' | 'c' | 'e' => some 'E'
  | 'z' | 'v' => some 'z'
  | _ => none

/-- A width of a group shows a text and not a number. -/
def isTextWidth (group : Char) (width : Nat) : Bool :=
  if group = 'M' then isMonthName width else group = 'G' || group = 'E' || group = 'z'

/-- The widths that a skeleton asks for, by group. -/
def requestedWidths (skeleton : Text) : List (Char × Nat) :=
  (Segment.runs (readLocaleSegments skeleton)).foldl
    (fun widths run =>
      match widthGroup? run.1 with
      | none => widths
      | some group => putRun (group, run.2) widths)
    []

/-- The width that a run of a pattern takes.  Weekdays are never narrower than their
abbreviation, and a run never changes between number and text. -/
def adjustedWidth (requested : List (Char × Nat)) (letter : Char) (width : Nat) : Nat :=
  match widthGroup? letter with
  | none => width
  | some group =>
      match requested.lookup group with
      | none => width
      | some asked =>
          let wanted := if group = 'E' then max asked 3 else asked
          if isTextWidth group wanted = isTextWidth group width then wanted else width

/-- A segment of a pattern with its adjusted width. -/
def adjustSegment (requested : List (Char × Nat)) : Segment → Segment
  | .literal text => .literal text
  | .field letter width => .field letter (adjustedWidth requested letter width)

/-- A pattern with its fields in the widths that a skeleton asks for.  A pattern of which
nothing changes stays as it is. -/
def adjustWidths (skeleton : Text) (pattern : LocalePattern) : Except Fault LocalePattern :=
  let adjusted := pattern.segments.map (adjustSegment (requestedWidths skeleton))
  if adjusted = pattern.segments then .ok pattern
  else LocalePattern.read (writeLocaleSegments adjusted)

/-! ## The pattern of a locale -/

/-- The pattern that a locale has for exactly a skeleton. -/
def LocaleNames.patternOf? (names : LocaleNames) (skeleton : Text) : Option Text :=
  (names.skeletons.find? (·.skeleton = skeleton)).map (·.pattern)

/-- The pattern of a locale for a skeleton, none when no skeleton of the locale has the
same fields. -/
def LocaleNames.matchPattern (names : LocaleNames) (skeleton : Text) :
    Except Fault (Option LocalePattern) :=
  match names.patternOf? skeleton with
  | some text => (LocalePattern.read text).map some
  | none =>
      match (matchSkeleton? skeleton (names.skeletons.map (·.skeleton))).bind names.patternOf? with
      | none => .ok none
      | some text => do
          let pattern ← LocalePattern.read text
          return some (← adjustWidths skeleton pattern)

end PanelClock
