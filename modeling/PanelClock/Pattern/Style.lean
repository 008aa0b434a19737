import PanelClock.Text.Basic

/-!
# Display styles of field runs

The length of a field run selects one of five display styles.  Each field letter has a
rule that turns a length into the ordinal of a style: the length less one, shifted, and
held between an optional minimum and an optional maximum.  An ordinal never passes the
last style; a negative ordinal counts from the end.
-/

set_option autoImplicit false

namespace PanelClock

/-- How a field is displayed. -/
inductive Style where
  | numeric
  | twoDigit
  | short
  | long
  | narrow
  deriving DecidableEq, Repr

namespace Style

/-- The styles in the order of their ordinals. -/
def all : List Style := [numeric, twoDigit, short, long, narrow]

/-- The name of a style. -/
def name : Style → Text
  | numeric => "numeric"
  | twoDigit => "2-digit"
  | short => "short"
  | long => "long"
  | narrow => "narrow"

/-- The style with an ordinal, counted from the end when it is negative. -/
def atOrdinal? (ordinal : Int) : Option Style :=
  if ordinal < 0 then
    if ordinal + all.length < 0 then none else all[(ordinal + all.length).toNat]?
  else all[ordinal.toNat]?

end Style

/-- How the length of a run becomes the ordinal of a style. -/
inductive StyleShift where
  /-- The length less one, shifted and held between the bounds. -/
  | by (amount : Int)
  /-- Two digits exactly for a run of two, numeric otherwise; the bounds are ignored. -/
  | twoDigitsForTwo
  deriving DecidableEq, Repr

/-- The style rule of a field letter. -/
structure StyleRule where
  shift : StyleShift := .by 0
  minimum : Option Int := none
  maximum : Option Int := none
  deriving DecidableEq, Repr

namespace StyleRule

/-- The ordinal of the style that a run of the given length selects. -/
def ordinal (rule : StyleRule) (length : Nat) : Int :=
  match rule.shift with
  | .twoDigitsForTwo => if length = 2 then 1 else 0
  | .by amount =>
      let shifted := (length : Int) - 1 + amount
      let raised := match rule.minimum with
        | none => shifted
        | some low => max shifted low
      let lowered := match rule.maximum with
        | none => raised
        | some high => min raised high
      min lowered (Style.all.length - 1)

/-- The style that a run of the given length selects, none when its ordinal lies before
the first style. -/
def style? (rule : StyleRule) (length : Nat) : Option Style :=
  Style.atOrdinal? (rule.ordinal length)

/-- What is said of a length whose ordinal lies before the first style. -/
def noStyleMessage : Text := "tuple index out of range"

end StyleRule

/-- What a field letter stands for. -/
inductive FieldKind where
  | era
  | year
  | month
  | week
  | day
  | weekday
  | period
  | hour
  | minute
  | second
  | timeZoneName
  deriving DecidableEq, Repr

/-- The name of a field kind. -/
def FieldKind.name : FieldKind → Text
  | era => "era"
  | year => "year"
  | month => "month"
  | week => "week"
  | day => "day"
  | weekday => "weekday"
  | period => "period"
  | hour => "hour"
  | minute => "minute"
  | second => "second"
  | timeZoneName => "timeZoneName"

/-- What a field letter stands for and how its run length selects a style. -/
structure FieldRule where
  kind : FieldKind
  style : StyleRule
  deriving DecidableEq, Repr

namespace FieldRule

private def bounded (kind : FieldKind) (low high : Int) : FieldRule :=
  ⟨kind, ⟨.by 0, some low, some high⟩⟩

/-- The rule of a field letter, for the letters that have one. -/
def ofLetter? : Char → Option FieldRule
  | 'G' => some ⟨.era, ⟨.by 0, some 2, none⟩⟩
  | 'y' | 'Y' => some ⟨.year, ⟨.twoDigitsForTwo, none, none⟩⟩
  | 'u' | 'r' => some ⟨.year, {}⟩
  | 'M' | 'L' => some ⟨.month, {}⟩
  | 'w' => some (bounded .week 0 1)
  | 'd' => some (bounded .day 0 1)
  | 'E' => some (bounded .weekday 2 4)
  | 'e' | 'c' => some (bounded .weekday 2 5)
  | 'a' | 'b' | 'B' => some ⟨.period, {}⟩
  | 'h' | 'H' | 'k' | 'K' | 'j' | 'J' | 'C' => some (bounded .hour 0 1)
  | 'm' => some (bounded .minute 0 1)
  | 's' => some (bounded .second 0 1)
  | 'z' | 'Z' | 'v' => some (bounded .timeZoneName 2 3)
  | 'V' => some (bounded .timeZoneName 3 3)
  | 'X' | 'x' => some (bounded .timeZoneName 2 2)
  | _ => none

end FieldRule

end PanelClock
