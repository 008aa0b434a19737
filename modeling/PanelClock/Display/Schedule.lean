import PanelClock.Fault
import PanelClock.Number.Binary64.Decimal
import PanelClock.Value

/-!
# Update rates

An update level from 0 to 15 says how often the clock is rendered: once a minute at level
0, else that many times in a second.  Anything that is no such number counts as level 1.
Intervals are computed in floating-point numbers.
-/

set_option autoImplicit false

namespace PanelClock

/-- How urgent an update is; smaller values go first. -/
inductive Priority where
  | high
  | default
  | idle
  deriving DecidableEq, Repr

namespace Priority

/-- The value of a priority. -/
def value : Priority → Int
  | high => -100
  | default => 0
  | idle => 200

/-- The name of a priority. -/
def name : Priority → Text
  | high => "HIGH"
  | default => "DEFAULT"
  | idle => "DEFAULT_IDLE"

end Priority

/-- How often the clock is rendered. -/
structure UpdateRate where
  level : Binary64
  priority : Priority
  /-- Milliseconds between updates. -/
  intervalMs : Binary64
  deriving DecidableEq, Repr

/-- Seconds between updates. -/
def UpdateRate.interval (rate : UpdateRate) : Binary64 :=
  match rate.intervalMs.toRat? with
  | none => rate.intervalMs
  | some milliseconds => .ofRat (milliseconds / 1000)

namespace UpdateLevel

/-- The highest level. -/
def highest : Rat := 15

/-- The level from which updates are urgent. -/
def urgent : Rat := 8

/-- Milliseconds between updates at level 0. -/
def minuteMs : Rat := 60000

/-- Milliseconds in a second. -/
def secondMs : Rat := 1000

/-- The number that a value is, none for values of other kinds and for what is no number.
Integers beyond the floating-point numbers are refused. -/
def number? : Value → Except Fault (Option Binary64)
  | .integer value =>
      match Binary64.ofInt value with
      | .infinite _ => .error .numberTooLarge
      | number => .ok (some number)
  | .float .nan => .ok none
  | .float number => .ok (some number)
  | _ => .ok none

/-- The rate of level 1. -/
def standardRate : UpdateRate := ⟨.ofInt 1, .default, .ofRat secondMs⟩

/-- The rate of a number. -/
def rateOfNumber (number : Binary64) : UpdateRate :=
  match number.toRat? with
  | none => standardRate
  | some level =>
      if level = 0 then ⟨number, .idle, .ofRat minuteMs⟩
      else if 0 < level ∧ level < urgent then ⟨number, .default, .ofRat (secondMs / level)⟩
      else if urgent ≤ level ∧ level ≤ highest then ⟨number, .high, .ofRat (secondMs / level)⟩
      else standardRate

/-- The rate of a value. -/
def rate (value : Value) : Except Fault UpdateRate := do
  return ((← number? value).map rateOfNumber).getD standardRate

/-- How often a number says that the clock is rendered, in words. -/
def wordsOfNumber (number : Binary64) : Text :=
  match number.toRat? with
  | none => "every second"
  | some level =>
      if level = 0 then "every minute"
      else if level = 1 then "every second"
      else if 1 < level ∧ level ≤ highest then sixDigits level ++ " times in a second"
      else "every second"

/-- How often a value says that the clock is rendered, in words. -/
def words (value : Value) : Except Fault Text := do
  return ((← number? value).map wordsOfNumber).getD "every second"

end UpdateLevel

end PanelClock
