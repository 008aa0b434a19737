import PanelClock.Text.Basic

/-!
# Ranges of code points

Properties of characters are tables of ranges in ascending order.
-/

set_option autoImplicit false

namespace PanelClock

/-- The first and the last code point of a range. -/
abbrev CodeRange := Nat × Nat

/-- A character lies in one of the ranges. -/
def inCodeRanges (ranges : List CodeRange) (c : Char) : Bool :=
  ranges.any fun range => range.1 ≤ c.toNat && c.toNat ≤ range.2

end PanelClock
