import PanelClock.Number.Binary64
import PanelClock.Number.Numeral

/-!
# Rounded decimals

A rational written with a fixed number of decimal places, or with at most a number of
significant digits.  Rounding is to the nearest decimal, a tie to the even last digit.
-/

set_option autoImplicit false

namespace PanelClock

/-- The quotient rounded to a number of decimal places, as whole part and places. -/
def decimalParts (places numerator denominator : Nat) : Text × Text :=
  let unit := Nat.pow 10 places
  let scaled := roundQuotient (numerator * unit) denominator
  (numeral (scaled / unit), paddedNumeral places (scaled % unit))

/-- A quotient with a fixed number of decimal places; no point without places. -/
def fixedQuotient (places numerator denominator : Nat) : Text :=
  let (whole, fraction) := decimalParts places numerator denominator
  if places = 0 then whole else whole ++ '.' :: fraction

/-- A rational with a fixed number of decimal places. -/
def fixedDecimal (places : Nat) (value : Rat) : Text :=
  let magnitude := fixedQuotient places value.num.natAbs value.den
  if value < 0 then '-' :: magnitude else magnitude

/-- The least power of ten above a quotient of at least one, counted in digits of its
whole part. -/
def wholeDigits (numerator denominator : Nat) : Nat := (numeral (numerator / denominator)).length

/-- Drops the zeros at the end of the decimal places, and the point when nothing is left
of them. -/
def trimDecimal (text : Text) : Text :=
  let kept := (text.reverse.dropWhile (· = '0')).reverse
  if text.contains '.' then
    if kept.getLast? = some '.' then kept.dropLast else kept
  else text

/-- A rational of at least one with at most six significant digits and no zeros at the
end of its decimal places. -/
def sixDigits (value : Rat) : Text :=
  let digits := wholeDigits value.num.natAbs value.den
  trimDecimal (fixedDecimal (6 - digits) value)

namespace Binary64

/-- A floating-point number with a fixed number of decimal places; the sign of a
negative zero is kept. -/
def fixed (places : Nat) : Binary64 → Text
  | nan => "nan"
  | infinite negative => if negative then "-inf" else "inf"
  | finite negative mantissa exponent =>
      let magnitude :=
        if exponent < 0 then fixedQuotient places mantissa (Nat.pow 2 exponent.natAbs)
        else fixedQuotient places (mantissa * Nat.pow 2 exponent.natAbs) 1
      if negative then '-' :: magnitude else magnitude

end Binary64

end PanelClock
