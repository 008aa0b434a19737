import PanelClock.Number.Binary64
import PanelClock.Number.Numeral

/-!
# Shortest decimals

A floating-point number is written with the fewest decimal digits that read back as the
same number, and of those digits the ones nearest to it.  Numbers from `0.0001` up to
below `10 ^ 16` are written positionally, always with a point; all others in powers of
ten with an exponent of at least two digits.
-/

set_option autoImplicit false

namespace PanelClock.Binary64

/-- A decimal `digits * 10 ^ exponent` as a quotient. -/
def decimalQuotient (digits : Nat) (exponent : Int) : Nat × Nat :=
  let power := Nat.pow 10 exponent.natAbs
  if exponent < 0 then (digits, power) else (digits * power, 1)

/-- The exponent of ten of the leading digit of a positive quotient: the estimate from
the numbers of digits of its parts is at most one too high. -/
def leadingDecimal (numerator denominator : Nat) : Int :=
  let estimate := ((numeral numerator).length : Int) - (numeral denominator).length
  let (top, bottom) := decimalQuotient 1 estimate
  if numerator * bottom < denominator * top then estimate - 1 else estimate

/-- The decimal with the given number of digits nearest to a positive quotient that
reads back as the given number, none when neither neighbour does. -/
def readBack? (x : Binary64) (numerator denominator count : Nat) : Option (Nat × Int) :=
  let exponent := leadingDecimal numerator denominator - (count - 1 : Nat)
  let (top, bottom) := decimalQuotient 1 exponent
  let scaled := numerator * bottom
  let unit := denominator * top
  let below := scaled / unit
  let nearest := roundQuotient scaled unit
  let other := if nearest = below then below + 1 else below
  let reads (digits : Nat) : Bool :=
    let (p, q) := decimalQuotient digits exponent
    ofQuotient false p q = x
  if reads nearest then some (nearest, exponent)
  else if reads other then some (other, exponent)
  else none

/-- The shortest decimal of a positive finite number, as digits and the exponent of
their last one. -/
def shortest (mantissa : Nat) (exponent : Int) : Nat × Int :=
  let (numerator, denominator) :=
    if exponent < 0 then (mantissa, Nat.pow 2 exponent.natAbs)
    else (mantissa * Nat.pow 2 exponent.natAbs, 1)
  let x := finite false mantissa exponent
  ((List.range 17).findSome? fun count => readBack? x numerator denominator (count + 1)).getD
    (mantissa, 0)

/-- Drops the zeros at the end of a row of digits, but not the first digit. -/
def dropZeros (digits : Text) : Text :=
  match digits with
  | [] => []
  | first :: rest => first :: (rest.reverse.dropWhile (· = '0')).reverse

/-- Writes digits whose leading one has the given exponent of ten. -/
def writeDigits (digits : Text) (leading : Int) : Text :=
  if -4 ≤ leading ∧ leading < 16 then
    if leading < 0 then
      "0." ++ List.replicate (leading.natAbs - 1) '0' ++ digits
    else
      let whole := Text.fillRight '0' (leading.toNat + 1) (digits.take (leading.toNat + 1))
      let fraction := digits.drop (leading.toNat + 1)
      whole ++ '.' :: (if fraction.isEmpty then "0" else fraction)
  else
    let fraction := digits.drop 1
    let mark : Text := if leading < 0 then "e-" else "e+"
    digits.take 1 ++ (if fraction.isEmpty then [] else '.' :: fraction) ++ mark
      ++ paddedNumeral 2 leading.natAbs

/-- The shortest text of a floating-point number. -/
def text : Binary64 → Text
  | nan => "nan"
  | infinite negative => if negative then "-inf" else "inf"
  | finite negative mantissa exponent =>
      let magnitude : Text :=
        if mantissa = 0 then "0.0"
        else
          let (digits, last) := shortest mantissa exponent
          let row := numeral digits
          writeDigits (dropZeros row) (last + (row.length - 1 : Nat))
      if negative then '-' :: magnitude else magnitude

end PanelClock.Binary64
