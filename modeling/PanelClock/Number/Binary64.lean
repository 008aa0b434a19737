/-!
# Binary floating-point numbers of 64 bits

A finite number is a sign, a mantissa below `2 ^ 53` and an exponent of two; it denotes
an exact rational.  An operation on finite numbers is the exact operation on rationals
followed by `ofRat`, which rounds to the nearest number and a tie to the even mantissa.
-/

set_option autoImplicit false

namespace PanelClock

/-- The quotient of two numbers rounded to the nearest integer, a tie to the even one. -/
def roundQuotient (numerator denominator : Nat) : Nat :=
  let quotient := numerator / denominator
  let rest := numerator % denominator
  if 2 * rest < denominator then quotient
  else if denominator < 2 * rest then quotient + 1
  else if quotient % 2 = 0 then quotient
  else quotient + 1

/-- A binary floating-point number of 64 bits. -/
inductive Binary64 where
  | nan
  | infinite (negative : Bool)
  /-- The number `± mantissa * 2 ^ exponent`; zero has both signs. -/
  | finite (negative : Bool) (mantissa : Nat) (exponent : Int)
  deriving DecidableEq, Repr

namespace Binary64

/-- The exponent of the smallest positive number. -/
def leastExponent : Int := -1074

/-- The exponent of the largest finite numbers. -/
def greatestExponent : Int := 971

/-- Zero with a positive sign. -/
def zero : Binary64 := finite false 0 leastExponent

/-- The quotient `numerator * 2 ^ (-shift) / denominator` as a pair of naturals. -/
def scaleDown (numerator denominator : Nat) (shift : Int) : Nat × Nat :=
  if shift < 0 then (numerator * Nat.pow 2 shift.natAbs, denominator)
  else (numerator, denominator * Nat.pow 2 shift.natAbs)

/-- The exponent of the leading bit of a positive quotient: the estimate from the
lengths of its parts is at most one too high. -/
def leadingExponent (numerator denominator : Nat) : Int :=
  let estimate := (numerator.log2 : Int) - denominator.log2
  let (top, bottom) := scaleDown numerator denominator estimate
  if top < bottom then estimate - 1 else estimate

/-- The number nearest to `± numerator / denominator`. -/
def ofQuotient (negative : Bool) (numerator denominator : Nat) : Binary64 :=
  if numerator = 0 then finite negative 0 leastExponent
  else
    let exponent := max (leadingExponent numerator denominator - 52) leastExponent
    let (top, bottom) := scaleDown numerator denominator exponent
    let mantissa := roundQuotient top bottom
    let (mantissa, exponent) :=
      if mantissa = Nat.pow 2 53 then (Nat.pow 2 52, exponent + 1) else (mantissa, exponent)
    if greatestExponent < exponent then infinite negative
    else finite negative mantissa exponent

/-- The number nearest to a rational. -/
def ofRat (value : Rat) : Binary64 := ofQuotient (value.num < 0) value.num.natAbs value.den

/-- The number nearest to an integer. -/
def ofInt (value : Int) : Binary64 := ofQuotient (value < 0) value.natAbs 1

/-- The rational that a finite number denotes. -/
def toRat? : Binary64 → Option Rat
  | nan => none
  | infinite _ => none
  | finite negative mantissa exponent =>
      let magnitude : Rat :=
        if exponent < 0 then mkRat mantissa (Nat.pow 2 exponent.natAbs)
        else (mantissa * Nat.pow 2 exponent.natAbs : Nat)
      some (if negative then -magnitude else magnitude)

end Binary64

/-- The rational that a quotient of rationals becomes when it is computed in 64 bits. -/
def nearestDouble (value : Rat) : Rat := ((Binary64.ofRat value).toRat?).getD value

end PanelClock
