import PanelClock.Number.Binary64.Shortest
import PanelClock.Text.Blank
import PanelClock.Text.Digit

/-!
# Reading floating-point numbers

The accepted texts are an optional sign followed by `nan`, `inf`, `infinity` in any case,
or by a decimal with an optional point and an optional exponent of ten.  The digits may be
those of any script, single underscores may stand between them, and blanks around the whole.
-/

set_option autoImplicit false

namespace PanelClock.Binary64

/-- Reads a row of digits with single underscores between them, and what follows. -/
def readDigits : Text → Text × Text
  | [] => ([], [])
  | c :: rest =>
      if c.isDigit then
        let (digits, after) := readDigits rest
        (c :: digits, after)
      else match c, rest with
        | '_', d :: _ =>
            if d.isDigit then readDigits rest else ([], c :: rest)
        | _, _ => ([], c :: rest)

/-- Reads digits at a place where an underscore may not stand. -/
def readNumber (text : Text) : Text × Text :=
  match text with
  | '_' :: _ => ([], text)
  | _ => readDigits text

/-- Splits off a sign. -/
def readSign : Text → Bool × Text
  | '-' :: rest => (true, rest)
  | '+' :: rest => (false, rest)
  | text => (false, text)

/-- Reads an optional exponent of ten that ends the text. -/
def readExponent? : Text → Option Int
  | [] => some 0
  | c :: rest =>
      if c = 'e' || c = 'E' then
        let (negative, rest) := readSign rest
        match readNumber rest with
        | ([], _) => none
        | (digits, []) =>
            let size : Int := numeralValue digits
            some (if negative then -size else size)
        | _ => none
      else none

/-- Reads an unsigned decimal as digits and the exponent of their last one. -/
def readDecimal? (text : Text) : Option (Nat × Int) :=
  let (whole, rest) := readNumber text
  let (fraction, rest) := match rest with
    | '.' :: more => readNumber more
    | _ => ([], rest)
  if whole.isEmpty && fraction.isEmpty then none
  else (readExponent? rest).map fun exponent =>
    (numeralValue (whole ++ fraction), exponent - fraction.length)

/-- The number of a decimal.  Exponents so large that the number is certainly infinite or
zero are decided without computing the power. -/
def ofDecimal (negative : Bool) (digits : Nat) (exponent : Int) : Binary64 :=
  let leading := exponent + (numeral digits).length
  if digits = 0 then finite negative 0 leastExponent
  else if 400 < leading then infinite negative
  else if leading < -400 then finite negative 0 leastExponent
  else
    let (numerator, denominator) := decimalQuotient digits exponent
    ofQuotient negative numerator denominator

/-- The number that a text denotes, none for other texts. -/
def ofText? (text : Text) : Option Binary64 :=
  let (negative, rest) := readSign (text.trim.map toAsciiDigit)
  let lower := rest.map Char.toLower
  if lower = "nan" then some nan
  else if lower = "inf" ∨ lower = "infinity" then some (infinite negative)
  else (readDecimal? rest).map fun (digits, exponent) => ofDecimal negative digits exponent

end PanelClock.Binary64
