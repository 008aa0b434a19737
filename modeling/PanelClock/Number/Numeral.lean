import PanelClock.Text.Basic

/-!
# Decimal numerals

Numbers are written in ASCII digits without a sign, padded on the left with zeros
where a width is asked for; padding never cuts.
-/

set_option autoImplicit false

namespace PanelClock

/-- The decimal digits of a number, without leading zeros; zero is one digit. -/
def numeral (n : Nat) : Text := Nat.toDigits 10 n

/-- A numeral of at least the given width. -/
def paddedNumeral (width n : Nat) : Text := (numeral n).fillLeft '0' width

/-- A numeral with a minus sign for negative numbers. -/
def signedNumeral (n : Int) : Text :=
  if n < 0 then '-' :: numeral n.natAbs else numeral n.natAbs

/-- The number that a row of decimal digits denotes. -/
def numeralValue (digits : Text) : Nat := Nat.ofDigitChars 10 digits 0

theorem numeralValue_numeral (n : Nat) : numeralValue (numeral n) = n :=
  Nat.ofDigitChars_toDigits (by decide) (by decide)

theorem isDigit_of_mem_numeral {n : Nat} {c : Char} (h : c ∈ numeral n) : c.isDigit = true :=
  Nat.isDigit_of_mem_toDigits (by decide) (by decide) h

/-! ## Padding -/

theorem paddedNumeral_eq (width n : Nat) :
    paddedNumeral width n = List.replicate (width - (numeral n).length) '0' ++ numeral n :=
  rfl

theorem isDigit_of_mem_paddedNumeral {width n : Nat} {c : Char}
    (member : c ∈ paddedNumeral width n) : c.isDigit = true := by
  rcases List.mem_append.mp member with zero | digit
  · rw [List.eq_of_mem_replicate zero]
    rfl
  · exact isDigit_of_mem_numeral digit

theorem length_paddedNumeral (width n : Nat) :
    (paddedNumeral width n).length = max width (numeral n).length :=
  List.length_leftpad

/-- Zeros in front of a numeral say nothing about the number. -/
theorem numeralValue_paddedNumeral (width n : Nat) :
    numeralValue (paddedNumeral width n) = n := by
  rw [numeralValue, paddedNumeral_eq, Nat.ofDigitChars_append, Nat.ofDigitChars_replicate_zero,
    Nat.mul_zero]
  exact numeralValue_numeral n

/-- Padding a numeral again pads it to the larger width. -/
theorem fillLeft_paddedNumeral {first width : Nat} (wider : first ≤ width) (n : Nat) :
    (paddedNumeral first n).fillLeft '0' width = paddedNumeral width n := by
  have digits : width - max first (numeral n).length + (first - (numeral n).length) =
      width - (numeral n).length := by
    omega
  rw [Text.fillLeft, List.leftpad, length_paddedNumeral, paddedNumeral_eq, ← List.append_assoc,
    List.replicate_append_replicate, digits]
  rfl

theorem paddedNumeral_ne_nil (width n : Nat) : paddedNumeral width n ≠ [] := by
  rw [paddedNumeral_eq]
  exact List.append_ne_nil_of_right_ne_nil _ Nat.toDigits_ne_nil

/-- The last digit of a padded numeral stands after the padded numeral of the other digits. -/
theorem paddedNumeral_succ {width : Nat} (positive : 0 < width) (n : Nat) :
    paddedNumeral (width + 1) n = paddedNumeral width (n / 10) ++ [Nat.digitChar (n % 10)] := by
  rw [paddedNumeral_eq, paddedNumeral_eq]
  rcases Nat.lt_or_ge n 10 with single | several
  · have zeros : List.replicate width '0' = List.replicate (width - 1) '0' ++ ['0'] := by
      rw [← List.replicate_succ', Nat.sub_add_cancel positive]
    rw [Nat.div_eq_of_lt single, Nat.mod_eq_of_lt single, numeral, numeral,
      Nat.toDigits_of_lt_base single, Nat.toDigits_zero]
    exact congrArg (· ++ [Nat.digitChar n]) zeros
  · have last : numeral n = numeral (n / 10) ++ [Nat.digitChar (n % 10)] :=
      Nat.toDigits_of_base_le (by decide) several
    rw [last, List.length_append, List.length_singleton, Nat.add_sub_add_right, List.append_assoc]

end PanelClock
