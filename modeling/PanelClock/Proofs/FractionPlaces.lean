import Mathlib.Algebra.Group.Nat.Defs
import Mathlib.Data.Stream.Init
import PanelClock.Pattern.Arithmetic

/-!
# Places of a fraction

Cutting a row of digits rounds the number that it denotes down (`numeralValue_take`).  A row
behind a decimal point goes on with zeros without end (`decimalPlaces`), and a fraction is shown
by cutting it.  So a shorter fraction is the beginning of a longer one, and both are the same
number rounded down (`numeralValue_take_decimalPlaces`).

The fraction of a second is written in another way: the milliseconds are counted on from 1000,
the numeral is filled up only where more than three places are asked for, and the places are
cut out behind the 1.  Whatever the length, that is the row of the milliseconds in three digits,
cut (`fractionText_eq_take`), and all else that is said of the text comes from the row.
-/

set_option autoImplicit false

namespace PanelClock

/-! ## Rows of digits -/

theorem numeralValue_append (front back : Text) :
    numeralValue (front ++ back) = 10 ^ back.length * numeralValue front + numeralValue back := by
  rw [numeralValue, Nat.ofDigitChars_append, Nat.ofDigitChars_eq_ofDigitChars_zero]
  rfl

theorem numeralValue_append_zeros (digits : Text) (more : Nat) :
    numeralValue (digits ++ List.replicate more '0') = 10 ^ more * numeralValue digits := by
  rw [numeralValue, Nat.ofDigitChars_append, Nat.ofDigitChars_replicate_zero]
  rfl

theorem numeralValue_lt {digits : Text} (all : ∀ c ∈ digits, c.isDigit = true) :
    numeralValue digits < 10 ^ digits.length := by
  induction digits with
  | nil => decide
  | cons first rest ih =>
      have front : numeralValue [first] < 10 := by
        have upTo : first.toNat ≤ '9'.toNat :=
          (Char.isDigit_iff_toNat.mp (all first List.mem_cons_self)).2
        have value : numeralValue [first] = first.toNat - '0'.toNat := Nat.zero_add _
        rw [value]
        exact Nat.lt_succ_of_le (Nat.sub_le_sub_right upTo '0'.toNat)
      have later := ih fun c member => all c (List.mem_cons_of_mem first member)
      calc numeralValue (first :: rest)
          = 10 ^ rest.length * numeralValue [first] + numeralValue rest :=
            numeralValue_append [first] rest
        _ < 10 ^ rest.length * numeralValue [first] + 10 ^ rest.length :=
            Nat.add_lt_add_left later _
        _ = 10 ^ rest.length * (numeralValue [first] + 1) := rfl
        _ ≤ 10 ^ rest.length * 10 := Nat.mul_le_mul_left _ front

/-- Cutting a row of digits divides by a power of ten and rounds down. -/
theorem numeralValue_take {digits : Text} (all : ∀ c ∈ digits, c.isDigit = true) (kept : Nat) :
    numeralValue (digits.take kept) = numeralValue digits / 10 ^ (digits.length - kept) := by
  have dropped : numeralValue (digits.drop kept) < 10 ^ (digits.length - kept) := by
    rw [← List.length_drop]
    exact numeralValue_lt fun c member => all c (List.mem_of_mem_drop member)
  have parted : numeralValue digits =
      10 ^ (digits.length - kept) * numeralValue (digits.take kept) +
        numeralValue (digits.drop kept) := by
    rw [← List.length_drop, ← numeralValue_append, List.take_append_drop]
  rw [parted, Nat.mul_add_div (Nat.pow_pos (by decide)), Nat.div_eq_of_lt dropped, Nat.add_zero]

/-- A number counted on from a power of ten is written in all its places, zeros in front of it
included, after a 1. -/
theorem numeral_pow_add {width n : Nat} (positive : 0 < width) (small : n < 10 ^ width) :
    numeral (10 ^ width + n) = '1' :: paddedNumeral width n := by
  -- The last digit stands on its own on both sides, so the induction is on the other digits.
  induction positive generalizing n with
  | refl =>
      have single : n < 10 := small
      have alone : paddedNumeral 1 n = numeral n := by
        rw [paddedNumeral_eq, numeral, Nat.toDigits_of_lt_base single]
        rfl
      have behind : numeral 1 ++ numeral n = numeral (10 * 1 + n) :=
        Nat.toDigits_append_toDigits (by decide) (by decide) single
      rw [alone]
      exact behind.symm
  | @step width positive ih =>
      have few : n / 10 < 10 ^ width := by
        rw [Nat.pow_succ] at small
        omega
      have shorter : (10 ^ (width + 1) + n) / 10 = 10 ^ width + n / 10 := by
        rw [Nat.pow_succ]
        omega
      have last : (10 ^ (width + 1) + n) % 10 = n % 10 := by
        rw [Nat.pow_succ]
        omega
      have several : 10 ≤ 10 ^ (width + 1) + n :=
        Nat.le_trans (Nat.le_self_pow (Nat.succ_ne_zero width) 10) (Nat.le_add_right _ n)
      rw [numeral, Nat.toDigits_of_base_le (by decide) several, shorter, last,
        paddedNumeral_succ positive, ← List.cons_append, ← ih few]
      rfl

/-! ## Rows that go on with zeros -/

/-- The places behind a decimal point: the given digits, then zeros without end. -/
def decimalPlaces (digits : Text) : Stream' Char := digits ++ₛ Stream'.const '0'

section DecimalPlaces

variable {digits : Text}

theorem take_decimalPlaces_of_le {length : Nat} (short : length ≤ digits.length) :
    (decimalPlaces digits).take length = digits.take length :=
  Stream'.take_append_of_le_length _ _ _ short

theorem take_decimalPlaces_add (digits : Text) (more : Nat) :
    (decimalPlaces digits).take (digits.length + more) = digits ++ List.replicate more '0' := by
  have zeros : (Stream'.const '0').take more = List.replicate more '0' := by
    induction more with
    | zero => rfl
    | succ more ih => exact congrArg ('0' :: ·) ih
  rw [decimalPlaces, ← Stream'.append_take, zeros]

variable (all : ∀ c ∈ digits, c.isDigit = true)

include all

theorem isDigit_of_mem_take_decimalPlaces {length : Nat} {c : Char}
    (member : c ∈ (decimalPlaces digits).take length) : c.isDigit = true := by
  rcases Nat.le_total length digits.length with short | long
  · rw [take_decimalPlaces_of_le short] at member
    exact all c (List.mem_of_mem_take member)
  · obtain ⟨more, rfl⟩ := Nat.exists_eq_add_of_le long
    rw [take_decimalPlaces_add] at member
    rcases List.mem_append.mp member with digit | zero
    · exact all c digit
    · rw [List.eq_of_mem_replicate zero]
      rfl

/-- **Cutting the places rounds down.**  The places that are kept are the fraction times a power
of ten, less what does not fill the last place. -/
theorem numeralValue_take_decimalPlaces (length : Nat) :
    numeralValue ((decimalPlaces digits).take length) =
      numeralValue digits * 10 ^ length / 10 ^ digits.length := by
  rcases Nat.le_total length digits.length with short | long
  · have parted : 10 ^ digits.length = 10 ^ (digits.length - length) * 10 ^ length := by
      rw [← Nat.pow_add, Nat.sub_add_cancel short]
    rw [take_decimalPlaces_of_le short, numeralValue_take all, parted,
      Nat.mul_div_mul_right _ _ (Nat.pow_pos (by decide))]
  · obtain ⟨more, rfl⟩ := Nat.exists_eq_add_of_le long
    have scaled : numeralValue digits * 10 ^ (digits.length + more) =
        10 ^ digits.length * (10 ^ more * numeralValue digits) := by
      rw [Nat.pow_add, Nat.mul_comm, Nat.mul_assoc]
    rw [take_decimalPlaces_add, numeralValue_append_zeros, scaled,
      Nat.mul_div_cancel_left _ (Nat.pow_pos (by decide))]

end DecimalPlaces

/-! ## The fraction of a second -/

/-- The milliseconds of a second in three digits. -/
def millisecondDigits (wall : WallTime) : Text := paddedNumeral 3 (wall.microsecond / 1000)

theorem millisecond_lt (wall : WallTime) : wall.microsecond / 1000 < 10 ^ 3 := by
  have inSecond := wall.microsecond_lt
  unfold microsPerSecond at inSecond
  omega

theorem length_millisecondDigits (wall : WallTime) : (millisecondDigits wall).length = 3 := by
  have few : (numeral (wall.microsecond / 1000)).length ≤ 3 :=
    (Nat.length_toDigits_le_iff (by decide) (by decide)).mpr (millisecond_lt wall)
  rw [millisecondDigits, length_paddedNumeral, Nat.max_eq_left few]

theorem isDigit_of_mem_millisecondDigits {wall : WallTime} {c : Char}
    (member : c ∈ millisecondDigits wall) : c.isDigit = true :=
  isDigit_of_mem_paddedNumeral member

/-- **The fraction of a second is the row of its milliseconds, cut.** -/
theorem fractionText_eq_take (wall : WallTime) (length : Nat) :
    fractionText wall length = (decimalPlaces (millisecondDigits wall)).take length := by
  have counted : numeral (1000 + wall.microsecond / 1000) = '1' :: millisecondDigits wall :=
    numeral_pow_add (by decide) (millisecond_lt wall)
  have three := length_millisecondDigits wall
  have behind (row : Text) : (('1' :: row).take (length + 1)).drop 1 = row.take length := rfl
  rw [fractionText, counted]
  -- The 1 moves the end of the cut, and the length to fill up to, by one place.
  change ((if 3 < length then Text.fillRight '0' (length + 1) ('1' :: millisecondDigits wall)
    else '1' :: millisecondDigits wall).take (length + 1)).drop 1 = _
  rcases Nat.lt_or_ge 3 length with long | short
  · have row : millisecondDigits wall ++ List.replicate (length - 3) '0' =
        (decimalPlaces (millisecondDigits wall)).take length := by
      rw [← take_decimalPlaces_add, three, Nat.add_sub_cancel' (Nat.le_of_lt long)]
    have filled : Text.fillRight '0' (length + 1) ('1' :: millisecondDigits wall) =
        '1' :: (decimalPlaces (millisecondDigits wall)).take length := by
      rw [← row, Text.fillRight, List.rightpad, List.length_cons, three, Nat.add_sub_add_right]
      rfl
    rw [if_pos long, filled, behind, Stream'.take_take, Nat.min_self]
  · rw [if_neg (Nat.not_lt.mpr short), behind, take_decimalPlaces_of_le (three ▸ short)]

theorem numeralValue_fractionText (wall : WallTime) (length : Nat) :
    numeralValue (fractionText wall length) = wall.microsecond / 1000 * 10 ^ length / 1000 := by
  have digits : ∀ c ∈ millisecondDigits wall, c.isDigit = true :=
    fun _ => isDigit_of_mem_millisecondDigits
  have thousand : 10 ^ 3 = 1000 := rfl
  rw [fractionText_eq_take, numeralValue_take_decimalPlaces digits, length_millisecondDigits,
    thousand, millisecondDigits, numeralValue_paddedNumeral]

theorem numeralValue_fractionText_mono {first second : WallTime}
    (ordered : first.microsecond ≤ second.microsecond) (length : Nat) :
    numeralValue (fractionText first length) ≤ numeralValue (fractionText second length) := by
  rw [numeralValue_fractionText, numeralValue_fractionText]
  have counted : first.microsecond / 1000 ≤ second.microsecond / 1000 :=
    Nat.div_le_div_right ordered
  exact Nat.div_le_div_right (Nat.mul_le_mul_right (10 ^ length) counted)

theorem take_fractionText (wall : WallTime) {shorter length : Nat} (within : shorter ≤ length) :
    (fractionText wall length).take shorter = fractionText wall shorter := by
  rw [fractionText_eq_take, fractionText_eq_take, Stream'.take_take, Nat.min_eq_right within]

/-- **The fraction of a second is cut from one decimal expansion.**  In any length it is that
many digits, and they are the first ones of the milliseconds in three digits with zeros after
them.  So a shorter fraction is the beginning of a longer one.  As a number it is the thousandths
of the second times a power of ten, rounded down, and it does not fall while the microseconds
grow. -/
theorem fractionText_expands (wall : WallTime) (length : Nat) :
    (fractionText wall length).length = length ∧
      (∀ c ∈ fractionText wall length, c.isDigit = true) ∧
      fractionText wall length = (decimalPlaces (millisecondDigits wall)).take length ∧
      (∀ shorter ≤ length, fractionText wall shorter = (fractionText wall length).take shorter) ∧
      numeralValue (fractionText wall length) = wall.microsecond / 1000 * 10 ^ length / 1000 ∧
      ∀ other : WallTime, wall.microsecond ≤ other.microsecond →
        numeralValue (fractionText wall length) ≤ numeralValue (fractionText other length) := by
  refine ⟨?_, ?_, fractionText_eq_take wall length, ?_, numeralValue_fractionText wall length, ?_⟩
  · rw [fractionText_eq_take, Stream'.length_take]
  · intro c member
    rw [fractionText_eq_take] at member
    exact isDigit_of_mem_take_decimalPlaces (fun _ => isDigit_of_mem_millisecondDigits) member
  · intro shorter within
    exact (take_fractionText wall within).symm
  · intro other ordered
    exact numeralValue_fractionText_mono ordered length

/-- Of 69.999 milliseconds five places are 06900 and two of them are 06.  The last microsecond of
a second does not round up, and is no less. -/
theorem fractionText_expands_without_rounding :
    let wall : WallTime := .ofFields ⟨2024, 2, 29⟩ 12 0 7 69999
    let other : WallTime := .ofFields ⟨2024, 2, 28⟩ 23 59 59 999999
    2 ≤ 5 ∧ fractionText wall 2 = (fractionText wall 5).take 2 ∧
      fractionText wall 2 = "06" ∧ fractionText wall 5 = "06900" ∧
      wall.microsecond ≤ other.microsecond ∧
      numeralValue (fractionText wall 5) ≤ numeralValue (fractionText other 5) ∧
      fractionText other 5 = "99900" := by
  intro wall other
  have two : 2 ≤ 5 := by decide
  have ordered : wall.microsecond ≤ other.microsecond := by decide
  obtain ⟨-, -, -, beginning, -, grows⟩ := fractionText_expands wall 5
  exact ⟨two, beginning 2 two, by decide, by decide, ordered, grows other ordered, by decide⟩

end PanelClock
