import Mathlib.Algebra.Order.Field.Power
import Mathlib.Data.Int.Log
import Mathlib.Data.Rat.Floor
import Mathlib.Tactic.Linarith
import Mathlib.Tactic.Positivity
import PanelClock.Number.Binary64.Reader

/-!
# Rounding to floating-point numbers

A quotient is rounded in steps on natural numbers.  The lengths of its parts give the exponent of
the leading bit, the quotient is scaled so that its last place becomes the unit, the scaled
quotient is rounded to an integer, and a mantissa that has reached 54 bits is carried into one
place more.

Three facts say what comes of it.  The exponent is the binary logarithm of the quotient
(`leadingExponent_eq_log`).  The number that is found is at most half a unit of the last place
away from the quotient (`abs_roundedValue_sub_le`), hence by at most a factor of `2 ^ (-53)`
where the quotient is not tiny (`ofRat_near`).  And it is infinite exactly from the threshold on
that lies halfway between the largest finite number and the next power of two
(`greatestExponent_lt_iff`).  Integers of at most 53 bits are kept as they are (`ofInt_cases`).
-/

set_option autoImplicit false

namespace PanelClock

/-! ## Rounding a quotient to an integer -/

/-- A rounded quotient is the whole quotient, where at most half a divisor is left, or the next
number, where at least half a divisor is.  Of the two the even one is taken at exactly a half. -/
theorem roundQuotient_cases (numerator denominator : ℕ) :
    let whole := numerator / denominator
    let rest := numerator % denominator
    (roundQuotient numerator denominator = whole ∧ 2 * rest ≤ denominator ∧
        (2 * rest = denominator → whole % 2 = 0)) ∨
      (roundQuotient numerator denominator = whole + 1 ∧ denominator ≤ 2 * rest ∧
        (2 * rest = denominator → whole % 2 = 1)) := by
  intro whole rest
  simp only [roundQuotient]
  split
  · exact .inl ⟨rfl, by omega, by omega⟩
  · split
    · exact .inr ⟨rfl, by omega, by omega⟩
    · split
      · exact .inl ⟨rfl, by omega, by omega⟩
      · exact .inr ⟨rfl, by omega, by omega⟩

theorem roundQuotient_one (numerator : ℕ) : roundQuotient numerator 1 = numerator := by
  simp [roundQuotient, Nat.mod_one]

/-- A rounded quotient is at most half a divisor away. -/
theorem roundQuotient_bounds (numerator : ℕ) {denominator : ℕ} (positive : 0 < denominator) :
    2 * numerator ≤ denominator * (2 * roundQuotient numerator denominator + 1) ∧
      denominator * (2 * roundQuotient numerator denominator) ≤ 2 * numerator + denominator := by
  have parts := Nat.div_add_mod numerator denominator
  have below := Nat.mod_lt numerator positive
  rw [Nat.mul_add, Nat.mul_left_comm, Nat.mul_one]
  rcases roundQuotient_cases numerator denominator with ⟨down, rest, -⟩ | ⟨up, rest, -⟩
  · rw [down]
    constructor <;> omega
  · rw [up, Nat.mul_add, Nat.mul_one]
    constructor <;> omega

theorem abs_roundQuotient_sub_le (numerator : ℕ) {denominator : ℕ} (positive : 0 < denominator) :
    |(roundQuotient numerator denominator : ℚ) - numerator / denominator| ≤ 1 / 2 := by
  have size : (0 : ℚ) < denominator := by exact_mod_cast positive
  obtain ⟨above, below⟩ := roundQuotient_bounds numerator positive
  have above : (2 * numerator : ℚ) ≤
      denominator * (2 * roundQuotient numerator denominator + 1) := by
    exact_mod_cast above
  have below : (denominator * (2 * roundQuotient numerator denominator) : ℚ) ≤
      2 * numerator + denominator := by
    exact_mod_cast below
  have upper : (numerator / denominator : ℚ) ≤ roundQuotient numerator denominator + 1 / 2 := by
    rw [div_le_iff₀ size]
    linarith
  have lower : (roundQuotient numerator denominator - 1 / 2 : ℚ) ≤ numerator / denominator := by
    rw [le_div_iff₀ size]
    linarith
  rw [abs_le]
  constructor <;> linarith

/-- A quotient is rounded to an even number or above as soon as it is at most a half below. -/
theorem le_roundQuotient_iff {bound numerator denominator : ℕ} (even : bound % 2 = 0)
    (positive : 0 < denominator) :
    bound ≤ roundQuotient numerator denominator ↔
      (bound - 1 / 2 : ℚ) ≤ numerator / denominator := by
  have size : (0 : ℚ) < denominator := by exact_mod_cast positive
  have cleared : (bound - 1 / 2 : ℚ) ≤ numerator / denominator ↔
      denominator * (2 * bound) ≤ 2 * numerator + denominator := by
    rw [le_div_iff₀ size, ← Nat.cast_le (α := ℚ)]
    push_cast
    constructor <;> intro <;> linarith
  obtain ⟨above, below⟩ := roundQuotient_bounds numerator positive
  rw [cleared]
  constructor
  · intro reached
    exact (Nat.mul_le_mul_left denominator (Nat.mul_le_mul_left 2 reached)).trans below
  · intro near
    -- At worst the quotient is a half below the bound, which is then its even neighbour.
    by_contra missed
    have next : roundQuotient numerator denominator + 1 = bound := by
      have within : denominator * (2 * bound) ≤
          denominator * (2 * roundQuotient numerator denominator + 2) := by
        rw [Nat.mul_add] at above ⊢
        omega
      have := Nat.le_of_mul_le_mul_left within positive
      omega
    have parts := Nat.div_add_mod numerator denominator
    rw [← next, Nat.mul_left_comm, Nat.mul_add, Nat.mul_one] at near
    rcases roundQuotient_cases numerator denominator with ⟨down, rest, tie⟩ | ⟨up, rest, tie⟩
    · rw [down] at near next
      have := tie (by omega)
      omega
    · rw [up, Nat.mul_add denominator] at near
      have := Nat.mod_lt numerator positive
      omega

namespace Binary64

/-! ## What finite numbers denote -/

/-- A rational with a sign. -/
def signed (negative : Bool) (magnitude : ℚ) : ℚ := if negative then -magnitude else magnitude

theorem toRat?_finite (negative : Bool) (mantissa : ℕ) (exponent : ℤ) :
    (finite negative mantissa exponent).toRat? =
      some (signed negative (mantissa * 2 ^ exponent)) := by
  have magnitude : (if exponent < 0 then mkRat mantissa (Nat.pow 2 exponent.natAbs)
      else ((mantissa * Nat.pow 2 exponent.natAbs : ℕ) : ℚ)) = mantissa * 2 ^ exponent := by
    obtain ⟨size, rfl | rfl⟩ := exponent.eq_nat_or_neg
    · rw [if_neg (by omega), zpow_natCast]
      simp
    · rw [zpow_neg, zpow_natCast]
      split
      · simp [Rat.mkRat_eq_div, div_eq_mul_inv]
      · have zero : size = 0 := by omega
        simp [zero]
  rw [toRat?, magnitude]
  rfl

/-- The mantissa of a finite number has at most 53 bits. -/
def FitsMantissa : Binary64 → Prop
  | finite _ mantissa _ => mantissa < 2 ^ 53
  | _ => True

/-! ## The exponent of a quotient -/

theorem scaleDown_quotient (numerator denominator : ℕ) (shift : ℤ) :
    ((scaleDown numerator denominator shift).1 : ℚ) / (scaleDown numerator denominator shift).2 =
      numerator / denominator / 2 ^ shift := by
  unfold scaleDown
  obtain ⟨size, rfl | rfl⟩ := shift.eq_nat_or_neg
  · rw [if_neg (by omega), zpow_natCast]
    simp [div_div]
  · rw [zpow_neg, zpow_natCast, div_inv_eq_mul]
    split
    · simp [div_mul_eq_mul_div]
    · have zero : size = 0 := by omega
      simp [zero]

theorem scaleDown_positive (numerator : ℕ) {denominator : ℕ} (positive : 0 < denominator)
    (shift : ℤ) : 0 < (scaleDown numerator denominator shift).2 := by
  unfold scaleDown
  split
  · exact positive
  · exact Nat.mul_pos positive (Nat.pow_pos two_pos)

/-- A number lies between the powers of two that its length in bits gives. -/
theorem two_pow_log2_le {n : ℕ} (positive : 0 < n) :
    (2 : ℚ) ^ (n.log2 : ℤ) ≤ n ∧ (n : ℚ) < 2 ^ (n.log2 + 1 : ℤ) := by
  have nonzero : n ≠ 0 := by omega
  constructor
  · rw [zpow_natCast]
    exact_mod_cast Nat.log2_self_le nonzero
  · exact_mod_cast Nat.lt_log2_self (n := n)

/-- Between two neighbouring powers of two the binary logarithm is the lower exponent. -/
theorem log_eq_of_between {x : ℚ} {k : ℤ} (lower : 2 ^ k ≤ x) (upper : x < 2 ^ (k + 1)) :
    Int.log 2 x = k := by
  have positive : 0 < x := (zpow_pos two_pos k).trans_le lower
  have least : k ≤ Int.log 2 x := (Int.zpow_le_iff_le_log one_lt_two positive).mp lower
  have greatest : Int.log 2 x < k + 1 := (Int.lt_zpow_iff_log_lt one_lt_two positive).mp upper
  omega

/-- **The exponent that is found is the binary logarithm of the quotient.** -/
theorem leadingExponent_eq_log {numerator denominator : ℕ} (top : 0 < numerator)
    (bottom : 0 < denominator) :
    leadingExponent numerator denominator = Int.log 2 (numerator / denominator : ℚ) := by
  obtain ⟨topLower, topUpper⟩ := two_pow_log2_le top
  obtain ⟨bottomLower, bottomUpper⟩ := two_pow_log2_le bottom
  have size : (0 : ℚ) < denominator := by exact_mod_cast bottom
  generalize expected : (numerator.log2 : ℤ) - denominator.log2 = estimate
  -- The lengths leave two neighbouring powers of two above which the quotient can lie.
  have lower : 2 ^ (estimate - 1) ≤ (numerator / denominator : ℚ) := by
    rw [le_div_iff₀ size]
    calc
      (2 : ℚ) ^ (estimate - 1) * denominator
          ≤ 2 ^ (estimate - 1) * 2 ^ (denominator.log2 + 1 : ℤ) := by gcongr
      _ = 2 ^ (numerator.log2 : ℤ) := by rw [← zpow_add₀ two_ne_zero]; congr 1; omega
      _ ≤ numerator := topLower
  have upper : (numerator / denominator : ℚ) < 2 ^ (estimate + 1) := by
    rw [div_lt_iff₀ size]
    calc
      (numerator : ℚ) < 2 ^ (numerator.log2 + 1 : ℤ) := topUpper
      _ = 2 ^ (estimate + 1) * 2 ^ (denominator.log2 : ℤ) := by
        rw [← zpow_add₀ two_ne_zero]; congr 1; omega
      _ ≤ 2 ^ (estimate + 1) * denominator := by gcongr
  have decides : (scaleDown numerator denominator estimate).1 <
      (scaleDown numerator denominator estimate).2 ↔
      (numerator / denominator : ℚ) < 2 ^ estimate := by
    have scaled : (0 : ℚ) < (scaleDown numerator denominator estimate).2 := by
      exact_mod_cast scaleDown_positive numerator bottom estimate
    rw [← Nat.cast_lt (α := ℚ), ← div_lt_one₀ scaled, scaleDown_quotient,
      div_lt_one₀ (zpow_pos two_pos estimate)]
  have found : leadingExponent numerator denominator =
      if (scaleDown numerator denominator estimate).1 <
        (scaleDown numerator denominator estimate).2 then estimate - 1 else estimate := by
    rw [leadingExponent, expected]
  rw [found]
  split
  · next low =>
    exact (log_eq_of_between lower (by simpa using decides.mp low)).symm
  · next high =>
    exact (log_eq_of_between (not_lt.mp (mt decides.mpr high)) upper).symm

/-! ## The last place -/

/-- The exponent of the last place that is kept of a positive rational. -/
def lastPlace (x : ℚ) : ℤ := max (Int.log 2 x - 52) leastExponent

theorem lt_lastPlace (x : ℚ) : x < 2 ^ 53 * 2 ^ lastPlace x := by
  have place : Int.log 2 x + 1 ≤ 53 + lastPlace x := by
    have := le_max_left (Int.log 2 x - 52) leastExponent
    rw [lastPlace]
    omega
  calc
    x < 2 ^ (Int.log 2 x + 1) := Int.lt_zpow_succ_log_self one_lt_two x
    _ ≤ 2 ^ (53 + lastPlace x) := zpow_le_zpow_right₀ one_le_two place
    _ = 2 ^ 53 * 2 ^ lastPlace x := by rw [zpow_add₀ two_ne_zero]; rfl

/-- A last place above that of the smallest numbers is 52 places below the leading bit. -/
theorem le_of_lastPlace {x : ℚ} (positive : 0 < x) {k : ℤ} (normal : leastExponent < k)
    (place : k ≤ lastPlace x) : 2 ^ (k + 52) ≤ x := by
  have log : k + 52 ≤ Int.log 2 x := by
    rw [lastPlace, le_max_iff] at place
    omega
  exact (Int.zpow_le_iff_le_log one_lt_two positive).mpr log

/-- Numbers from 1 on are not tiny. -/
theorem one_normal : (2 : ℚ) ^ (-1022 : ℤ) ≤ 1 :=
  zpow_le_one_of_nonpos₀ one_le_two (by decide)

/-- Half a unit of the last place is a small part of a number that is not tiny. -/
theorem half_lastPlace_le {x : ℚ} (normal : 2 ^ (-1022 : ℤ) ≤ x) :
    2 ^ lastPlace x / 2 ≤ x / 2 ^ 53 := by
  have positive : 0 < x := (zpow_pos two_pos _).trans_le normal
  have log : -1022 ≤ Int.log 2 x := (Int.zpow_le_iff_le_log one_lt_two positive).mp normal
  have place : lastPlace x = Int.log 2 x - 52 := max_eq_left (by rw [leastExponent]; omega)
  calc
    (2 : ℚ) ^ lastPlace x / 2 = 2 ^ Int.log 2 x / 2 ^ 53 := by
      rw [place, zpow_sub₀ two_ne_zero, div_div]
      norm_num
    _ ≤ x / 2 ^ 53 := by
      gcongr
      exact Int.zpow_log_le_self one_lt_two positive

/-! ## Rounding a quotient to a number -/

/-- From here on rationals become infinite: halfway between the largest finite number and the
next power of two. -/
def firstInfinite : ℚ := 2 ^ 1024 - 2 ^ 970

theorem firstInfinite_eq : firstInfinite = (2 ^ 53 - 1 / 2) * 2 ^ (971 : ℤ) := by
  have upper : (2 : ℚ) ^ 1024 = 2 ^ 54 * 2 ^ 970 := by rw [← pow_add]
  have lower : (2 : ℚ) ^ (971 : ℤ) = 2 * 2 ^ 970 := by
    rw [← zpow_natCast, ← zpow_one_add₀ two_ne_zero]
    rfl
  rw [firstInfinite, upper, lower]
  generalize (2 : ℚ) ^ 970 = unit
  ring

/-- What is half a unit below 54 bits grows with its place. -/
theorem halfUnitBelow_mono {k l : ℤ} (le : k ≤ l) :
    (2 ^ 53 - 1 / 2 : ℚ) * 2 ^ k ≤ (2 ^ 53 - 1 / 2) * 2 ^ l := by
  gcongr
  norm_num

section Quotient

variable {numerator denominator : ℕ}

/-- The mantissa of a quotient in units of its last place. -/
def roundedMantissa (numerator denominator : ℕ) : ℕ :=
  let scaled := scaleDown numerator denominator (lastPlace (numerator / denominator))
  roundQuotient scaled.1 scaled.2

/-- The rational that a quotient is rounded to. -/
def roundedValue (numerator denominator : ℕ) : ℚ :=
  roundedMantissa numerator denominator * 2 ^ lastPlace (numerator / denominator)

/-- The mantissa and its place after the carry. -/
def carried (numerator denominator : ℕ) : ℕ × ℤ :=
  let place := lastPlace (numerator / denominator)
  if roundedMantissa numerator denominator = 2 ^ 53 then (2 ^ 52, place + 1)
  else (roundedMantissa numerator denominator, place)

/-- Rounding gives the carried mantissa at its place, if there are numbers of that place. -/
theorem ofQuotient_eq (negative : Bool) (top : 0 < numerator) (bottom : 0 < denominator) :
    ofQuotient negative numerator denominator =
      if greatestExponent < (carried numerator denominator).2 then infinite negative
      else finite negative (carried numerator denominator).1 (carried numerator denominator).2 := by
  have nonzero : numerator ≠ 0 := by omega
  rw [ofQuotient, if_neg nonzero, leadingExponent_eq_log top bottom]
  rfl

theorem abs_roundedMantissa_sub_le (numerator : ℕ) (bottom : 0 < denominator) :
    |(roundedMantissa numerator denominator : ℚ) -
      numerator / denominator / 2 ^ lastPlace (numerator / denominator)| ≤ 1 / 2 := by
  rw [← scaleDown_quotient]
  exact abs_roundQuotient_sub_le _ (scaleDown_positive numerator bottom _)

/-- **Rounding moves a quotient by at most half a unit of its last place.** -/
theorem abs_roundedValue_sub_le (numerator : ℕ) (bottom : 0 < denominator) :
    |roundedValue numerator denominator - numerator / denominator| ≤
      2 ^ lastPlace (numerator / denominator) / 2 := by
  have near := abs_roundedMantissa_sub_le numerator bottom
  rw [roundedValue]
  generalize (numerator / denominator : ℚ) = x at near ⊢
  have unit : (0 : ℚ) < 2 ^ lastPlace x := zpow_pos two_pos _
  calc
    |roundedMantissa numerator denominator * 2 ^ lastPlace x - x|
        = |roundedMantissa numerator denominator - x / 2 ^ lastPlace x| * 2 ^ lastPlace x := by
      rw [← abs_of_pos unit, ← abs_mul, abs_of_pos unit, sub_mul, div_mul_cancel₀ x unit.ne']
    _ ≤ 1 / 2 * 2 ^ lastPlace x := by gcongr
    _ = 2 ^ lastPlace x / 2 := by ring

theorem roundedMantissa_le (numerator : ℕ) (bottom : 0 < denominator) :
    roundedMantissa numerator denominator ≤ 2 ^ 53 := by
  have near := (abs_le.mp (abs_roundedMantissa_sub_le numerator bottom)).2
  have below : (numerator / denominator / 2 ^ lastPlace (numerator / denominator) : ℚ) < 2 ^ 53 :=
    (div_lt_iff₀ (zpow_pos two_pos _)).mpr (lt_lastPlace _)
  have close : (roundedMantissa numerator denominator : ℚ) < (2 ^ 53 + 1 : ℕ) := by
    push_cast
    linarith
  exact Nat.le_of_lt_succ (by exact_mod_cast close)

/-- A mantissa is rounded up to its bound from half a unit below it on. -/
theorem roundedMantissa_eq_iff (numerator : ℕ) (bottom : 0 < denominator) :
    roundedMantissa numerator denominator = 2 ^ 53 ↔
      (2 ^ 53 - 1 / 2) * 2 ^ lastPlace (numerator / denominator) ≤
        (numerator / denominator : ℚ) := by
  have reaches : 2 ^ 53 ≤ roundedMantissa numerator denominator ↔ _ :=
    le_roundQuotient_iff (by decide) (scaleDown_positive numerator bottom _)
  rw [scaleDown_quotient, le_div_iff₀ (zpow_pos two_pos _)] at reaches
  rw [← (roundedMantissa_le numerator bottom).ge_iff_eq, reaches]
  norm_num

/-- The carry does not change the rational. -/
theorem carried_value (numerator denominator : ℕ) :
    ((carried numerator denominator).1 * 2 ^ (carried numerator denominator).2 : ℚ) =
      roundedValue numerator denominator := by
  rw [carried, roundedValue]
  split
  · next carry =>
    rw [carry, zpow_add_one₀ two_ne_zero]
    push_cast
    ring
  · rfl

theorem carried_lt (numerator : ℕ) (bottom : 0 < denominator) :
    (carried numerator denominator).1 < 2 ^ 53 := by
  rw [carried]
  split
  · norm_num
  · next kept => exact (roundedMantissa_le numerator bottom).lt_of_ne kept

/-- **No place is left exactly from the threshold on.** -/
theorem greatestExponent_lt_iff (top : 0 < numerator) (bottom : 0 < denominator) :
    greatestExponent < (carried numerator denominator).2 ↔
      firstInfinite ≤ numerator / denominator := by
  have edge := roundedMantissa_eq_iff numerator bottom
  have positive : (0 : ℚ) < numerator / denominator := by positivity
  have within := lt_lastPlace (numerator / denominator)
  rw [carried, firstInfinite_eq, greatestExponent]
  generalize (numerator / denominator : ℚ) = x at *
  split
  · next carry =>
    constructor
    · intro large
      exact (halfUnitBelow_mono (Int.le_of_lt_add_one large)).trans (edge.mp carry)
    · intro reached
      by_contra small
      have place : lastPlace x ≤ 970 := Int.add_le_add_iff_right 1 |>.mp (not_lt.mp small)
      have below : x < (2 ^ 53 - 1 / 2) * 2 ^ (971 : ℤ) := calc
        x < 2 ^ 53 * 2 ^ lastPlace x := within
        _ ≤ 2 ^ 53 * 2 ^ (970 : ℤ) := by gcongr; norm_num
        _ < (2 ^ 53 - 1 / 2) * (2 ^ (970 : ℤ) * 2) := by
          have unit : (0 : ℚ) < 2 ^ (970 : ℤ) := zpow_pos two_pos _
          generalize (2 : ℚ) ^ (970 : ℤ) = place at unit ⊢
          linarith
        _ = (2 ^ 53 - 1 / 2) * 2 ^ (971 : ℤ) := by rw [← zpow_add_one₀ two_ne_zero]; rfl
      exact below.not_ge reached
  · next kept =>
    constructor
    · intro large
      calc
        (2 ^ 53 - 1 / 2 : ℚ) * 2 ^ (971 : ℤ) ≤ 2 ^ 53 * 2 ^ (971 : ℤ) := by gcongr; norm_num
        _ = 2 ^ (972 + 52 : ℤ) := by rw [← zpow_natCast, ← zpow_add₀ two_ne_zero]; rfl
        _ ≤ x := le_of_lastPlace positive (by decide) large
    · intro reached
      by_contra small
      have below : x < (2 ^ 53 - 1 / 2) * 2 ^ lastPlace x := not_le.mp (mt edge.mpr kept)
      exact (below.trans_le (halfUnitBelow_mono (not_lt.mp small))).not_ge reached

/-- From the threshold on a quotient becomes infinite. -/
theorem ofQuotient_of_threshold_le (negative : Bool) (top : 0 < numerator)
    (bottom : 0 < denominator) (large : firstInfinite ≤ numerator / denominator) :
    ofQuotient negative numerator denominator = infinite negative := by
  rw [ofQuotient_eq negative top bottom, if_pos ((greatestExponent_lt_iff top bottom).mpr large)]

/-- Below the threshold a quotient becomes a finite number. -/
theorem toRat?_ofQuotient (negative : Bool) (top : 0 < numerator) (bottom : 0 < denominator)
    (small : numerator / denominator < firstInfinite) :
    (ofQuotient negative numerator denominator).toRat? =
      some (signed negative (roundedValue numerator denominator)) := by
  have left : ¬ greatestExponent < (carried numerator denominator).2 :=
    mt (greatestExponent_lt_iff top bottom).mp (not_le.mpr small)
  rw [ofQuotient_eq negative top bottom, if_neg left, toRat?_finite, carried_value]

theorem fitsMantissa_ofQuotient (negative : Bool) (numerator : ℕ) (bottom : 0 < denominator) :
    (ofQuotient negative numerator denominator).FitsMantissa := by
  rcases Nat.eq_zero_or_pos numerator with rfl | top
  · rw [ofQuotient, if_pos rfl]
    exact Nat.two_pow_pos 53
  · rw [ofQuotient_eq negative top bottom]
    split
    · trivial
    · exact carried_lt numerator bottom

end Quotient

/-! ## Rounding rationals and integers -/

/-- A positive rational is rounded as the quotient of its parts. -/
theorem ofRat_cases {x : ℚ} (positive : 0 < x) :
    (firstInfinite ≤ x ∧ ofRat x = infinite false) ∨
      (x < firstInfinite ∧ ∃ value, (ofRat x).toRat? = some value ∧
        |value - x| ≤ 2 ^ lastPlace x / 2) := by
  have top : 0 < x.num.natAbs := Int.natAbs_pos.mpr (Rat.num_pos.mpr positive).ne'
  have parts : (x.num.natAbs / x.den : ℚ) = x := by
    rw [Nat.cast_natAbs, abs_of_pos (Rat.num_pos.mpr positive)]
    exact Rat.num_div_den x
  have sign : decide (x.num < 0) = false := decide_eq_false (Rat.num_pos.mpr positive).not_gt
  rw [ofRat, sign]
  rcases le_or_gt firstInfinite x with large | small
  · exact .inl ⟨large, ofQuotient_of_threshold_le false top x.pos (parts.symm ▸ large)⟩
  · have near := abs_roundedValue_sub_le x.num.natAbs x.pos
    rw [parts] at near
    exact .inr ⟨small, _, toRat?_ofQuotient false top x.pos (parts.symm ▸ small), near⟩

/-- **A rational that is neither tiny nor beyond the threshold is moved by at most a part of
`2 ^ (-53)`.** -/
theorem ofRat_near {x : ℚ} (normal : 2 ^ (-1022 : ℤ) ≤ x) (small : x < firstInfinite) :
    ∃ value, (ofRat x).toRat? = some value ∧ |value - x| ≤ x / 2 ^ 53 := by
  rcases ofRat_cases ((zpow_pos two_pos _).trans_le normal) with
    ⟨large, -⟩ | ⟨-, value, found, near⟩
  · exact absurd small large.not_gt
  · exact ⟨value, found, near.trans (half_lastPlace_le normal)⟩

/-- A number above zero, infinity included. -/
def IsPositive (number : Binary64) : Prop :=
  number = infinite false ∨ ∃ value, number.toRat? = some value ∧ 0 < value

/-- Rounding keeps a rational that is not tiny above zero. -/
theorem isPositive_ofRat {x : ℚ} (normal : 2 ^ (-1022 : ℤ) ≤ x) : (ofRat x).IsPositive := by
  have positive : 0 < x := (zpow_pos two_pos _).trans_le normal
  rcases ofRat_cases positive with ⟨-, infinity⟩ | ⟨-, value, found, near⟩
  · exact .inl infinity
  · refine .inr ⟨value, found, ?_⟩
    have lower := (abs_le.mp (near.trans (half_lastPlace_le normal))).1
    linarith

/-- Natural numbers of at most 53 bits are not moved. -/
theorem roundedValue_natural {n : ℕ} (positive : 0 < n) (small : n < 2 ^ 53) :
    roundedValue n 1 = n := by
  have log : Int.log 2 (n : ℚ) < 53 :=
    (Int.lt_zpow_iff_log_lt one_lt_two (by exact_mod_cast positive)).mp (by exact_mod_cast small)
  have quotient : (n / (1 : ℕ) : ℚ) = n := by rw [Nat.cast_one, div_one]
  have place : lastPlace n ≤ 0 := max_le (by omega) (by decide)
  have unscaled : (scaleDown n 1 (lastPlace n)).2 = 1 := by
    unfold scaleDown
    split
    · rfl
    · next natural =>
      have zero : lastPlace n = 0 := le_antisymm place (not_lt.mp natural)
      rw [zero]
      rfl
  have scaled := scaleDown_quotient n 1 (lastPlace n)
  rw [unscaled, quotient, Nat.cast_one, div_one] at scaled
  rw [roundedValue, roundedMantissa, quotient, unscaled, roundQuotient_one, scaled,
    div_mul_cancel₀ _ (zpow_pos two_pos _).ne']

theorem signed_natAbs (n : ℤ) : signed (n < 0) n.natAbs = n := by
  rw [Nat.cast_natAbs, signed]
  rcases lt_or_ge n 0 with negative | natural
  · simp [negative, abs_of_neg negative]
  · simp [natural.not_gt, abs_of_nonneg natural]

theorem abs_signed_sub (negative : Bool) (x y : ℚ) :
    |signed negative x - signed negative y| = |x - y| := by
  cases negative with
  | false => rfl
  | true =>
      rw [signed, signed, if_pos rfl, if_pos rfl, neg_sub_neg]
      exact abs_sub_comm y x

/-- Integers are rounded with their sign: from the threshold on they become infinite, and below
they are moved by at most a part of `2 ^ (-53)`, those of at most 53 bits not at all. -/
theorem ofInt_cases (n : ℤ) :
    (firstInfinite ≤ n.natAbs ∧ ofInt n = infinite (n < 0)) ∨
      (n.natAbs < firstInfinite ∧ ∃ value, (ofInt n).toRat? = some value ∧
        |value - n| ≤ n.natAbs / 2 ^ 53 ∧ (n.natAbs < 2 ^ 53 → value = n)) := by
  have quotient : (n.natAbs / (1 : ℕ) : ℚ) = n.natAbs := by rw [Nat.cast_one, div_one]
  rcases Nat.eq_zero_or_pos n.natAbs with zero | top
  · obtain rfl : n = 0 := Int.natAbs_eq_zero.mp zero
    have found : (ofInt 0).toRat? = some 0 := by
      show (finite false 0 leastExponent).toRat? = some 0
      rw [toRat?_finite]
      simp [signed]
    refine .inr ⟨?_, 0, found, by simp, fun _ => rfl⟩
    rw [firstInfinite_eq]
    norm_num
  · have normal : 2 ^ (-1022 : ℤ) ≤ (n.natAbs : ℚ) := one_normal.trans (by exact_mod_cast top)
    rw [ofInt]
    rcases le_or_gt firstInfinite n.natAbs with large | small
    · exact .inl ⟨large, ofQuotient_of_threshold_le _ top one_pos (quotient.symm ▸ large)⟩
    · refine .inr ⟨small, _, toRat?_ofQuotient _ top one_pos (quotient.symm ▸ small), ?_, ?_⟩
      · have near := abs_roundedValue_sub_le n.natAbs one_pos
        rw [quotient] at near
        conv_lhs => rw [← signed_natAbs n]
        rw [abs_signed_sub]
        exact near.trans (half_lastPlace_le normal)
      · intro short
        rw [roundedValue_natural top short, signed_natAbs]

/-! ## Numbers that are read -/

theorem decimalQuotient_positive (digits : ℕ) (exponent : ℤ) :
    0 < (decimalQuotient digits exponent).2 := by
  simp only [decimalQuotient]
  split
  · exact Nat.pow_pos (by decide)
  · exact one_pos

theorem fitsMantissa_ofDecimal (negative : Bool) (digits : ℕ) (exponent : ℤ) :
    (ofDecimal negative digits exponent).FitsMantissa := by
  simp only [ofDecimal]
  split_ifs
  · exact Nat.two_pow_pos 53
  · trivial
  · exact Nat.two_pow_pos 53
  · exact fitsMantissa_ofQuotient negative _ (decimalQuotient_positive digits exponent)

/-- **Every number that is read from a text fits.** -/
theorem fitsMantissa_ofText? {text : Text} {number : Binary64} (read : ofText? text = some number) :
    number.FitsMantissa := by
  simp only [ofText?] at read
  split_ifs at read
  · obtain rfl := Option.some.inj read
    trivial
  · obtain rfl := Option.some.inj read
    trivial
  · obtain ⟨⟨digits, exponent⟩, -, rfl⟩ := Option.map_eq_some_iff.mp read
    exact fitsMantissa_ofDecimal _ digits exponent

end Binary64

end PanelClock
