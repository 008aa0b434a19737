import PanelClock.Display.Schedule
import PanelClock.Proofs.Rounding

/-!
# Rates of update levels

An update level comes from outside and may be any value.  The levels from 0 to 15 have a rate of
their own, and every other value is meant to count as level 1.  Levels are compared and intervals
are computed in floating-point numbers, while what a level says is a matter of the exact number
that the value is (`rational?`).  The two agree in the range of levels: integers of this range are
kept when they become floating-point numbers, and no integer outside of it is rounded into it
(`exists_number`).

One kind of value has no rate.  An integer from `2 ^ 1024 - 2 ^ 970` on, with any sign, is near no
floating-point number, and it is refused instead of being taken for level 1.  All other values
have a rate and words for it, and the interval is always above zero (`hasCadence_iff`).
-/

set_option autoImplicit false

namespace PanelClock

/-- Where a value is a floating-point number, its mantissa has at most 53 bits, as that of every
number that is read has (`Binary64.fitsMantissa_ofText?`). -/
def Value.FitsMantissa : Value → Prop
  | .float number => number.FitsMantissa
  | _ => True

namespace UpdateLevel

/-! ## What a value says -/

/-- The exact number that a value is.  Truth values are no numbers, and neither are infinities. -/
def rational? : Value → Option ℚ
  | .integer value => some (value : ℚ)
  | .float number => number.toRat?
  | _ => none

/-- The numbers that are update levels. -/
def InRange (level : ℚ) : Prop := 0 ≤ level ∧ level ≤ 15

theorem ne_zero_of_not_inRange {level : ℚ} (outside : ¬ InRange level) : level ≠ 0 := by
  rintro rfl
  exact outside ⟨le_rfl, by norm_num⟩

/-- The integers that are near no floating-point number: from halfway between the largest of these
and the next power of two on. -/
def TooLarge : Value → Prop
  | .integer value => 2 ^ 1024 - 2 ^ 970 ≤ |value|
  | _ => False

/-! ## The number that a level is taken for -/

theorem tooLarge_iff (value : ℤ) :
    TooLarge (.integer value) ↔ Binary64.firstInfinite ≤ value.natAbs := by
  have cast : ((|value| : ℤ) : ℚ) = value.natAbs := by rw [Nat.cast_natAbs]
  rw [TooLarge, ← Int.cast_le (R := ℚ), cast, Int.cast_sub, Int.cast_pow, Int.cast_pow,
    Int.cast_ofNat]
  rfl

theorem number?_of_finite {value : ℤ} {rational : ℚ}
    (finite : (Binary64.ofInt value).toRat? = some rational) :
    number? (.integer value) = .ok (some (.ofInt value)) := by
  rw [number?]
  cases shape : Binary64.ofInt value with
  | nan => rfl
  | infinite negative =>
      rw [shape] at finite
      cases finite
  | finite negative mantissa exponent => rfl

/-- An integer that is too large is refused. -/
theorem number?_of_tooLarge {value : Value} (large : TooLarge value) :
    number? value = .error .numberTooLarge := by
  cases value with
  | integer value =>
      rcases Binary64.ofInt_cases value with ⟨-, infinity⟩ | ⟨small, -⟩
      · rw [number?, infinity]
      · exact absurd ((tooLarge_iff value).mp large) small.not_ge
  | _ => exact large.elim

/-- A rational so near to a large integer is no more an update level than the integer is. -/
theorem not_inRange_of_near {value : ℤ} {rational : ℚ} (large : 2 ^ 53 ≤ value.natAbs)
    (near : |rational - value| ≤ value.natAbs / 2 ^ 53) :
    ¬ InRange rational ∧ ¬ InRange value := by
  have size : (2 ^ 53 : ℚ) ≤ |(value : ℚ)| := by
    rw [← Int.cast_abs, ← Nat.cast_natAbs]
    exact_mod_cast large
  rw [Nat.cast_natAbs, Int.cast_abs] at near
  obtain ⟨lower, upper⟩ := abs_le.mp near
  unfold InRange
  rcases le_total (value : ℚ) 0 with negative | positive
  · rw [abs_of_nonpos negative] at *
    constructor <;> rintro ⟨natural, -⟩ <;> linarith
  · rw [abs_of_nonneg positive] at *
    constructor <;> rintro ⟨-, most⟩ <;> linarith

/-- **Every value that is not too large is taken for a floating-point number**, which is the same
update level as the value, or none as the value is none. -/
theorem exists_number {value : Value} (small : ¬ TooLarge value) :
    ∃ number, rate value = .ok (rateOfNumber number) ∧ words value = .ok (wordsOfNumber number) ∧
      (∀ level, InRange level → (number.toRat? = some level ↔ rational? value = some level)) ∧
      (value.FitsMantissa → number.FitsMantissa) := by
  cases value with
  | integer value =>
      rcases Binary64.ofInt_cases value with ⟨large, -⟩ | ⟨-, rational, found, near, kept⟩
      · exact absurd ((tooLarge_iff value).mpr large) small
      · have read := number?_of_finite found
        refine ⟨.ofInt value, by rw [rate, read]; rfl, by rw [words, read]; rfl, ?_, fun _ => ?_⟩
        · intro level inRange
          rw [found, rational?, Option.some.injEq, Option.some.injEq]
          rcases lt_or_ge value.natAbs (2 ^ 53) with short | long
          · rw [kept short]
          · obtain ⟨outside, outside'⟩ := not_inRange_of_near long near
            exact iff_of_false (fun same => outside (same ▸ inRange))
              fun same => outside' (same ▸ inRange)
        · exact Binary64.fitsMantissa_ofQuotient _ _ one_pos
  | float number =>
      refine ⟨number, ?_, ?_, fun _ _ => Iff.rfl, id⟩
      · cases number <;> rfl
      · cases number <;> rfl
  | _ => exact ⟨.nan, rfl, rfl, fun _ _ => ⟨nofun, nofun⟩, fun _ => trivial⟩

/-! ## The rate of a number -/

/-- The rate that a level has of its own: once a minute when idle for level 0, else that many times
in a second, urgently from level 8 on. -/
structure IsOwnRate (level : ℚ) (rate : UpdateRate) : Prop where
  denotes : rate.level.toRat? = some level
  interval : rate.intervalMs = .ofRat (if level = 0 then 60000 else 1000 / level)
  high_iff : rate.priority = .high ↔ 8 ≤ level
  idle_iff : rate.priority = .idle ↔ level = 0

theorem isOwnRate_rateOfNumber {number : Binary64} {level : ℚ}
    (denotes : number.toRat? = some level) (inRange : InRange level) :
    IsOwnRate level (rateOfNumber number) := by
  obtain ⟨least, most⟩ := inRange
  simp only [rateOfNumber, denotes]
  rcases least.eq_or_lt with zero | positive
  · rw [if_pos zero.symm]
    exact ⟨denotes, by rw [if_pos zero.symm]; rfl, by simp [← zero], by simp [← zero]⟩
  · rw [if_neg positive.ne']
    rcases lt_or_ge level 8 with slow | fast
    · rw [if_pos ⟨positive, slow⟩]
      exact ⟨denotes, by rw [if_neg positive.ne']; rfl, by simp [slow], by simp [positive.ne']⟩
    · rw [if_neg (fun slow => fast.not_gt slow.2), if_pos ⟨fast, most⟩]
      exact ⟨denotes, by rw [if_neg positive.ne']; rfl, by simp [fast], by simp [positive.ne']⟩

/-- A number that is no update level has the rate of level 1. -/
theorem rateOfNumber_of_not_inRange {number : Binary64}
    (outside : ∀ level, number.toRat? = some level → ¬ InRange level) :
    rateOfNumber number = standardRate := by
  rw [rateOfNumber]
  cases denotes : number.toRat? with
  | none => rfl
  | some level =>
      have beyond := outside level denotes
      have not_slow : ¬ (0 < level ∧ level < 8) := by
        rintro ⟨positive, slow⟩
        exact beyond ⟨positive.le, by linarith⟩
      have not_fast : ¬ (8 ≤ level ∧ level ≤ 15) := by
        rintro ⟨fast, most⟩
        exact beyond ⟨by linarith, most⟩
      exact (if_neg (ne_zero_of_not_inRange beyond)).trans
        ((if_neg not_slow).trans (if_neg not_fast))

theorem IsOwnRate.isPositive {level : ℚ} {rate : UpdateRate} (own : IsOwnRate level rate)
    (inRange : InRange level) : rate.intervalMs.IsPositive := by
  rw [own.interval]
  apply Binary64.isPositive_ofRat
  apply Binary64.one_normal.trans
  split
  · norm_num
  · next nonzero =>
    rw [one_le_div (inRange.1.lt_of_ne' nonzero)]
    linarith [inRange.2]

/-! ## The cadence of a value -/

/-- A value has a usable cadence: both functions answer, the rate is the level's own exactly when
the value is a number in the range of levels and that of level 1 for every other value, and the
interval is above zero. -/
def HasCadence (value : Value) : Prop :=
  ∃ found text, rate value = .ok found ∧ words value = .ok text ∧
    (∀ level, rational? value = some level → (IsOwnRate level found ↔ InRange level)) ∧
    ((∀ level, rational? value = some level → ¬ InRange level) →
      found = ⟨.ofInt 1, .default, .ofRat 1000⟩) ∧
    found.intervalMs.IsPositive

/-- What is too large has no cadence. -/
theorem refused_of_tooLarge {value : Value} (large : TooLarge value) :
    rate value = .error .numberTooLarge ∧ words value = .error .numberTooLarge := by
  rw [rate, words, number?_of_tooLarge large]
  exact ⟨rfl, rfl⟩

theorem hasCadence_of_small {value : Value} (small : ¬ TooLarge value) : HasCadence value := by
  obtain ⟨number, found, said, same, -⟩ := exists_number small
  refine ⟨_, _, found, said, ?_⟩
  by_cases levels : ∃ level, rational? value = some level ∧ InRange level
  · obtain ⟨level, denotes, inRange⟩ := levels
    have own := isOwnRate_rateOfNumber ((same level inRange).mpr denotes) inRange
    refine ⟨fun other denotes' => ?_, fun none => absurd inRange (none level denotes),
      own.isPositive inRange⟩
    obtain rfl : level = other := Option.some.inj (denotes.symm.trans denotes')
    exact iff_of_true own inRange
  · have outside : ∀ level, rational? value = some level → ¬ InRange level :=
      fun level denotes inRange => levels ⟨level, denotes, inRange⟩
    have standard : rateOfNumber number = standardRate := by
      apply rateOfNumber_of_not_inRange
      intro level denotes inRange
      exact outside level ((same level inRange).mp denotes) inRange
    have one : IsOwnRate 1 standardRate := ⟨rfl, by norm_num; rfl, by decide, by decide⟩
    rw [standard]
    refine ⟨fun level denotes => ?_, fun _ => rfl, one.isPositive ⟨by norm_num, by norm_num⟩⟩
    refine iff_of_false (fun own => ?_) (outside level denotes)
    -- The rate of level 1 shows that the level would be 1.
    obtain rfl : 1 = level := Option.some.inj (one.denotes.symm.trans own.denotes)
    exact outside 1 denotes ⟨by norm_num, by norm_num⟩

/-- **Every value has a usable cadence but for the integers that are too large**, which are
refused. -/
theorem hasCadence_iff (value : Value) :
    (HasCadence value ↔ ¬ TooLarge value) ∧
      (rate value = .error .numberTooLarge ↔ TooLarge value) ∧
      (words value = .error .numberTooLarge ↔ TooLarge value) := by
  by_cases large : TooLarge value
  · obtain ⟨noRate, noWords⟩ := refused_of_tooLarge large
    refine ⟨iff_of_false ?_ (not_not.mpr large), iff_of_true noRate large,
      iff_of_true noWords large⟩
    rintro ⟨found, -, answered, -⟩
    rw [noRate] at answered
    cases answered
  · obtain ⟨found, text, answered, said, -⟩ := hasCadence_of_small large
    refine ⟨iff_of_true (hasCadence_of_small large) large, iff_of_false ?_ large,
      iff_of_false ?_ large⟩
    · rw [answered]
      exact nofun
    · rw [said]
      exact nofun

/-- The smallest power of ten that is too large has no cadence. -/
theorem not_hasCadence_power_of_ten : ¬ HasCadence (.integer (10 ^ 309)) := by
  have large : TooLarge (.integer (10 ^ 309)) := by
    show (2 ^ 1024 - 2 ^ 970 : ℤ) ≤ |10 ^ 309|
    decide +kernel
  rintro ⟨found, -, answered, -⟩
  rw [(refused_of_tooLarge large).1] at answered
  cases answered

end UpdateLevel

end PanelClock
