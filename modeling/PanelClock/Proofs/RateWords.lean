import PanelClock.Proofs.UpdateRates

/-!
# Rates in words

The rate of an update level and the words for it are found by two functions, each of which divides
the numbers into ranges of its own.  The rate changes its form at 0 and at 8, the words at 0 and
at 1.  Words and rate belong together when each of the three texts stands for exactly those rates
that it describes (`Describes`).

Between 0 and 1 they do not: the rate is less than once in a second, and the words are those of
level 1.  Everywhere else they do (`describes_iff`).  The proof has to keep the intervals on both
sides of level 1 apart from a second, in spite of rounding.  No floating-point number is nearer to
1 than `2 ^ (-52)` from above or `2 ^ (-53)` from below, and the quotients that belong to these
two neighbours are further from 1000 than rounding moves them.
-/

set_option autoImplicit false

namespace PanelClock

namespace Binary64

/-! ## The neighbours of 1 -/

/-- A number is a multiple of a place, or it has less than the 53 bits of a number that ends at
that place. -/
theorem lt_or_exists_multiple {mantissa : ℕ} (short : mantissa < 2 ^ 53) (exponent : ℤ)
    (places : ℕ) :
    (mantissa * 2 ^ exponent : ℚ) < 2 ^ 52 / 2 ^ places ∨
      ∃ multiple : ℕ, (mantissa * 2 ^ exponent : ℚ) = multiple / 2 ^ places := by
  rcases lt_or_ge exponent (-places) with fine | coarse
  · have size : (mantissa : ℚ) < 2 ^ 53 := by exact_mod_cast short
    refine .inl ?_
    calc
      (mantissa * 2 ^ exponent : ℚ) ≤ mantissa * 2 ^ (-places - 1 : ℤ) := by
        gcongr
        · norm_num
        · omega
      _ < 2 ^ 53 * 2 ^ (-places - 1 : ℤ) := by gcongr
      _ = 2 ^ 52 / 2 ^ places := by
        rw [zpow_sub_one₀ two_ne_zero, zpow_neg, zpow_natCast]
        ring
  · obtain ⟨more, rfl⟩ : ∃ more : ℕ, exponent = more - places :=
      ⟨(exponent + places).toNat, by omega⟩
    refine .inr ⟨mantissa * 2 ^ more, ?_⟩
    rw [zpow_sub₀ two_ne_zero, zpow_natCast, zpow_natCast]
    push_cast
    ring

/-- What a positive level that is a floating-point number can be. -/
theorem exists_magnitude {number : Binary64} (fits : number.FitsMantissa) {level : ℚ}
    (denotes : number.toRat? = some level) (positive : 0 < level) :
    ∃ (mantissa : ℕ) (exponent : ℤ), mantissa < 2 ^ 53 ∧ level = mantissa * 2 ^ exponent := by
  cases number with
  | nan => cases denotes
  | infinite negative => cases denotes
  | finite negative mantissa exponent =>
      rw [toRat?_finite, Option.some.injEq] at denotes
      cases negative with
      | true =>
          have natural : (0 : ℚ) ≤ mantissa * 2 ^ exponent :=
            mul_nonneg (Nat.cast_nonneg _) (zpow_nonneg two_pos.le _)
          change -(mantissa * 2 ^ exponent : ℚ) = level at denotes
          linarith
      | false => exact ⟨mantissa, exponent, fits, denotes.symm⟩

variable {number : Binary64} {level : ℚ}

/-- A number above 1 is at least the next one. -/
theorem next_one_le (fits : number.FitsMantissa) (denotes : number.toRat? = some level)
    (above : 1 < level) : 1 + 1 / 2 ^ 52 ≤ level := by
  obtain ⟨mantissa, exponent, short, rfl⟩ :=
    exists_magnitude fits denotes (one_pos.trans above)
  rcases lt_or_exists_multiple short exponent 52 with small | ⟨multiple, same⟩
  · rw [div_self (by norm_num)] at small
    exact absurd above small.not_gt
  · rw [same] at above ⊢
    rw [one_lt_div (by norm_num)] at above
    have next : 2 ^ 52 + 1 ≤ multiple := Nat.succ_le_of_lt (by exact_mod_cast above)
    have next : (2 ^ 52 + 1 : ℚ) ≤ multiple := by exact_mod_cast next
    rw [le_div_iff₀ (by norm_num)]
    linarith

/-- A number below 1 is at most the one before. -/
theorem le_previous_one (fits : number.FitsMantissa) (denotes : number.toRat? = some level)
    (positive : 0 < level) (below : level < 1) : level ≤ 1 - 1 / 2 ^ 53 := by
  obtain ⟨mantissa, exponent, short, rfl⟩ := exists_magnitude fits denotes positive
  rcases lt_or_exists_multiple short exponent 53 with small | ⟨multiple, same⟩
  · norm_num at small ⊢
    linarith
  · rw [same] at below ⊢
    rw [div_lt_one (by norm_num)] at below
    have previous : multiple + 1 ≤ 2 ^ 53 := Nat.succ_le_of_lt (by exact_mod_cast below)
    have previous : (multiple + 1 : ℚ) ≤ 2 ^ 53 := by exact_mod_cast previous
    rw [div_le_iff₀ (by norm_num)]
    linarith

end Binary64

namespace UpdateLevel

/-! ## Intervals near a second -/

theorem thousand_lt_firstInfinite : (1000 : ℚ) < Binary64.firstInfinite := by
  have unit : (1 : ℚ) ≤ 2 ^ (971 : ℤ) := one_le_zpow₀ one_le_two (by decide)
  rw [Binary64.firstInfinite_eq]
  generalize (2 : ℚ) ^ (971 : ℤ) = place at unit ⊢
  linarith

/-- The interval of a level above 1 is shorter than a second. -/
theorem interval_lt_second {level : ℚ} (above : 1 + 1 / 2 ^ 52 ≤ level) (most : level ≤ 15) :
    ∃ interval, (Binary64.ofRat (1000 / level)).toRat? = some interval ∧ interval < 1000 := by
  have positive : 0 < level := by linarith
  have long : 1 ≤ 1000 / level := by
    rw [one_le_div positive]
    linarith
  have short : 1000 / level ≤ 1000 / (1 + 1 / 2 ^ 52) := by gcongr
  norm_num at short
  obtain ⟨interval, found, near⟩ := Binary64.ofRat_near (Binary64.one_normal.trans long)
    (lt_trans (by linarith) thousand_lt_firstInfinite)
  refine ⟨interval, found, ?_⟩
  have upper := (abs_le.mp near).2
  linarith

/-- The interval of a level between 0 and 1 is not a second. -/
theorem interval_ne_second {level : ℚ} (positive : 0 < level) (below : level ≤ 1 - 1 / 2 ^ 53) :
    (Binary64.ofRat (1000 / level)).toRat? ≠ some 1000 := by
  have long : 1000 / (1 - 1 / 2 ^ 53) ≤ 1000 / level := by gcongr
  intro second
  rcases Binary64.ofRat_cases (div_pos (by norm_num : (0 : ℚ) < 1000) positive) with
    ⟨-, infinity⟩ | ⟨-, interval, found, near⟩
  · rw [infinity] at second
    cases second
  · obtain rfl : interval = 1000 := Option.some.inj (found.symm.trans second)
    have lower := (abs_le.mp near).1
    generalize 1000 / level = x at long near lower
    norm_num at long
    rcases lt_or_ge x 1024 with sameBinade | above
    · -- Up to 1024 the last place is that of 1000, and rounding moves by at most half of it.
      have log : Int.log 2 x < 10 :=
        (Int.lt_zpow_iff_log_lt one_lt_two (by linarith)).mp (by norm_num; exact sameBinade)
      have place : Binary64.lastPlace x ≤ -43 := max_le (by omega) (by decide)
      have unit : (2 : ℚ) ^ Binary64.lastPlace x ≤ 2 ^ (-43 : ℤ) :=
        zpow_le_zpow_right₀ one_le_two place
      norm_num at unit
      linarith
    · have half := Binary64.half_lastPlace_le (Binary64.one_normal.trans (by linarith : 1 ≤ x))
      linarith

/-! ## Words for rates -/

/-- The words for a rate of more than once in a second, with the level in six digits. -/
def timesInSecond (level : ℚ) : Text := sixDigits level ++ " times in a second"

/-- Words describe the rate of a value: they say that it is once a minute exactly when it is, when
idle; that it is once in a second exactly when it is; and that it is as many times in a second as
the level says exactly when the interval is the quotient of a second by the level, as it is
computed, and shorter than a second.  They always say one of these. -/
def Describes (value : Value) (rate : UpdateRate) (text : Text) : Prop :=
  (text = "every minute" ↔
      rate.priority = .idle ∧ rate.intervalMs.toRat? = some 60000) ∧
    (text = "every second" ↔ rate.intervalMs.toRat? = some 1000) ∧
    ((∃ level, rational? value = some level ∧ text = timesInSecond level) ↔
      ∃ level, rational? value = some level ∧ rate.intervalMs = .ofRat (1000 / level) ∧
        ∃ interval, rate.intervalMs.toRat? = some interval ∧ interval < 1000) ∧
    (text = "every minute" ∨ text = "every second" ∨
      ∃ level, rational? value = some level ∧ text = timesInSecond level)

theorem timesInSecond_ne (level : ℚ) {text : Text} (short : text.length < 18) :
    timesInSecond level ≠ text := by
  rintro rfl
  rw [timesInSecond, List.length_append] at short
  exact absurd short (Nat.not_lt.mpr (Nat.le_add_left 18 _))

section Cases

variable {value : Value} {rate : UpdateRate}

theorem describes_minute (idle : rate.priority = .idle)
    (interval : rate.intervalMs.toRat? = some 60000) : Describes value rate "every minute" := by
  refine ⟨iff_of_true rfl ⟨idle, interval⟩, iff_of_false (by decide) ?_,
    iff_of_false ?_ ?_, .inl rfl⟩
  · rw [interval]
    norm_num
  · rintro ⟨level, -, same⟩
    exact timesInSecond_ne level (by decide) same.symm
  · rintro ⟨-, -, -, short, found, below⟩
    obtain rfl := Option.some.inj (interval.symm.trans found)
    norm_num at below

theorem describes_second (active : rate.priority ≠ .idle)
    (interval : rate.intervalMs.toRat? = some 1000) : Describes value rate "every second" := by
  refine ⟨iff_of_false (by decide) fun idle => active idle.1, iff_of_true rfl interval,
    iff_of_false ?_ ?_, .inr (.inl rfl)⟩
  · rintro ⟨level, -, same⟩
    exact timesInSecond_ne level (by decide) same.symm
  · rintro ⟨-, -, -, short, found, below⟩
    obtain rfl := Option.some.inj (interval.symm.trans found)
    exact lt_irrefl _ below

theorem describes_times {level : ℚ} (denotes : rational? value = some level)
    (active : rate.priority ≠ .idle) (interval : rate.intervalMs = .ofRat (1000 / level))
    (shorter : ∃ interval, rate.intervalMs.toRat? = some interval ∧ interval < 1000) :
    Describes value rate (timesInSecond level) := by
  refine ⟨iff_of_false (timesInSecond_ne level (by decide)) fun idle => active idle.1,
    iff_of_false (timesInSecond_ne level (by decide)) ?_,
    iff_of_true ⟨level, denotes, rfl⟩ ⟨level, denotes, interval, shorter⟩,
    .inr (.inr ⟨level, denotes, rfl⟩)⟩
  intro second
  obtain ⟨short, found, below⟩ := shorter
  obtain rfl := Option.some.inj (second.symm.trans found)
  exact lt_irrefl _ below

end Cases

/-- The words for a number that is no update level are those of level 1. -/
theorem wordsOfNumber_of_not_inRange {number : Binary64}
    (outside : ∀ level, number.toRat? = some level → ¬ InRange level) :
    wordsOfNumber number = "every second" := by
  rw [wordsOfNumber]
  cases denotes : number.toRat? with
  | none => rfl
  | some level =>
      have beyond := outside level denotes
      have not_times : ¬ (1 < level ∧ level ≤ 15) := by
        rintro ⟨above, most⟩
        exact beyond ⟨by linarith, most⟩
      dsimp only
      rw [if_neg (ne_zero_of_not_inRange beyond)]
      split
      · rfl
      · exact if_neg not_times

/-- The words for an update level. -/
theorem wordsOfNumber_of_denotes {number : Binary64} {level : ℚ}
    (read : number.toRat? = some level) :
    wordsOfNumber number =
      if level = 0 then ("every minute" : Text)
      else if level = 1 then "every second"
      else if 1 < level ∧ level ≤ 15 then timesInSecond level
      else "every second" := by
  rw [wordsOfNumber, read]
  rfl

/-- Words describe the rate of an update level unless it lies between 0 and 1. -/
theorem describes_level_iff {value : Value} {number : Binary64} (fits : number.FitsMantissa)
    {level : ℚ} (read : number.toRat? = some level) (denotes : rational? value = some level)
    (inRange : InRange level) :
    Describes value (rateOfNumber number) (wordsOfNumber number) ↔ ¬ (0 < level ∧ level < 1) := by
  have own := isOwnRate_rateOfNumber read inRange
  have interval := own.interval
  rw [wordsOfNumber_of_denotes read]
  rcases inRange.1.eq_or_lt with rfl | positive
  · rw [if_pos rfl] at interval ⊢
    refine iff_of_true (describes_minute (own.idle_iff.mpr rfl) ?_) (fun inside => inside.1.ne rfl)
    rw [interval]
    rfl
  · have active := mt own.idle_iff.mp positive.ne'
    rw [if_neg positive.ne'] at interval ⊢
    rcases lt_trichotomy level 1 with below | rfl | above
    · rw [if_neg below.ne, if_neg fun times => times.1.not_gt below]
      refine iff_of_false (fun describes => ?_) (not_not.mpr ⟨positive, below⟩)
      have second := describes.2.1.mp rfl
      rw [interval] at second
      exact interval_ne_second positive (Binary64.le_previous_one fits read positive below) second
    · rw [if_pos rfl]
      refine iff_of_true (describes_second active ?_) (fun inside => inside.2.ne rfl)
      rw [interval, div_one]
      rfl
    · rw [if_neg above.ne', if_pos ⟨above, inRange.2⟩]
      refine iff_of_true (describes_times denotes active interval ?_)
        (fun inside => inside.2.not_gt above)
      rw [interval]
      exact interval_lt_second (Binary64.next_one_le fits read above) inRange.2

/-- **Words describe the rate of a value exactly when it is no number between 0 and 1**, for every
value that has a rate and words. -/
theorem describes_iff {value : Value} (fits : value.FitsMantissa) {found : UpdateRate}
    {text : Text} (answered : rate value = .ok found) (worded : words value = .ok text) :
    Describes value found text ↔
      ¬ ∃ level, rational? value = some level ∧ 0 < level ∧ level < 1 := by
  have small : ¬ TooLarge value := by
    intro large
    rw [(refused_of_tooLarge large).1] at answered
    cases answered
  obtain ⟨number, answers, words, same, kept⟩ := exists_number small
  obtain rfl : rateOfNumber number = found := Except.ok.inj (answers.symm.trans answered)
  obtain rfl : wordsOfNumber number = text := Except.ok.inj (words.symm.trans worded)
  by_cases levels : ∃ level, rational? value = some level ∧ InRange level
  · obtain ⟨level, denotes, inRange⟩ := levels
    rw [describes_level_iff (kept fits) ((same level inRange).mpr denotes) denotes inRange,
      denotes]
    simp
  · have outside : ∀ level, number.toRat? = some level → ¬ InRange level :=
      fun level read inRange => levels ⟨level, (same level inRange).mp read, inRange⟩
    rw [rateOfNumber_of_not_inRange outside, wordsOfNumber_of_not_inRange outside]
    refine iff_of_true (describes_second (by decide) rfl) ?_
    rintro ⟨level, denotes, positive, below⟩
    exact levels ⟨level, denotes, positive.le, by linarith⟩

/-- The next number after 1 has an interval that is shorter than a second, and words that say so. -/
theorem describes_next_after_one :
    let level : Value := .float (.finite false (2 ^ 52 + 1) (-52))
    level.FitsMantissa ∧ ∃ found, rate level = .ok found ∧
      words level = .ok "1 times in a second" ∧ Describes level found "1 times in a second" := by
  intro level
  have fits : level.FitsMantissa := by
    show 2 ^ 52 + 1 < 2 ^ 53
    norm_num
  have worded : words level = .ok "1 times in a second" := by decide +kernel
  refine ⟨fits, _, rfl, worded, (describes_iff fits rfl worded).mpr ?_⟩
  rintro ⟨_, denotes, -, below⟩
  obtain rfl := Option.some.inj denotes
  exact absurd below (by decide +kernel)

/-- A level of a half has a rate of once in two seconds, and the words for once in a second. -/
theorem not_describes_half :
    ∃ found, rate (.float (.finite false 1 (-1))) = .ok found ∧
      words (.float (.finite false 1 (-1))) = .ok "every second" ∧
      found.intervalMs.toRat? = some 2000 ∧
      ¬ Describes (.float (.finite false 1 (-1))) found "every second" := by
  have interval : (rateOfNumber (.finite false 1 (-1))).intervalMs.toRat? = some 2000 := by
    decide +kernel
  refine ⟨rateOfNumber (.finite false 1 (-1)), rfl, rfl, interval, ?_⟩
  intro describes
  have second := describes.2.1.mp rfl
  rw [interval] at second
  norm_num at second

end UpdateLevel

end PanelClock
