import Mathlib.Data.Nat.Init
import PanelClock.Calendar.WallTime

/-!
# Years and dates

The days of a year are those from its first day up to the first day of the next year, and
`yearOfDay` finds the year by them (`yearOfDay_eq_iff`).  Both ways of counting run through
cycles of 400, 100 and 4 years: a year starts after the cycles before it
(`yearStart_cycles`), and a day lies in the cycles that it is taken apart into
(`exists_cycles`).  The last year of a cycle of 4 is a day longer, which is why the last
cycle of 100 years and the last year are cut off at three.

The date of a day tells its place in the year as a month and a day of the month, so the day
is found back from its date (`Date.toDay_ofDay`).
-/

set_option autoImplicit false

namespace PanelClock

/-! ## Years -/

/-- The number of days in a year. -/
def yearLength (year : Nat) : Nat := if isLeapYear year then 366 else 365

theorem isLeapYear_iff (year : Nat) :
    isLeapYear year ↔ 4 ∣ year ∧ (100 ∣ year → 400 ∣ year) := by
  simp only [isLeapYear, Bool.and_eq_true, Bool.or_eq_true, decide_eq_true_eq]
  omega

/-- A year ends where the next one starts. -/
theorem yearStart_succ {year : Nat} (positive : 1 ≤ year) :
    yearStart (year + 1) = yearStart year + yearLength year := by
  obtain ⟨before, rfl⟩ := Nat.exists_eq_add_of_le' positive
  simp only [yearStart, yearLength, isLeapYear_iff, Nat.add_sub_cancel]
  rw [Nat.succ_div, Nat.succ_div, Nat.succ_div]
  split <;> split <;> split <;> split <;> omega

theorem yearStart_mono {first second : Nat} (ordered : first ≤ second) :
    yearStart first ≤ yearStart second := by
  induction second, ordered using Nat.le_induction with
  | base => exact Nat.le_refl _
  | succ year _ ih =>
      have next : yearStart year ≤ yearStart (year + 1) := by
        simp only [yearStart]
        omega
      exact Nat.le_trans ih next

/-- A year starts after the cycles of 400, 100 and 4 years that lie before it. -/
theorem yearStart_cycles {centuries fours years : Nat} (cycles : Nat) (inCycle : centuries ≤ 3)
    (inCentury : fours ≤ 24) (inFour : years ≤ 3) :
    yearStart (400 * cycles + 100 * centuries + 4 * fours + years + 1) =
      146097 * cycles + 36524 * centuries + 1461 * fours + 365 * years := by
  simp only [yearStart, Nat.add_sub_cancel]
  omega

/-- **A day lies in the cycles before its year and in the days of that year.**  Only the last
year of a cycle of 4 years has a day 365, and only where the cycle is no last one of a
century, or the century is the last one. -/
theorem exists_cycles (day : Nat) : ∃ cycles centuries fours years rest,
    (centuries ≤ 3 ∧ fours ≤ 24 ∧ years ≤ 3) ∧
      yearOfDay day = 400 * cycles + 100 * centuries + 4 * fours + years + 1 ∧
      day = 146097 * cycles + 36524 * centuries + 1461 * fours + 365 * years + rest ∧
      (rest < 365 ∨ rest = 365 ∧ years = 3 ∧ (fours < 24 ∨ centuries = 3)) := by
  let inCycle := day % 146097
  let centuries := min (inCycle / 36524) 3
  let inCentury := inCycle - 36524 * centuries
  let fours := inCentury / 1461
  let inFour := inCentury % 1461
  let years := min (inFour / 365) 3
  have century : centuries ≤ 3 ∧ inCycle = 36524 * centuries + inCentury ∧
      (inCentury < 36524 ∨ inCentury = 36524 ∧ centuries = 3) := by omega
  have four : fours ≤ 24 ∧ inCentury = 1461 * fours + inFour ∧ inFour < 1461 := by omega
  have year : years ≤ 3 ∧ 365 * years ≤ inFour ∧
      (inFour < 365 * (years + 1) ∨ inFour = 1460 ∧ years = 3) := by omega
  refine ⟨day / 146097, centuries, fours, years, inFour - 365 * years,
    ⟨century.1, four.1, year.1⟩, rfl, ?_, ?_⟩
  · omega
  · omega

/-- **The year of a day is the one that starts before it and ends after it.** -/
theorem yearOfDay_spec (day : Nat) :
    yearStart (yearOfDay day) ≤ day ∧ day < yearStart (yearOfDay day + 1) := by
  obtain ⟨cycles, centuries, fours, years, rest, ⟨inCycle, inCentury, inFour⟩, year, place, last⟩ :=
    exists_cycles day
  have positive : 1 ≤ yearOfDay day := by omega
  have start : yearStart (yearOfDay day) =
      146097 * cycles + 36524 * centuries + 1461 * fours + 365 * years := by
    rw [year, yearStart_cycles cycles inCycle inCentury inFour]
  refine ⟨by omega, ?_⟩
  rw [yearStart_succ positive, start, yearLength]
  rcases last with early | ⟨rfl, rfl, inner⟩
  · split <;> omega
  · have leap : isLeapYear (yearOfDay day) := by
      refine (isLeapYear_iff _).mpr ⟨⟨100 * cycles + 25 * centuries + fours + 1, by omega⟩, ?_⟩
      rintro ⟨hundreds, multiple⟩
      exact ⟨cycles + 1, by omega⟩
    rw [if_pos leap]
    omega

theorem yearOfDay_eq_iff {day year : Nat} (positive : 1 ≤ year) :
    yearOfDay day = year ↔ yearStart year ≤ day ∧ day < yearStart (year + 1) := by
  constructor
  · rintro rfl
    exact yearOfDay_spec day
  · rintro ⟨low, high⟩
    obtain ⟨low', high'⟩ := yearOfDay_spec day
    -- Of two years that hold the day neither lies before the other.
    rcases Nat.lt_trichotomy (yearOfDay day) year with before | same | after
    · have ends : yearStart (yearOfDay day + 1) ≤ yearStart year := yearStart_mono before
      omega
    · exact same
    · have ends : yearStart (year + 1) ≤ yearStart (yearOfDay day) := yearStart_mono after
      omega

theorem yearOfDay_pos (day : Nat) : 1 ≤ yearOfDay day := by
  unfold yearOfDay
  exact Nat.le_add_left 1 _

/-- A day is in its year the number of days after the first one, and the year is longer. -/
theorem dayOfYear_spec (day : Nat) :
    yearStart (yearOfDay day) + dayOfYear day = day ∧
      dayOfYear day < yearLength (yearOfDay day) := by
  obtain ⟨low, high⟩ := yearOfDay_spec day
  rw [yearStart_succ (yearOfDay_pos day)] at high
  unfold dayOfYear
  omega

/-! ## Dates -/

/-- Running through months leaves the days after those that lie wholly before a day. -/
theorem monthsBefore_spec (lengths : List Nat) (day : Nat) :
    (lengths.take (monthsBefore lengths day).1).foldr (· + ·) 0 + (monthsBefore lengths day).2 =
      day := by
  induction lengths generalizing day with
  | nil => simp [monthsBefore]
  | cons length rest ih =>
      rw [monthsBefore]
      split
      · simp
      · next later =>
          have left := ih (day - length)
          simp only [List.take_succ_cons, List.foldr_cons]
          omega

/-- **A day is found back from its date.** -/
theorem Date.toDay_ofDay (day : Nat) : (Date.ofDay day).toDay = day := by
  have left := monthsBefore_spec (monthLengths (yearOfDay day)) (dayOfYear day)
  have place := (dayOfYear_spec day).1
  simp only [Date.toDay, Date.ofDay, Nat.add_sub_cancel]
  unfold dayOfYear at left place
  omega

/-- A day is the first of January exactly when it is the first day of its year. -/
theorem Date.ofDay_newYear_iff {day : Nat} :
    (Date.ofDay day).month = 1 ∧ (Date.ofDay day).day = 1 ↔ dayOfYear day = 0 := by
  constructor
  · rintro ⟨month, first⟩
    have place := Date.toDay_ofDay day
    have spec := (dayOfYear_spec day).1
    have year : (Date.ofDay day).year = yearOfDay day := rfl
    rw [Date.toDay, month, first, year] at place
    simp at place
    omega
  · intro first
    unfold dayOfYear at first
    simp [Date.ofDay, monthLengths, monthsBefore, first]

end PanelClock
