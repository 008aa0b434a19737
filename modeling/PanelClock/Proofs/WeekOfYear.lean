import Mathlib.Data.Int.ModEq
import PanelClock.Pattern.Arithmetic
import PanelClock.Proofs.Calendar

/-!
# Weeks of the year

The number of a week is computed in one division from the place of a day in its year and the
weekday that the year starts on.  Day by day the number is counted: it is 1 on the first of
January, and every later day of the year that falls on the first weekday adds 1
(`weekNumber_succ`).  What holds of the count follows from that step: it never falls within a
year, and it asks for the first weekday up to whole weeks only.
-/

set_option autoImplicit false

namespace PanelClock

/-! ## Counting through a year -/

section Counting

variable (firstOfYear : Nat) (firstWeekday : Int)

theorem weekNumber_zero : weekNumber firstOfYear firstWeekday 0 = 1 := by
  unfold weekNumber
  omega

/-- **A week starts with each day that falls on the first weekday.**  The days since the last
first weekday before the year are filled up to whole weeks. -/
theorem weekNumber_succ (day : Nat) :
    weekNumber firstOfYear firstWeekday (day + 1) =
      weekNumber firstOfYear firstWeekday day +
        if (firstOfYear : Int) + (day + 1) ≡ firstWeekday [ZMOD 7] then 1 else 0 := by
  unfold weekNumber
  by_cases starts : (firstOfYear : Int) + (day + 1) ≡ firstWeekday [ZMOD 7]
  · rw [if_pos starts]
    unfold Int.ModEq at starts
    omega
  · rw [if_neg starts]
    unfold Int.ModEq at starts
    omega

theorem weekNumber_mono : Monotone (weekNumber firstOfYear firstWeekday) := by
  refine monotone_nat_of_le_succ fun day => ?_
  rw [weekNumber_succ]
  exact Nat.le_add_right _ _

theorem weekNumber_le {day : Nat} (inYear : day < 366) :
    weekNumber firstOfYear firstWeekday day ≤ 54 := by
  unfold weekNumber
  omega

theorem weekNumber_congr {first second : Int} (same : first ≡ second [ZMOD 7]) (day : Nat) :
    weekNumber firstOfYear first day = weekNumber firstOfYear second day := by
  unfold weekNumber
  rw [Int.sub_emod, same, ← Int.sub_emod]

end Counting

/-! ## Weeks of a wall time -/

variable {wall before earlier : WallTime}

theorem weekOfYear_newYear (firstWeekday : Int)
    (newYear : wall.date.month = 1 ∧ wall.date.day = 1) : weekOfYear wall firstWeekday = 1 := by
  have first : wall.dayOfYear = 0 := Date.ofDay_newYear_iff.mp newYear
  rw [weekOfYear, first, weekNumber_zero]

/-- A wall time lies in its year the days of its place after the first one. -/
theorem WallTime.yearStart_add_dayOfYear (wall : WallTime) :
    yearStart wall.date.year + wall.dayOfYear = wall.dayNumber :=
  (dayOfYear_spec wall.dayNumber).1

/-- A day that is not the first of January comes after a day of the same year. -/
theorem WallTime.dayBefore (next : before.dayNumber + 1 = wall.dayNumber)
    (inside : ¬(wall.date.month = 1 ∧ wall.date.day = 1)) :
    before.date.year = wall.date.year ∧ before.dayOfYear + 1 = wall.dayOfYear := by
  have later : wall.dayOfYear ≠ 0 := fun first => inside (Date.ofDay_newYear_iff.mpr first)
  have place := wall.yearStart_add_dayOfYear
  have ends : wall.dayNumber < yearStart (wall.date.year + 1) :=
    (yearOfDay_spec wall.dayNumber).2
  have inYear : yearStart wall.date.year ≤ before.dayNumber ∧
      before.dayNumber < yearStart (wall.date.year + 1) := ⟨by omega, by omega⟩
  have year : before.date.year = wall.date.year :=
    (yearOfDay_eq_iff (yearOfDay_pos _)).mpr inYear
  have placeBefore := before.yearStart_add_dayOfYear
  rw [year] at placeBefore
  exact ⟨year, by omega⟩

/-- The weekday of a day is counted on from the weekday that its year starts on. -/
theorem WallTime.weekday_modEq (wall : WallTime) :
    (weekdayOfDay (yearStart wall.date.year) : Int) + wall.dayOfYear ≡ wall.weekday [ZMOD 7] := by
  have place := wall.yearStart_add_dayOfYear
  unfold WallTime.weekday weekdayOfDay Int.ModEq
  omega

theorem weekOfYear_next (firstWeekday : Int) (next : before.dayNumber + 1 = wall.dayNumber)
    (inside : ¬(wall.date.month = 1 ∧ wall.date.day = 1)) :
    weekOfYear wall firstWeekday = weekOfYear before firstWeekday +
      if (wall.weekday : Int) ≡ firstWeekday [ZMOD 7] then 1 else 0 := by
  obtain ⟨year, place⟩ := WallTime.dayBefore next inside
  have weekday := wall.weekday_modEq
  rw [← place, Nat.cast_succ] at weekday
  have starts : (weekdayOfDay (yearStart wall.date.year) : Int) + (before.dayOfYear + 1) ≡
      firstWeekday [ZMOD 7] ↔ (wall.weekday : Int) ≡ firstWeekday [ZMOD 7] :=
    ⟨weekday.symm.trans, weekday.trans⟩
  rw [weekOfYear, weekOfYear, year, ← place, weekNumber_succ]
  simp only [starts]

theorem weekOfYear_mono (firstWeekday : Int) (year : earlier.date.year = wall.date.year)
    (ordered : earlier.dayNumber ≤ wall.dayNumber) :
    weekOfYear earlier firstWeekday ≤ weekOfYear wall firstWeekday := by
  have place : earlier.dayOfYear ≤ wall.dayOfYear := by
    have place := wall.yearStart_add_dayOfYear
    have placeEarlier := earlier.yearStart_add_dayOfYear
    rw [year] at placeEarlier
    omega
  rw [weekOfYear, weekOfYear, year]
  exact weekNumber_mono _ _ place

theorem weekOfYear_bounds (wall : WallTime) (firstWeekday : Int) :
    1 ≤ weekOfYear wall firstWeekday ∧ weekOfYear wall firstWeekday ≤ 54 := by
  have inYear : wall.dayOfYear < 366 := by
    have short := (dayOfYear_spec wall.dayNumber).2
    unfold yearLength at short
    unfold WallTime.dayOfYear
    split at short <;> omega
  refine ⟨?_, weekNumber_le _ _ inYear⟩
  unfold weekOfYear weekNumber
  exact Nat.le_add_left 1 _

/-- **The week of the year advances exactly on the first weekday.**  It is 1 on the first of
January, and on every other day it is the week of the day before, which lies in the same year,
with 1 more where the day falls on the first weekday.  So it never falls within a year, asks
for the first weekday up to whole weeks only and lies between 1 and 54.  The field is that
number after zeros up to the length of the run. -/
theorem weekOfYear_advances (firstWeekday : Int) (wall : WallTime) :
    (wall.date.month = 1 ∧ wall.date.day = 1 → weekOfYear wall firstWeekday = 1) ∧
      (∀ before : WallTime, before.dayNumber + 1 = wall.dayNumber →
        ¬(wall.date.month = 1 ∧ wall.date.day = 1) →
          before.date.year = wall.date.year ∧
            weekOfYear wall firstWeekday = weekOfYear before firstWeekday +
              if (wall.weekday : Int) ≡ firstWeekday [ZMOD 7] then 1 else 0) ∧
      (∀ earlier : WallTime, earlier.date.year = wall.date.year →
        earlier.dayNumber ≤ wall.dayNumber →
          weekOfYear earlier firstWeekday ≤ weekOfYear wall firstWeekday) ∧
      (∀ other : Int, other ≡ firstWeekday [ZMOD 7] →
        weekOfYear wall other = weekOfYear wall firstWeekday) ∧
      (1 ≤ weekOfYear wall firstWeekday ∧ weekOfYear wall firstWeekday ≤ 54) ∧
      ∀ length, weekOfYearText firstWeekday wall length =
        List.replicate (length - (numeral (weekOfYear wall firstWeekday)).length) '0' ++
          numeral (weekOfYear wall firstWeekday) := by
  refine ⟨weekOfYear_newYear firstWeekday, ?_, ?_, ?_, weekOfYear_bounds wall firstWeekday, ?_⟩
  · intro before next inside
    exact ⟨(WallTime.dayBefore next inside).1, weekOfYear_next firstWeekday next inside⟩
  · intro earlier year ordered
    exact weekOfYear_mono firstWeekday year ordered
  · intro other same
    exact weekNumber_congr _ same _
  · intro length
    rfl

/-- The year 2000 starts on a Saturday, the last day of a week when weeks start on Sundays, and
ends on a Sunday, which is in week 54. -/
theorem weekOfYear_advances_of_2000 :
    weekOfYear (.ofFields ⟨2000, 1, 1⟩ 0 0 0 0) (-1) = 1 ∧
      weekOfYear (.ofFields ⟨2000, 12, 31⟩ 0 0 0 0) (-1) =
        weekOfYear (.ofFields ⟨2000, 12, 30⟩ 23 59 0 0) (-1) + 1 ∧
      weekOfYear (.ofFields ⟨2000, 1, 1⟩ 0 0 0 0) (-1) ≤
        weekOfYear (.ofFields ⟨2000, 12, 31⟩ 0 0 0 0) (-1) ∧
      weekOfYear (.ofFields ⟨2000, 12, 31⟩ 0 0 0 0) 6 =
        weekOfYear (.ofFields ⟨2000, 12, 31⟩ 0 0 0 0) (-1) ∧
      weekOfYear (.ofFields ⟨2000, 12, 31⟩ 0 0 0 0) 6 = 54 := by
  obtain ⟨newYear, -⟩ := weekOfYear_advances (-1) (.ofFields ⟨2000, 1, 1⟩ 0 0 0 0)
  obtain ⟨-, next, grows, weekday, -⟩ :=
    weekOfYear_advances (-1) (.ofFields ⟨2000, 12, 31⟩ 0 0 0 0)
  obtain ⟨-, week⟩ := next (.ofFields ⟨2000, 12, 30⟩ 23 59 0 0) (by decide) (by decide)
  rw [if_pos (by decide)] at week
  refine ⟨newYear (by decide), week, grows _ (by decide) (by decide), weekday 6 (by decide), ?_⟩
  decide

end PanelClock
