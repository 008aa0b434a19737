import PanelClock.Zone.Basic

/-!
# Moments that a zone covers

A zone covers the moments that lie in the years 1 to 9999 both in universal time and on the
clocks of the zone.  These are the moments for which it has a local time
(`Zone.localize_eq_error_iff`).

A time that comes with a zone does not need this: taken to its own zone it stays as it is.  So
two times of one moment lead to the same local time exactly when the moment lies in the
calendar, or when both come with the zone, or neither does (`Zone.convert_eq_convert_iff`).
-/

set_option autoImplicit false

namespace PanelClock

/-! ## The calendar -/

/-- A moment in the years 1 to 9999. -/
def Moment.InCalendar (moment : Moment) : Prop :=
  0 ≤ moment.micros ∧ moment.micros < (endOfTime : Nat)

instance (moment : Moment) : Decidable moment.InCalendar :=
  inferInstanceAs (Decidable (_ ∧ _))

/-- A zone covers the moments that lie in the years 1 to 9999 in universal time and on the
clocks of the zone. -/
structure Zone.Covers (zone : Zone) (moment : Moment) : Prop where
  universal : moment.InCalendar
  shown : (moment.shift (zone.observanceAt moment.seconds).offset).InCalendar

/-- The moments of the calendar, and no others, have a wall time. -/
theorem Moment.wallTime?_eq (moment : Moment) :
    moment.wallTime? = if moment.InCalendar then some ⟨moment.micros.toNat⟩ else none :=
  rfl

theorem Zone.covers_iff (zone : Zone) (moment : Moment) :
    zone.Covers moment ↔ moment.InCalendar ∧
      (moment.shift (zone.observanceAt moment.seconds).offset).InCalendar :=
  ⟨fun covers => ⟨covers.universal, covers.shown⟩, fun both => ⟨both.1, both.2⟩⟩

instance (zone : Zone) (moment : Moment) : Decidable (zone.Covers moment) :=
  decidable_of_iff _ (zone.covers_iff moment).symm

/-- **A zone has a local time for the moments that it covers, and for no other; what fails is
the range of the calendar.** -/
theorem Zone.localize_eq_error_iff (zone : Zone) (moment : Moment) (fault : Fault) :
    zone.localize moment = .error fault ↔ fault = .dateOutOfRange ∧ ¬ zone.Covers moment := by
  rw [covers_iff, localize, Moment.wallTime?_eq]
  by_cases universal : moment.InCalendar
  · simp only [if_pos universal, Moment.wallTime?_eq]
    by_cases shown : (moment.shift (zone.observanceAt moment.seconds).offset).InCalendar
    · simp [universal, shown]
    · simp [shown, eq_comm]
  · simp [universal, eq_comm]

/-- The last moment of the calendar is covered in universal time, and not one hour ahead of
it. -/
example : Zone.universal.Covers ⟨(endOfTime - 1 : Nat)⟩ ∧
    ¬ (Zone.ofOffset 3600).Covers ⟨(endOfTime - 1 : Nat)⟩ := by
  decide

/-! ## Times that come with a zone -/

/-- The clocks of a zone show a local time of the calendar: they observe at its moment what it
tells of them. -/
structure Zone.Shows (zone : Zone) (time : LocalTime) : Prop where
  inCalendar : time.wall.micros < endOfTime
  observed : zone.observanceAt time.moment.seconds = time.observance

/-- A time that comes with a zone is one that the clocks of the zone show, and not one that they
skip where they are put forward. -/
def ZonedTime.Genuine : ZonedTime → Prop
  | .atOffset _ _ => True
  | .inZone zone time => zone.Shows time

/-- A time that comes with a zone is a local time on the clocks of it. -/
theorem ZonedTime.exists_of_zone?_eq {zone : Zone} {time : ZonedTime}
    (own : time.zone? = some zone) : ∃ clock, time = .inZone zone clock := by
  cases time with
  | atOffset wall offset => cases own
  | inZone other clock =>
      obtain rfl : other = zone := Option.some.inj own
      exact ⟨clock, rfl⟩

/-- The clocks of a local time show its wall time at its moment. -/
theorem LocalTime.shift_moment (time : LocalTime) :
    time.moment.shift time.observance.offset = ⟨time.wall.micros⟩ := by
  simp only [moment, WallTime.atOffset, Moment.shift, Int.sub_add_cancel]

namespace Zone

variable {zone : Zone}

/-- What the clocks of a zone show is the local time at its moment, when that lies in the
calendar. -/
theorem Shows.localize_moment {time : LocalTime} (shows : zone.Shows time)
    (inCalendar : time.moment.InCalendar) : zone.localize time.moment = .ok time := by
  have wall : Moment.InCalendar ⟨time.wall.micros⟩ :=
    ⟨Int.natCast_nonneg _, Int.ofNat_lt.mpr shows.inCalendar⟩
  rw [localize, Moment.wallTime?_eq, if_pos inCalendar]
  simp only [shows.observed, time.shift_moment, Moment.wallTime?_eq, if_pos wall,
    Int.toNat_natCast]

/-- The clocks of a zone show one time at a moment. -/
theorem Shows.eq_of_moment_eq {time time' : LocalTime} (shows : zone.Shows time)
    (shows' : zone.Shows time') (same : time.moment = time'.moment) : time = time' := by
  have observance : time.observance = time'.observance := by
    rw [← shows.observed, same, shows'.observed]
  have shown : time.moment.shift time.observance.offset =
      time'.moment.shift time'.observance.offset := by
    rw [same, observance]
  rw [time.shift_moment, time'.shift_moment, Moment.mk.injEq, Int.ofNat_inj] at shown
  have wall : time.wall = time'.wall := congrArg WallTime.mk shown
  exact (LocalTime.mk.injEq ..).mpr ⟨wall, observance⟩

variable {time time' : ZonedTime}

/-- A time that comes with the zone stays as it is. -/
@[simp] theorem convert_own (clock : LocalTime) : zone.convert (.inZone zone clock) = .ok clock :=
  if_pos rfl

/-- A time that comes with no zone or with another one goes through universal time. -/
theorem convert_of_zone?_ne (other : time.zone? ≠ some zone) :
    zone.convert time = zone.localize time.moment := by
  cases time with
  | atOffset wall offset => rfl
  | inZone own time => exact if_neg fun same => other (congrArg some same)

/-- In the calendar it does not show with which zone a time comes. -/
theorem convert_of_inCalendar (genuine : time.Genuine) (inCalendar : time.moment.InCalendar) :
    zone.convert time = zone.localize time.moment := by
  by_cases own : time.zone? = some zone
  · obtain ⟨clock, rfl⟩ := ZonedTime.exists_of_zone?_eq own
    rw [convert_own]
    exact (Shows.localize_moment genuine inCalendar).symm
  · exact convert_of_zone?_ne own

/-- **A time cannot be taken to a zone exactly when it does not come with this zone and the zone
does not cover its moment.** -/
theorem convert_eq_error_iff (fault : Fault) :
    zone.convert time = .error fault ↔
      fault = .dateOutOfRange ∧ time.zone? ≠ some zone ∧ ¬ zone.Covers time.moment := by
  by_cases own : time.zone? = some zone
  · obtain ⟨clock, rfl⟩ := ZonedTime.exists_of_zone?_eq own
    simp [own]
  · rw [convert_of_zone?_ne own, localize_eq_error_iff]
    simp [own]

/-- **Two times of one moment have the same local time in a zone, or none, exactly when their
moment lies in the calendar, or when both or neither of them come with the zone.** -/
theorem convert_eq_convert_iff (genuine : time.Genuine) (genuine' : time'.Genuine)
    (same : time.moment = time'.moment) :
    zone.convert time = zone.convert time' ↔
      time.moment.InCalendar ∨ (time.zone? = some zone ↔ time'.zone? = some zone) := by
  constructor
  · intro equal
    refine Classical.or_iff_not_imp_left.mpr fun outside => ?_
    -- Outside the calendar a time has a local time in its own zone only.
    have uncovered : ¬ zone.Covers time.moment := fun covers => outside covers.universal
    have stands : zone.convert time = .error .dateOutOfRange ↔ ¬ time.zone? = some zone := by
      rw [convert_eq_error_iff]
      simp only [true_and, uncovered, not_false_iff, and_true]
    have stands' : zone.convert time' = .error .dateOutOfRange ↔ ¬ time'.zone? = some zone := by
      rw [convert_eq_error_iff, ← same]
      simp only [true_and, uncovered, not_false_iff, and_true]
    rw [← equal, stands] at stands'
    exact Decidable.not_iff_not.mp stands'
  · rintro (inCalendar | agree)
    · rw [convert_of_inCalendar genuine inCalendar, same,
        convert_of_inCalendar genuine' (same ▸ inCalendar)]
    · by_cases own : time.zone? = some zone
      · obtain ⟨clock, rfl⟩ := ZonedTime.exists_of_zone?_eq own
        obtain ⟨clock', rfl⟩ := ZonedTime.exists_of_zone?_eq (agree.mp own)
        rw [Shows.eq_of_moment_eq genuine genuine' same]
      · rw [convert_of_zone?_ne own, convert_of_zone?_ne (mt agree.mpr own), same]

end Zone

end PanelClock
