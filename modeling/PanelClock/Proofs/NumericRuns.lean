import PanelClock.Proofs.Caching

/-!
# Numeric runs

Some runs of field letters show numbers, and their length is the number of digits to fill
up to (`NumericRun`).  They are rendered along four ways: hours, minutes and seconds are
counted, days and years are fields of locale data, a year of five digits has a form of its
own, and weeks and milliseconds are computed.  Each way pads at its own place.

What a run should show is said from the time alone (`numericValue?`).  Whatever the way, the
text is the value in a numeral of at least the length of the run
(`FieldForm.exists_form_of_numericRun`).  So padding never cuts, and the number can be read
back (`RenderContext.numeric_runs_padded`).
-/

set_option autoImplicit false

namespace PanelClock

/-! ## What numeric runs show -/

/-- The letters of numeric runs, with the lengths in which they show a number padded to the
length: a year of two letters is cut to its last digits. -/
def NumericRun (letter : Char) (length : Nat) : Prop :=
  (letter ∈ ("dHhKkms" : Text) ∧ 1 ≤ length ∧ length ≤ 5) ∨
    (letter ∈ ("yYur" : Text) ∧ length ∈ [1, 3, 4, 5]) ∨
    (letter ∈ ("wA" : Text) ∧ 1 ≤ length)

instance (letter : Char) (length : Nat) : Decidable (NumericRun letter length) :=
  inferInstanceAs (Decidable (_ ∨ _ ∨ _))

theorem NumericRun.positive {letter : Char} {length : Nat} (numeric : NumericRun letter length) :
    1 ≤ length := by
  rcases numeric with ⟨-, positive, -⟩ | ⟨-, among⟩ | ⟨-, positive⟩
  · exact positive
  · have every : ∀ length ∈ [1, 3, 4, 5], 1 ≤ length := by decide
    exact every length among
  · exact positive

/-- The number that a letter shows of a wall time.  Hours count from 0 to 23 for `k`, from 1 to
24 for `H` with midnight last, and from 1 to 12 for `h` and `K`. -/
def numericValue? (firstWeekday : Int) (wall : WallTime) : Char → Option Nat
  | 'd' => some wall.date.day
  | 'k' => some wall.hour
  | 'H' => some ((wall.hour + 23) % 24 + 1)
  | 'h' | 'K' => some ((wall.hour + 11) % 12 + 1)
  | 'm' => some wall.minute
  | 's' => some wall.second
  | 'y' | 'Y' | 'u' | 'r' => some wall.date.year
  | 'w' => some (weekOfYear wall firstWeekday)
  | 'A' => some (wall.micros % microsPerDay / 1000)
  | _ => none

theorem hourAs_midnight_last {hour : Nat} (inDay : hour < 24) :
    hourAs 'H' hour = (hour + 23) % 24 + 1 := by
  rw [hourAs, if_pos rfl]
  split <;> omega

theorem hourAs_half_day {letter : Char} (half : letter = 'h' ∨ letter = 'K') {hour : Nat}
    (inDay : hour < 24) : hourAs letter hour = (hour + 11) % 12 + 1 := by
  have other : letter ≠ 'H' := by rcases half with rfl | rfl <;> decide
  rw [hourAs, if_neg other, if_pos half]
  split
  · omega
  · split <;> omega

/-- The milliseconds of the day are those since midnight. -/
theorem millisecondOfDay_eq (wall : WallTime) :
    millisecondOfDay wall = wall.micros % microsPerDay / 1000 := by
  simp only [millisecondOfDay, WallTime.secondOfDay, WallTime.microsecond, microsPerDay,
    microsPerSecond]
  omega

/-! ## The forms of numeric runs -/

namespace FieldForm

/-- The form of a numeric run whose letter has a rule. -/
def ofRuledNumber (letter : Char) (length : Nat) : FieldForm :=
  match letter with
  | 'd' => .named 'd' (min length 2) length
  | 'm' => .minute length
  | 's' => .second length
  | 'y' | 'Y' | 'u' | 'r' => if length = 5 then .longYear else .named 'y' 1 length
  | _ => .hour letter length

/-- The rules of letters lead to these forms. -/
theorem ofRule?_eq_ofRuledNumber (hasPlace : Bool) {letter : Char} {length : Nat}
    (numeric : NumericRun letter length) (ruled : letter ∈ ("dHhKkmsyYur" : Text))
    (short : length ≤ 5) :
    ofRule? hasPlace letter length = some (ofRuledNumber letter length) := by
  have every : ∀ hasPlace, ∀ letter ∈ ("dHhKkmsyYur" : Text), ∀ length < 6,
      NumericRun letter length →
        ofRule? hasPlace letter length = some (ofRuledNumber letter length) := by
    decide
  exact every hasPlace letter ruled length (by omega) numeric

/-- A number of locale data that is filled up to a length is padded to it, where it was written in
no more digits. -/
theorem padNumber_paddedNumeral {first width : Nat} (wider : first ≤ width) (n : Nat) :
    padNumber width (paddedNumeral first n) = paddedNumeral width n := by
  have digits : (paddedNumeral first n).all Char.isDigit = true :=
    List.all_eq_true.mpr fun c member => isDigit_of_mem_paddedNumeral member
  have some_digit : (paddedNumeral first n).isEmpty = false :=
    List.isEmpty_eq_false_iff.mpr (paddedNumeral_ne_nil first n)
  rw [padNumber, digits, some_digit]
  exact fillLeft_paddedNumeral wider n

/-- The form of a numeric run by a rule shows the number padded to the length of the run. -/
theorem text_ofRuledNumber {letter : Char} {length : Nat} (positive : 1 ≤ length)
    (ruled : letter ∈ ("dHhKkmsyYur" : Text)) (firstWeekday : Int) (names : LocaleNames)
    (zone : Zone) (time : LocalTime) :
    ∃ value, numericValue? firstWeekday time.wall letter = some value ∧
      (ofRuledNumber letter length).text names zone time = paddedNumeral length value := by
  have inDay := time.wall.hour_lt
  have year : (if length = 5 then longYear else named 'y' 1 length).text names zone time =
      paddedNumeral length time.wall.date.year := by
    split
    · next five => rw [five]; rfl
    · exact padNumber_paddedNumeral positive _
  have letters : letter = 'd' ∨ letter = 'H' ∨ letter = 'h' ∨ letter = 'K' ∨ letter = 'k' ∨
      letter = 'm' ∨ letter = 's' ∨ letter = 'y' ∨ letter = 'Y' ∨ letter = 'u' ∨ letter = 'r' := by
    simpa using ruled
  rcases letters with rfl | rfl | rfl | rfl | rfl | rfl | rfl | rfl | rfl | rfl | rfl
  · exact ⟨_, rfl, padNumber_paddedNumeral (Nat.min_le_left length 2) _⟩
  · exact ⟨_, rfl, congrArg (paddedNumeral length) (hourAs_midnight_last inDay)⟩
  · exact ⟨_, rfl, congrArg (paddedNumeral length) (hourAs_half_day (.inl rfl) inDay)⟩
  · exact ⟨_, rfl, congrArg (paddedNumeral length) (hourAs_half_day (.inr rfl) inDay)⟩
  · exact ⟨_, rfl, rfl⟩
  · exact ⟨_, rfl, rfl⟩
  · exact ⟨_, rfl, rfl⟩
  iterate 4 exact ⟨_, rfl, year⟩

/-- **A numeric run has a form, and its text is the number padded to the length of the run.** -/
theorem exists_form_of_numericRun {letter : Char} {length : Nat}
    (numeric : NumericRun letter length) (firstWeekday : Int) (hasPlace : Bool) :
    ∃ form, ofRun? firstWeekday hasPlace letter length = some form ∧
      ∀ names zone time, ∃ value, numericValue? firstWeekday time.wall letter = some value ∧
        form.text names zone time = paddedNumeral length value := by
  have byRule (ruled : letter ∈ ("dHhKkmsyYur" : Text)) (short : length ≤ 5) :
      ofRun? firstWeekday hasPlace letter length = some (ofRuledNumber letter length) := by
    rw [ofRun?, if_neg (by omega), ofRule?_eq_ofRuledNumber hasPlace numeric ruled short]
    rfl
  have positive := numeric.positive
  rcases numeric with ⟨clock, -, short⟩ | ⟨year, among⟩ | ⟨computed, -⟩
  · have ruled : letter ∈ ("dHhKkmsyYur" : Text) := List.mem_append_left "yYur".toList clock
    exact ⟨_, byRule ruled short, text_ofRuledNumber positive ruled firstWeekday⟩
  · have ruled : letter ∈ ("dHhKkmsyYur" : Text) := List.mem_append_right "dHhKkms".toList year
    have every : ∀ length ∈ [1, 3, 4, 5], length ≤ 5 := by decide
    exact ⟨_, byRule ruled (every length among), text_ofRuledNumber positive ruled firstWeekday⟩
  · have letters : letter = 'w' ∨ letter = 'A' := by simpa using computed
    rcases letters with rfl | rfl
    · refine ⟨.weekOfYear firstWeekday length, ?_, fun _ _ _ => ⟨_, rfl, rfl⟩⟩
      simp [ofRun?, ofRule?, ofArithmetic?]
    · refine ⟨.millisecondOfDay length, ?_, fun _ _ time => ⟨_, rfl, ?_⟩⟩
      · simp [ofRun?, ofRule?, ofArithmetic?, FieldRule.ofLetter?]
      · exact congrArg (paddedNumeral length) (millisecondOfDay_eq time.wall)

end FieldForm

namespace RenderContext

/-- **Numeric runs are padded, never cut.**  A run of `d`, `H`, `h`, `K`, `k`, `m` or `s` up to a
length of five, of `y`, `Y`, `u` or `r` up to five without two, or of `w` or `A` in any length
has a renderer.  At an instant that has a local time in the zone its text is ASCII digits, as
many as the run is long or more when the number has more, and they read as the number that
the letter shows of the local time. -/
theorem numeric_runs_padded (system : System) (context : RenderContext) {letter : Char}
    {length : Nat} (numeric : NumericRun letter length) {instant : Instant} {time : LocalTime}
    (converted : system.localTime context.zone instant = .ok time) :
    ∃ renderer value text,
      context.runRenderer? (Segment.specifier letter length) = some renderer ∧
        numericValue? context.firstWeekday time.wall letter = some value ∧
        renderer.text system context instant = .ok text ∧
        (∀ c ∈ text, c.isDigit = true) ∧
        text.length = max length (numeral value).length ∧
        numeralValue text = value := by
  obtain ⟨form, formed, shows⟩ := FieldForm.exists_form_of_numericRun numeric
    context.firstWeekday context.zone.key?.isSome
  obtain ⟨value, counted, text⟩ := shows context.locale.names context.zone time
  refine ⟨.single (.run (Segment.specifier letter length) form), value,
    paddedNumeral length value, ?_, counted, ?_, ?_, ?_, ?_⟩
  · rw [runRenderer?_specifier letter numeric.positive, fieldForm?, formed]
    rfl
  · rw [Renderer.text, RenderPart.text, converted, ← text]
    rfl
  · intro c member
    exact isDigit_of_mem_paddedNumeral member
  · exact length_paddedNumeral length value
  · exact numeralValue_paddedNumeral length value

/-- An hour before midnight in universal time it is midnight an hour ahead, which `HHH` shows
as 024. -/
theorem numeric_runs_padded_midnight :
    let context : RenderContext :=
      ⟨⟨{ language := "en" }, britishEnglish⟩, .ofOffset 3600, 6⟩
    let instant : Instant := .aware (.atOffset (.ofFields ⟨2023, 12, 31⟩ 23 0 0 0) 0)
    let time : LocalTime := ⟨.ofFields ⟨2024, 1, 1⟩ 0 0 0 0, ⟨3600, false, "UTC+01:00"⟩⟩
    NumericRun 'H' 3 ∧ System.standard.localTime context.zone instant = .ok time ∧
      ∃ renderer text, context.runRenderer? "HHH" = some renderer ∧
        renderer.text .standard context instant = .ok text ∧
        (∀ c ∈ text, c.isDigit = true) ∧ text.length = 3 ∧ numeralValue text = 24 := by
  intro context instant time
  have numeric : NumericRun 'H' 3 := by decide
  have converted : System.standard.localTime context.zone instant = .ok time := by
    decide +kernel
  obtain ⟨renderer, value, text, rendered, counted, shown, digits, length, read⟩ :=
    numeric_runs_padded .standard context numeric converted
  have midnight : numericValue? 6 time.wall 'H' = some 24 := by decide +kernel
  obtain rfl : 24 = value := Option.some.inj (midnight.symm.trans counted)
  exact ⟨numeric, converted, renderer, text, rendered, shown, digits, length, read⟩

end RenderContext

end PanelClock
