import PanelClock.Proofs.ClockLabel
import PanelClock.Proofs.CoveredMoments
import PanelClock.Variant.Basic

/-!
# Ticks that fail

A tick goes on after every error of the clock, and ends early on any other fault.  A
formatter gives such a fault when it takes the instant to a zone before it starts to
render, the zone does not cover the moment (universal time or the wall time of the zone
leave the years 1 to 9999, `Zone.Covers`), and the instant does not come with this zone
anyway.  Beats and accepted token settings do so; a classic formatter takes the instant to
its zone while it renders, where a fault becomes an error of the clock
(`Formatter.unguardedZone?`).

That zone stays the same from tick to tick.  Hence a clock fails exactly at the times that
come without the zone of its formatter and whose moment this zone does not cover, and
otherwise never, whatever ticks came before; and no rendering that fails changes the text
(`Clock.tickAt_eq_error_iff`).
-/

set_option autoImplicit false

namespace PanelClock

/-! ## Faults that a formatter lets through -/

/-- **A pattern that prescribes its layout always has a renderer**, whatever a formatter has
kept. -/
theorem PatternFormatter.renderer_explicit (formatter : PatternFormatter) (explicit : Text) :
    ∃ found, (formatter.renderer (patternMarker :: explicit)).1 = .ok found := by
  unfold renderer Memo.requestPattern
  cases formatter.memo.patterns.find? (patternMarker :: explicit) with
  | some kept => exact ⟨kept, rfl⟩
  | none => exact ⟨_, rfl⟩

/-- No fault of a pattern that prescribes its layout gets past a pattern formatter. -/
theorem PatternFormatter.format_explicit_ne_escaped (formatter : PatternFormatter)
    (system : System) (explicit : Text) (instant : Instant) (fault : Fault) :
    (formatter.format system (patternMarker :: explicit) instant).1 ≠
      .error (.escaped fault) := by
  obtain ⟨found, result⟩ := formatter.renderer_explicit explicit
  unfold format
  cases requested : formatter.renderer (patternMarker :: explicit) with
  | mk answer later =>
      rw [requested] at result
      subst result
      cases found with
      | none => simp
      | some renderer =>
          cases text : renderer.text system formatter.context instant with
          | ok text => simp [text]
          | error fault => simp [text]

namespace Formatter

/-- The zone that a formatter takes an instant to before it starts to render. -/
def unguardedZone? : Formatter → Option Zone
  | token (.ready zone _) => some zone
  | beats => some beatsZone
  | _ => none

/-- **The zone that an instant is first taken to follows from the settings**: there is none for
classic patterns, that of beats for beats, and for token patterns the selected one when all
settings are accepted. -/
theorem unguardedZone?_of_configure? {system : System} {settings : FormatterSettings}
    {variant : Variant} {formatter : Formatter}
    (configured : variant.configure? system settings = some formatter) (zone : Zone) :
    formatter.unguardedZone? = some zone ↔
      (variant = .beats ∧ zone = beatsZone) ∨
        (variant = .token ∧ system.resolveZoneBy system.places settings.timeZone = .ok zone ∧
          (∃ name, TokenFormatter.selectLocale system settings.locale = .ok name) ∧
          TokenFormatter.checkCalendar settings.calendar = .ok ()) := by
  cases variant with
  | token =>
      cases configured
      have ready : (token (.configure system settings.timeZone settings.locale
          settings.calendar)).unguardedZone? = some zone ↔
          ∃ name, TokenFormatter.configure system settings.timeZone settings.locale
            settings.calendar = .ready zone name := by
        cases TokenFormatter.configure system settings.timeZone settings.locale
          settings.calendar <;> simp [unguardedZone?]
      refine ready.trans ?_
      simp [TokenFormatter.configure_eq_ready_iff]
  | beats =>
      cases configured
      simp [unguardedZone?, eq_comm]
  | classic | upper | recording =>
      cases configured
      simp [unguardedZone?]
  | plain => cases configured

/-- **The faults of taking a time to this zone, and no others, get past a formatter.** -/
theorem format_eq_escaped_iff (formatter : Formatter) (system : System) (pattern : Text)
    (time : ZonedTime) (fault : Fault) :
    (formatter.format system pattern (.aware time)).1 = .error (.escaped fault) ↔
      ∃ zone, formatter.unguardedZone? = some zone ∧ zone.convert time = .error fault := by
  cases formatter with
  | classic formatter =>
      cases formatter with
      | rejected cause => simp [format, Classic.format, unguardedZone?]
      | ready formatter =>
          have caught := formatter.format_explicit_ne_escaped system (expandNewlines pattern)
            (.aware time) fault
          simp [format, Classic.format, unguardedZone?, caught]
  | token formatter =>
      cases formatter with
      | rejected cause => simp [format, TokenFormatter.format, unguardedZone?]
      | ready zone name =>
          simp only [format, TokenFormatter.format, System.clockTime, unguardedZone?,
            Option.some.injEq, exists_eq_left']
          cases zone.convert time <;> simp
  | beats =>
      simp only [format, Beats.format, PanelClock.beats, System.localTime, unguardedZone?,
        Option.some.injEq, exists_eq_left', bind, Except.bind]
      cases beatsZone.convert time <;> simp [pure, Except.pure]
  | upper => simp [format, unguardedZone?]
  | recording settings => simp [format, unguardedZone?]

/-- Rendering changes nothing about the zone of a formatter. -/
@[simp] theorem unguardedZone?_format (formatter : Formatter) (system : System) (pattern : Text)
    (instant : Instant) :
    (formatter.format system pattern instant).2.unguardedZone? = formatter.unguardedZone? := by
  cases formatter with
  | classic formatter => rfl
  | token formatter => rfl
  | beats => rfl
  | upper => rfl
  | recording settings => rfl

end Formatter

/-! ## Ticks of a clock with a formatter -/

namespace Clock

variable (system : System) (clock : Clock Formatter)

/-- A tick at an instant, at which the formatter renders the pattern. -/
def tickAt (fallback : Text) (instant : Instant) : Except Fault TickEffects × Clock Formatter :=
  clock.tick fallback (clock.formatter.format system clock.pattern instant)

/-- The clock after ticks, each with its fallback and instant, also when some of them fail. -/
def afterTicks (ticks : List (Text × Instant)) : Clock Formatter :=
  ticks.foldl (fun clock tick => (clock.tickAt system tick.1 tick.2).2) clock

/-- A tick keeps the zone of the formatter. -/
theorem unguardedZone?_tickAt (fallback : Text) (instant : Instant) :
    (clock.tickAt system fallback instant).2.formatter.unguardedZone? =
      clock.formatter.unguardedZone? := by
  obtain ⟨formatter, -⟩ :=
    clock.tick_spec fallback (clock.formatter.format system clock.pattern instant)
  rw [tickAt, formatter, Formatter.unguardedZone?_format]

/-- **No ticks change the zone of the formatter.** -/
theorem unguardedZone?_afterTicks (ticks : List (Text × Instant)) :
    (clock.afterTicks system ticks).formatter.unguardedZone? =
      clock.formatter.unguardedZone? := by
  induction ticks generalizing clock with
  | nil => rfl
  | cons tick ticks ih =>
      exact (ih (clock.tickAt system tick.1 tick.2).2).trans
        (clock.unguardedZone?_tickAt system tick.1 tick.2)

/-- **A tick fails exactly at a time that comes without the zone of the formatter and whose
moment this zone does not cover.**  This holds for every clock and after all ticks, also failed
ones.  The text is the one that was rendered, if it is not empty, and else it stays as it was; so
it does when the tick fails. -/
theorem tickAt_eq_error_iff (earlier : List (Text × Instant)) (fallback : Text)
    (time : ZonedTime) :
    let before := clock.afterTicks system earlier
    let ticked := before.tickAt system fallback (.aware time)
    (∀ fault, ticked.1 = .error fault ↔
      fault = .dateOutOfRange ∧ ∃ zone, clock.formatter.unguardedZone? = some zone ∧
        time.zone? ≠ some zone ∧ ¬ zone.Covers time.moment) ∧
      ticked.2.text = before.textAfter
        (before.formatter.format system before.pattern (.aware time)).1 := by
  intro before ticked
  refine ⟨fun fault => ?_, ?_⟩
  · have zone : before.formatter.unguardedZone? = clock.formatter.unguardedZone? :=
      clock.unguardedZone?_afterTicks system earlier
    calc ticked.1 = .error fault
        ↔ (before.formatter.format system before.pattern (.aware time)).1 =
            .error (.escaped fault) := before.tick_eq_error_iff fallback _ fault
      _ ↔ ∃ zone, clock.formatter.unguardedZone? = some zone ∧
            zone.convert time = .error fault := by
          rw [Formatter.format_eq_escaped_iff, zone]
      _ ↔ fault = .dateOutOfRange ∧ ∃ zone, clock.formatter.unguardedZone? = some zone ∧
            time.zone? ≠ some zone ∧ ¬ zone.Covers time.moment := by
          simp only [Zone.convert_eq_error_iff, and_left_comm, exists_and_left]
  · obtain ⟨-, -, text, -⟩ :=
      before.tick_spec fallback
        (before.formatter.format system before.pattern (.aware time))
    exact text

/-- The last moment of the year 9999 in universal time lies in the year 10000 one hour ahead
of it.  There beats and token patterns end the tick, while a classic pattern in the same zone
is reported and leaves the fallback. -/
theorem tickAt_end_of_time :
    let settings : FormatterSettings := { timeZone := some "+01:00" }
    let last := Instant.aware (.atOffset ⟨endOfTime - 1⟩ 0)
    let result (variant : Variant) (pattern : Text) :=
      (variant.configure? .standard settings).map fun formatter =>
        (tickAt .standard { formatter := formatter, pattern := pattern } defaultFallback last).1
    result .beats "@bbb" = some (.error .dateOutOfRange) ∧
      result .token "HH:mm" = some (.error .dateOutOfRange) ∧
      (result .classic "HH:mm").map (·.map TickEffects.published) =
        some (.ok [defaultFallback]) := by
  decide +kernel

end Clock

end PanelClock
