import PanelClock.Proofs.Caching
import PanelClock.Proofs.CoveredMoments
import PanelClock.Variant.Basic

/-!
# Answers depend on the moment

A time that is given with an offset stands for a moment, and the wall time and the offset
that it is given by should not show in any answer.  Everything that a formatter renders is read
off the local time of its zone: for the fields of a pattern and for a layout
(`RenderContext.answer_congr`), for beats and for tokens (`Formatter.format_congr`).  So an
answer depends on what the time leads to in this zone.  Nor does the system show, which tells
the moment of times without an offset only.

Two times of one moment lead to the same, with one exception: a time that comes with the zone of
the formatter stays as it is, also where the moment lies outside the years 1 to 9999 and no
other time of this moment has a local time.  Half an hour past midnight on the first day of the
calendar, in the zone of beats, is such a time (`beats_depend_on_clocks`).

A formatter also keeps what it has compiled.  Without it the formatter would answer the same
(`Formatter.Sound.format`), so what was asked before does not show either.  Two formatters
with the same settings answer alike at the same moment, with the same text or the same error,
whatever each of them was asked before, if the moment lies in the calendar or both times or
neither come with the zone of the formatters (`format_eq_of_same_moment`).
-/

set_option autoImplicit false

namespace PanelClock

/-! ## Pattern formatters -/

section

variable {system system' : System} {context : RenderContext} {instant instant' : Instant}

theorem RenderPart.text_congr
    (same : system.localTime context.zone instant = system'.localTime context.zone instant')
    (part : RenderPart) :
    part.text system context instant = part.text system' context instant' := by
  cases part with
  | literal text => rfl
  | run specifier form => rw [RenderPart.text, RenderPart.text, same]

/-- **A renderer looks at the local time of its zone only.** -/
theorem Renderer.text_congr
    (same : system.localTime context.zone instant = system'.localTime context.zone instant')
    (renderer : Renderer) :
    renderer.text system context instant = renderer.text system' context instant' := by
  have parts := funext (RenderPart.text_congr same)
  cases renderer with
  | blank => rfl
  | single part => exact RenderPart.text_congr same part
  | fixed pattern text => rfl
  | row pattern row => rw [Renderer.text, Renderer.text, parts]
  | layout pattern localePattern => rw [Renderer.text, Renderer.text, same]

/-- **The answer to a pattern depends on the local time.** -/
theorem RenderContext.answer_congr
    (same : system.localTime context.zone instant = system'.localTime context.zone instant')
    (pattern : Text) :
    context.answer system pattern instant = context.answer system' pattern instant' := by
  unfold RenderContext.answer
  simp only [Renderer.text_congr same]

end

/-- A formatter that was asked anything answers as one that was asked nothing. -/
theorem PatternFormatter.format_afterRequests (system : System) (context : RenderContext)
    (requests : List FormatterRequest) (pattern : Text) (instant : Instant) :
    ((PatternFormatter.afterRequests system { context := context } requests).format system pattern
      instant).1 = context.answer system pattern instant := by
  obtain ⟨sound, kept⟩ := (PatternFormatter.sound_empty context).afterRequests system requests
  rw [(sound.format system pattern instant).1, kept]

/-! ## Formatters of all variants -/

namespace Formatter

/-- A formatter without anything that it has compiled. -/
def bare : Formatter → Formatter
  | classic (.ready formatter) => classic (.ready { context := formatter.context })
  | other => other

/-- The zone that a formatter renders in, none where it looks at no time. -/
def zone? : Formatter → Option Zone
  | classic (.ready formatter) => some formatter.context.zone
  | token (.ready zone _) => some zone
  | beats => some beatsZone
  | _ => none

@[simp] theorem zone?_bare (formatter : Formatter) : formatter.bare.zone? = formatter.zone? := by
  match formatter with
  | .classic (.ready formatter) => rfl
  | .classic (.rejected cause) => rfl
  | .token formatter => rfl
  | .beats => rfl
  | .upper => rfl
  | .recording settings => rfl

/-- Everything that a formatter keeps is what it would compile. -/
def Sound : Formatter → Prop
  | classic (.ready formatter) => formatter.Sound
  | _ => True

/-- A formatter after patterns that it has rendered, in order. -/
def afterFormats (system : System) (formatter : Formatter) (requests : List (Text × Instant)) :
    Formatter :=
  requests.foldl (fun current request => (current.format system request.1 request.2).2) formatter

/-- A formatter for settings has compiled nothing. -/
theorem sound_of_configure? {system : System} {settings : FormatterSettings} {variant : Variant}
    {formatter : Formatter} (configured : variant.configure? system settings = some formatter) :
    formatter.Sound := by
  cases variant with
  | classic =>
      cases configured
      unfold Classic.configureBy
      cases system.resolveLocaleBy system.locales settings.locale with
      | error cause => trivial
      | ok locale =>
          cases system.resolveZoneBy system.places settings.timeZone with
          | error cause => trivial
          | ok zone => exact PatternFormatter.sound_empty _
  | plain => cases configured
  | token | beats | upper | recording =>
      cases configured
      trivial

/-- **A formatter answers as if it had kept nothing, and stays sound.** -/
theorem Sound.format {formatter : Formatter} (sound : formatter.Sound) (system : System)
    (pattern : Text) (instant : Instant) :
    (formatter.format system pattern instant).1 =
        (formatter.bare.format system pattern instant).1 ∧
      (formatter.format system pattern instant).2.Sound ∧
      (formatter.format system pattern instant).2.bare = formatter.bare := by
  match formatter with
  | .classic (.ready formatter) =>
      have answered := PatternFormatter.Sound.format sound system
        (patternMarker :: expandNewlines pattern) instant
      have bare := (PatternFormatter.sound_empty formatter.context).format system
        (patternMarker :: expandNewlines pattern) instant
      obtain ⟨-, later, same⟩ := PatternFormatter.Sound.renderer sound
        (patternMarker :: expandNewlines pattern)
      rw [← answered.2] at later same
      exact ⟨answered.1.trans bare.1.symm, later, by rw [Formatter.bare, ← same]; rfl⟩
  | .classic (.rejected cause) => exact ⟨rfl, trivial, rfl⟩
  | .token formatter => exact ⟨rfl, trivial, rfl⟩
  | .beats => exact ⟨rfl, trivial, rfl⟩
  | .upper => exact ⟨rfl, trivial, rfl⟩
  | .recording settings => exact ⟨rfl, trivial, rfl⟩

theorem Sound.afterFormats {formatter : Formatter} (sound : formatter.Sound) (system : System)
    (requests : List (Text × Instant)) :
    (formatter.afterFormats system requests).Sound ∧
      (formatter.afterFormats system requests).bare = formatter.bare := by
  induction requests generalizing formatter with
  | nil => exact ⟨sound, rfl⟩
  | cons request requests ih =>
      obtain ⟨-, later, same⟩ := sound.format system request.1 request.2
      obtain ⟨last, equal⟩ := ih later
      exact ⟨last, equal.trans same⟩

/-- A sound formatter that has rendered anything answers as it would without. -/
theorem Sound.format_afterFormats {formatter : Formatter} (sound : formatter.Sound)
    (system : System) (requests : List (Text × Instant)) (pattern : Text) (instant : Instant) :
    ((formatter.afterFormats system requests).format system pattern instant).1 =
      (formatter.bare.format system pattern instant).1 := by
  obtain ⟨later, same⟩ := sound.afterFormats system requests
  rw [(later.format system pattern instant).1, same]

/-- **Every formatter looks at what a time leads to in its zone, and at nothing else.** -/
theorem format_congr (system system' : System) {formatter : Formatter} {time time' : ZonedTime}
    (same : ∀ zone, formatter.zone? = some zone → zone.convert time = zone.convert time')
    (pattern : Text) :
    (formatter.format system pattern (.aware time)).1 =
      (formatter.format system' pattern (.aware time')).1 := by
  match formatter with
  | .classic (.ready formatter) =>
      have shown : system.localTime formatter.context.zone (.aware time) =
          system'.localTime formatter.context.zone (.aware time') := same _ rfl
      simp only [Formatter.format, Classic.format, PatternFormatter.format,
        Renderer.text_congr shown]
  | .classic (.rejected cause) => rfl
  | .token (.ready zone name) =>
      have clock : system.clockTime zone (.aware time) = system'.clockTime zone (.aware time') :=
        same _ rfl
      simp only [Formatter.format, TokenFormatter.format, clock]
  | .token (.rejected cause) => rfl
  | .beats =>
      have shown : system.localTime beatsZone (.aware time) =
          system'.localTime beatsZone (.aware time') := same _ rfl
      simp only [Formatter.format, Beats.format, PanelClock.beats, shown]
  | .upper => rfl
  | .recording settings => rfl

end Formatter

/-! ## Two times of one moment -/

/-- **At the same moment formatters answer alike, with the same text or the same error**, where
the moment lies in the calendar or both times or neither come with the zone of the formatter.  Of
formatters with the same settings and of pattern formatters with the same locale and zone,
each may have been asked anything before and stand in a system of its own. -/
theorem format_eq_of_same_moment {time time' : ZonedTime} (genuine : time.Genuine)
    (genuine' : time'.Genuine) (same : time.moment = time'.moment) (system system' : System)
    (pattern : Text) :
    let Agree (zone : Zone) : Prop :=
      time.moment.InCalendar ∨ (time.zone? = some zone ↔ time'.zone? = some zone)
    (∀ (variant : Variant) (configuring : System) (settings : FormatterSettings)
        (formatter : Formatter), variant.configure? configuring settings = some formatter →
      (∀ zone, formatter.zone? = some zone → Agree zone) →
      ∀ earlier earlier' : List (Text × Instant),
        ((formatter.afterFormats system earlier).format system pattern (.aware time)).1 =
          ((formatter.afterFormats system' earlier').format system' pattern (.aware time')).1) ∧
    ∀ context : RenderContext, Agree context.zone → ∀ earlier earlier' : List FormatterRequest,
      ((PatternFormatter.afterRequests system { context := context } earlier).format system pattern
          (.aware time)).1 =
        ((PatternFormatter.afterRequests system' { context := context } earlier').format system'
          pattern (.aware time')).1 := by
  intro Agree
  have converted : ∀ zone, Agree zone → zone.convert time = zone.convert time' :=
    fun zone => (Zone.convert_eq_convert_iff genuine genuine' same).mpr
  constructor
  · intro variant configuring settings formatter configured agree earlier earlier'
    have sound := Formatter.sound_of_configure? configured
    rw [sound.format_afterFormats, sound.format_afterFormats]
    refine Formatter.format_congr system system' (fun zone rendered => ?_) pattern
    rw [Formatter.zone?_bare] at rendered
    exact converted zone (agree zone rendered)
  · intro context agree earlier earlier'
    have shown : system.localTime context.zone (.aware time) =
        system'.localTime context.zone (.aware time') := converted context.zone agree
    rw [PatternFormatter.format_afterRequests, PatternFormatter.format_afterRequests]
    exact RenderContext.answer_congr shown pattern

/-- Noon in universal time is one in the afternoon in the zone of a formatter that is an hour
ahead, also where the time comes with this zone. -/
theorem format_eq_at_noon :
    let zone := Zone.ofOffset 3600
    let noon := ZonedTime.atOffset (.ofFields ⟨2024, 1, 1⟩ 12 0 0 0) 0
    let ahead := ZonedTime.inZone zone
      ⟨.ofFields ⟨2024, 1, 1⟩ 13 0 0 0, ⟨3600, false, Zone.offsetName 3600⟩⟩
    let formatter := Formatter.classic (.configure .standard (some "+01:00") none)
    ahead.Genuine ∧ noon.moment = ahead.moment ∧ noon.moment.InCalendar ∧
      formatter.zone? = some zone ∧
      Variant.classic.configure? .standard { timeZone := some "+01:00" } = some formatter ∧
      ((formatter.afterFormats .standard [("HH:mm", .aware ahead)]).format .standard "HH:mm"
          (.aware noon)).1 =
        (formatter.format .standard "HH:mm" (.aware ahead)).1 := by
  intro zone noon ahead formatter
  have genuine' : noon.Genuine := trivial
  have genuine : ahead.Genuine := ⟨by decide, rfl⟩
  have same : noon.moment = ahead.moment := by decide
  have inCalendar : noon.moment.InCalendar := by decide
  exact ⟨genuine, same, inCalendar, rfl, rfl,
    (format_eq_of_same_moment genuine' genuine same .standard .standard "HH:mm").1
      .classic .standard { timeZone := some "+01:00" } formatter rfl
      (fun _ _ => .inl inCalendar) [("HH:mm", .aware ahead)] []⟩

/-- Half an hour past midnight on the first day of the calendar, an hour ahead of universal time:
where this comes with the zone of the formatter it has beats and an hour, and where it comes with
another zone of the same offset, or with none, it has not. -/
theorem beats_depend_on_clocks :
    let wall := WallTime.ofFields ⟨1, 1, 1⟩ 0 30 0 0
    let own (zone : Zone) := ZonedTime.inZone zone ⟨wall, zone.observanceAt 0⟩
    let other := ZonedTime.atOffset wall (3600 * microsPerSecond)
    let ahead := Zone.ofOffset 3600
    let formatter := Formatter.classic (.configure .standard (some "+01:00") none)
    (own beatsZone).Genuine ∧ (own beatsZone).moment = other.moment ∧
      (Formatter.beats.format .standard "@bbb" (.aware (own beatsZone))).1.toOption =
        some "@020" ∧
      (Formatter.beats.format .standard "@bbb" (.aware other)).1 =
        .error (.escaped .dateOutOfRange) ∧
      (own ahead).Genuine ∧ (own ahead).moment = other.moment ∧
      (formatter.format .standard "mm" (.aware (own ahead))).1.toOption = some "30" ∧
      (formatter.format .standard "mm" (.aware other)).1.toOption = none := by
  refine ⟨⟨?_, rfl⟩, ?_, ?_, ?_, ⟨?_, rfl⟩, ?_, ?_, ?_⟩ <;> decide +kernel

end PanelClock
