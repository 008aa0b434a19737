import PanelClock.Diagnostic.Error
import PanelClock.Display.Settings
import PanelClock.Registry

/-!
# The clock

The clock shows the last text that its formatter has given, and a fallback before the
first one.  A tick renders the pattern; when that fails, or gives an empty text, the
text stays as it is.  The visible text is published when it differs from the one
published before, and each failure is logged once until the clock is reconfigured.

The clock does not look into its formatter: a tick is given what rendering gave.
-/

set_option autoImplicit false

namespace PanelClock

/-- The state of a clock. -/
structure Clock (φ : Type) where
  formatter : φ
  pattern : Text
  /-- The last text that was rendered and not empty. -/
  text : Text := []
  /-- The text that was published last. -/
  published : Text := []
  /-- The messages of the failures that were logged. -/
  reported : List Text := []
  /-- The layout of failures in the log. -/
  layout : ReportLayout := .simple

/-- What a tick does besides changing the clock. -/
structure TickEffects where
  /-- The texts that are published. -/
  published : List Text := []
  /-- The lines that are logged. -/
  log : List Text := []
  deriving DecidableEq, Repr

namespace Clock

variable {φ ε : Type}

/-- The fallback when none is given. -/
def defaultFallback : Text := "..."

/-- The text that a clock shows. -/
def visible (clock : Clock φ) (fallback : Text) : Text :=
  if clock.text.isEmpty then fallback else clock.text

/-- How failures are reported in the log: cut when they are long. -/
def reporter (clock : Clock φ) : Reporter := { layout := clock.layout, cuts := true }

/-- The message of an error in the log. -/
def failureMessage (clock : Clock φ) (error : ClockError) : Text :=
  match error.content with
  | .message text => text
  | .diagnostic diagnostic => clock.reporter.report diagnostic

/-- The line that is logged for a failure. -/
def failureLine (pattern message : Text) : Text :=
  "WARNING: Formatting " ++ pattern.quoted ++ " failed: " ++ message

/-- Publishes the visible text when it has changed. -/
def publish (clock : Clock φ) (fallback : Text) : List Text × Clock φ :=
  let visible := clock.visible fallback
  if visible = clock.published then ([], clock)
  else ([visible], { clock with published := visible })

/-- Logs a failure unless it was logged before. -/
def report (clock : Clock φ) (error : ClockError) : List Text × Clock φ :=
  let message := clock.failureMessage error
  if clock.reported.contains message then ([], clock)
  else
    ([failureLine clock.pattern message],
      { clock with reported := clock.reported ++ [message] })

/-- Takes a rendered text; an empty one changes nothing. -/
def accept (clock : Clock φ) (text : Text) : Clock φ :=
  if text.isEmpty then clock else { clock with text := text }

/-- A tick, with what rendering gave and the formatter after it.  An error that is none of
the clock ends the tick at once. -/
def tick (clock : Clock φ) (fallback : Text)
    (rendered : Except (Failure ε) Text × φ) : Except ε TickEffects × Clock φ :=
  let clock := { clock with formatter := rendered.2 }
  match rendered.1 with
  | .ok text =>
      let (published, clock) := (clock.accept text).publish fallback
      (.ok ⟨published, []⟩, clock)
  | .error (.reported error) =>
      let (log, clock) := clock.report error
      let (published, clock) := clock.publish fallback
      (.ok ⟨published, log⟩, clock)
  | .error (.escaped other) => (.error other, clock)

/-- Changes formatter and pattern, where new ones are given.  Failures are logged
afresh. -/
def reconfigure (clock : Clock φ) (formatter : Option φ) (pattern : Option Text) : Clock φ :=
  { clock with
    formatter := formatter.getD clock.formatter
    pattern := pattern.getD clock.pattern
    reported := [] }

end Clock

/-- The formatter and pattern that settings select from a registry. -/
def selectFormatter (system : System) (settings : DisplaySettings) (registry : Registry Variant) :
    Except ClockError (Option Formatter × Text) := do
  let variant ← registry.get settings.formatter
  let configuration := settings.configuration (some variant.profile.capabilities)
  return (variant.configure? system configuration.settings, settings.pattern)

end PanelClock
