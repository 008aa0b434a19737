import PanelClock.Diagnostic.Error
import PanelClock.Number.Binary64.Decimal
import PanelClock.Pattern.Newline
import PanelClock.System
import PanelClock.Variant.Profile

/-!
# Beats

The day has 1000 beats of 86.4 seconds, counted from midnight one hour ahead of universal
time.  A pattern is not a grammar: every run of `b` is replaced by the beats and every
run of `s` by the hundredths of a beat.
-/

set_option autoImplicit false

namespace PanelClock

/-- The zone that beats are counted in. -/
def beatsZone : Zone := .fixed 3600 "BMT"

/-- The seconds of a beat as a floating-point number. -/
def secondsPerBeat : Rat := nearestDouble (mkRat 864 10)

/-- The beats of a second of the day in at least three digits, and their hundredths.  The
quotient is computed in floating-point numbers. -/
def beatsOfSecond (second : Nat) : Text × Text :=
  let quotient := nearestDouble (second / secondsPerBeat)
  let (whole, fraction) := decimalParts 2 quotient.num.natAbs quotient.den
  (whole.fillLeft '0' 3, fraction)

/-- The beats at an instant. -/
def beats (system : System) (instant : Instant) : Except Fault (Text × Text) := do
  let time ← system.localTime beatsZone instant
  return beatsOfSecond time.wall.secondOfDay

/-- Every run of a character replaced by a text. -/
def replaceRuns (c : Char) (replacement : Text) : Text → Text
  | [] => []
  | d :: rest =>
      if d = c then
        if rest.head? = some c then replaceRuns c replacement rest
        else replacement ++ replaceRuns c replacement rest
      else d :: replaceRuns c replacement rest

namespace Beats

/-- The profile of the variant. -/
def profile : Profile where
  label := "Swatch Beats"
  description := "Swatch Internet Time"
  help :=
    { left := [⟨"b", "Beats", "500"⟩]
      right := [⟨"s", "Sub Beats", "12"⟩] }

/-- A pattern with beats and hundredths put in. -/
def fill (whole fraction pattern : Text) : Text :=
  replaceRuns 's' fraction (replaceRuns 'b' whole (expandNewlines pattern))

/-- Renders a pattern at an instant. -/
def format (system : System) (pattern : Text) (instant : Instant) :
    Except (Failure Fault) Text :=
  match beats system instant with
  | .ok (whole, fraction) => .ok (fill whole fraction pattern)
  | .error fault => .error (.escaped fault)

end Beats

end PanelClock
