import PanelClock.Diagnostic.Error
import PanelClock.Variant.Basic

/-!
# Clock faces

A clock renders with a configured formatter or with a scripted one.  A scripted formatter
does not look at patterns or instants: each rendering gives the next outcome of a script,
and the last outcome repeats.
-/

set_option autoImplicit false

namespace PanelClock

/-- A formatter that gives the outcomes of a script in turn. -/
structure ScriptedFormatter (ε : Type) where
  outcomes : List (Except (Failure ε) Text)

namespace ScriptedFormatter

variable {ε : Type}

/-- The next outcome, and the formatter after it.  An empty script gives empty texts. -/
def next (formatter : ScriptedFormatter ε) : Except (Failure ε) Text × ScriptedFormatter ε :=
  match formatter.outcomes with
  | [] => (.ok [], formatter)
  | [last] => (last, formatter)
  | first :: rest => (first, ⟨rest⟩)

/-- A scripted formatter as it is shown in messages. -/
def shown : Text := Profile.instanceText {} "ScriptedFormatter"

end ScriptedFormatter

/-- What a clock renders with. -/
inductive ClockFace (ε : Type) where
  | configured (formatter : Formatter)
  | scripted (script : ScriptedFormatter ε)

namespace ClockFace

variable {ε : Type}

/-- The face as it is shown in messages. -/
def shown : ClockFace ε → Text
  | configured formatter => formatter.shown
  | scripted _ => ScriptedFormatter.shown

/-- Renders a pattern at an instant, where faults of a formatter are told in the terms of
the clock. -/
def format (system : System) (tell : Fault → ε) (pattern : Text) (instant : Instant) :
    ClockFace ε → Except (Failure ε) Text × ClockFace ε
  | configured formatter =>
      let (result, later) := formatter.format system pattern instant
      (result.mapError (Failure.map tell), configured later)
  | scripted script =>
      let (result, later) := script.next
      (result, scripted later)

end ClockFace

end PanelClock
