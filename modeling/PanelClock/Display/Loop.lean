/-!
# The update loop

A loop ticks at once and then after every interval, until a tick says that it is the
last one, or fails, or the loop is stopped.  A loop can be stopped before a run, from
inside a tick and during the wait after it; once stopped it never ticks again.

What ticks do is given as a script, one entry per tick over all runs.  Ticks after the
end of the script are last ones.
-/

set_option autoImplicit false

namespace PanelClock

/-- How a tick ends. -/
inductive TickResult (ε : Type) where
  | goOn
  /-- This was the last tick of the run. -/
  | last
  | failed (error : ε)
  deriving DecidableEq, Repr

/-- What happens in a tick and in the wait after it. -/
structure Tick (ε : Type) where
  result : TickResult ε
  /-- The loop is stopped from inside the tick. -/
  stopsInside : Bool := false
  /-- The loop is stopped in the wait after the tick. -/
  stopsInWait : Bool := false
  deriving DecidableEq, Repr

/-- The flags of a loop. -/
structure UpdateLoop where
  /-- A run is going on. -/
  running : Bool := false
  stopped : Bool := false
  /-- Whether the wake-up call of the last run was given, none before the first run. -/
  woken : Option Bool := none
  deriving DecidableEq, Repr

/-- What came of a run. -/
structure LoopRun (ε : Type) where
  loop : UpdateLoop
  /-- Whether the loop was running, as each tick saw it. -/
  seen : List Bool
  /-- The error that ended the run. -/
  error : Option ε
  /-- The ticks that are left for later runs. -/
  rest : List (Tick ε)
  deriving DecidableEq, Repr

namespace UpdateLoop

variable {ε : Type}

/-- Stops a loop before its next tick, and ends its wait. -/
def stop (loop : UpdateLoop) : UpdateLoop :=
  { loop with stopped := true, woken := loop.woken.map fun _ => true }

/-- A run has started, with a wake-up call of its own. -/
def started (loop : UpdateLoop) : UpdateLoop := { loop with running := true, woken := some false }

/-- The loop after a wait, in which it may be stopped.  When the wake-up call was given before,
the wait is over at once. -/
def wait (loop : UpdateLoop) (stops : Bool) : UpdateLoop :=
  if loop.woken = some true then loop else if stops then loop.stop else loop

/-- A run has ended. -/
def ended (loop : UpdateLoop) : UpdateLoop := { loop with running := false }

/-- Ticks until the run ends, as long as the loop is not stopped. -/
def ticks (loop : UpdateLoop) : List (Tick ε) → LoopRun ε
  | [] =>
      if loop.stopped then ⟨loop.ended, [], none, []⟩
      else ⟨loop.ended, [loop.running], none, []⟩
  | tick :: rest =>
      if loop.stopped then ⟨loop.ended, [], none, tick :: rest⟩
      else
        let after := if tick.stopsInside then loop.stop else loop
        match tick.result with
        | .failed error => ⟨after.ended, [loop.running], some error, rest⟩
        | .last => ⟨after.ended, [loop.running], none, rest⟩
        | .goOn =>
            let later := ticks (after.wait tick.stopsInWait) rest
            { later with seen := loop.running :: later.seen }

/-- Runs a loop over the ticks that come.  A stopped loop does not run. -/
def run (loop : UpdateLoop) (coming : List (Tick ε)) : LoopRun ε :=
  if loop.stopped then ⟨loop, [], none, coming⟩
  else ticks loop.started coming

end UpdateLoop

end PanelClock
