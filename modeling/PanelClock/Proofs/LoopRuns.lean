import Mathlib.Data.List.Induction
import PanelClock.Display.Loop

/-!
# How often a loop ticks

A run of a loop ends with the first tick that says so or fails, or in which or in the wait
after which the loop is stopped (`Tick.endsRun`).  A stop is seen in three places: where a
run starts, where the next tick would, and in the wait, which it cuts short.  Whatever a tick
does, one turn of the loop either ends the run with this tick or leaves the loop as it was
for the next (`UpdateLoop.ticks_cons_of_endsRun`, `UpdateLoop.ticks_cons_of_not_endsRun`), so a
run ticks up to that tick and no further (`UpdateLoop.ticks_spec`).

A loop may be run and stopped any number of times.  The loop is stopped when one of these
calls stops it (`LoopCall.stops`), and then it never ticks again (`UpdateLoop.run_after`).
-/

set_option autoImplicit false

namespace PanelClock

variable {ε : Type}

/-! ## What ends a run -/

namespace Tick

/-- A tick ends the run: it says so or fails, or the loop is stopped in it or in the wait
after it. -/
def endsRun (tick : Tick ε) : Bool :=
  match tick.result with
  | .goOn => tick.stopsInside || tick.stopsInWait
  | .last | .failed _ => true

/-- The loop is stopped in a tick, or in the wait after it if there is one. -/
def stopsLoop (tick : Tick ε) : Bool :=
  match tick.result with
  | .goOn => tick.stopsInside || tick.stopsInWait
  | .last | .failed _ => tick.stopsInside

/-- The error that a tick fails with. -/
def error? (tick : Tick ε) : Option ε :=
  match tick.result with
  | .goOn | .last => none
  | .failed error => some error

end Tick

/-- What is done with a loop from outside. -/
inductive LoopCall (ε : Type) where
  | stop
  /-- The loop is run over the ticks that come. -/
  | run (coming : List (Tick ε))

/-- A call stops the loop: at once, or in the tick that ends its run or the wait after it. -/
def LoopCall.stops : LoopCall ε → Bool
  | stop => true
  | run coming => (coming.find? Tick.endsRun).any Tick.stopsLoop

namespace UpdateLoop

/-! ## Turns of a loop -/

/-- A stopped loop ends without a tick. -/
theorem ticks_of_stopped {loop : UpdateLoop} (stopped : loop.stopped = true)
    (coming : List (Tick ε)) : loop.ticks coming = ⟨loop.ended, [], none, coming⟩ := by
  cases coming <;> exact if_pos stopped

/-- **A tick that ends the run is its last one.**  The loop is stopped after it if it was
stopped in it or in the wait after it. -/
theorem ticks_cons_of_endsRun {loop : UpdateLoop} (going : loop.stopped = false)
    (unwoken : loop.woken = some false) {tick : Tick ε} (ends : tick.endsRun = true)
    (rest : List (Tick ε)) :
    (loop.ticks (tick :: rest)).seen = [loop.running] ∧
      (loop.ticks (tick :: rest)).rest = rest ∧
      (loop.ticks (tick :: rest)).error = tick.error? ∧
      (loop.ticks (tick :: rest)).loop.running = false ∧
      (loop.ticks (tick :: rest)).loop.stopped = tick.stopsLoop := by
  rw [ticks, if_neg (by simp [going])]
  obtain ⟨result, stopsInside, stopsInWait⟩ := tick
  cases result with
  | goOn =>
      -- The run goes on to the next turn, where the loop turns out to be stopped.
      have stopped :
          ((if stopsInside then loop.stop else loop).wait stopsInWait).stopped = true := by
        cases stopsInside
        · cases stopsInWait
          · cases ends
          · simp [wait, unwoken, stop]
        · simp [wait, unwoken, stop]
      dsimp only
      rw [ticks_of_stopped stopped]
      exact ⟨rfl, rfl, rfl, rfl, stopped.trans ends.symm⟩
  | last =>
      cases stopsInside <;> exact ⟨rfl, rfl, rfl, rfl, by simp [Tick.stopsLoop, stop, ended, going]⟩
  | failed error =>
      cases stopsInside <;> exact ⟨rfl, rfl, rfl, rfl, by simp [Tick.stopsLoop, stop, ended, going]⟩

/-- **After any other tick the loop is as it was before.** -/
theorem ticks_cons_of_not_endsRun {loop : UpdateLoop} (going : loop.stopped = false)
    {tick : Tick ε} (goes : tick.endsRun = false) (rest : List (Tick ε)) :
    loop.ticks (tick :: rest) =
      { loop.ticks rest with seen := loop.running :: (loop.ticks rest).seen } := by
  rw [ticks, if_neg (by simp [going])]
  obtain ⟨result, stopsInside, stopsInWait⟩ := tick
  cases result with
  | goOn =>
      obtain ⟨rfl, rfl⟩ : stopsInside = false ∧ stopsInWait = false :=
        Bool.or_eq_false_iff.mp goes
      have same : loop.wait false = loop := by simp [wait]
      simp only [Bool.false_eq_true, if_false, same]
  | last => cases goes
  | failed error => cases goes

/-- **A run ticks up to the first tick that ends it.**  Past the ticks that come there is one
that says it is the last. -/
theorem ticks_spec {loop : UpdateLoop} (going : loop.stopped = false)
    (unwoken : loop.woken = some false) (coming : List (Tick ε)) :
    (loop.ticks coming).seen =
        List.replicate (coming.findIdx Tick.endsRun + 1) loop.running ∧
      (loop.ticks coming).rest = coming.drop (coming.findIdx Tick.endsRun + 1) ∧
      (loop.ticks coming).error = (coming.find? Tick.endsRun).bind Tick.error? ∧
      (loop.ticks coming).loop.running = false ∧
      (loop.ticks coming).loop.stopped = (LoopCall.run coming).stops := by
  induction coming with
  | nil =>
      rw [ticks, if_neg (by simp [going])]
      exact ⟨rfl, rfl, rfl, rfl, going⟩
  | cons tick rest ih =>
      cases ends : tick.endsRun with
      | true =>
          obtain ⟨seen, left, error, running, stopped⟩ :=
            ticks_cons_of_endsRun going unwoken ends rest
          simp only [List.findIdx_cons, ends, List.find?_cons, LoopCall.stops]
          exact ⟨seen, left, error, running, stopped⟩
      | false =>
          obtain ⟨seen, left, error, running, stopped⟩ := ih
          rw [ticks_cons_of_not_endsRun going ends]
          simp only [List.findIdx_cons, ends, List.find?_cons, LoopCall.stops]
          exact ⟨congrArg (loop.running :: ·) seen, left, error, running, stopped⟩

/-! ## Runs and stops in any order -/

/-- The loop after a call. -/
def call (loop : UpdateLoop) : LoopCall ε → UpdateLoop
  | .stop => loop.stop
  | .run coming => (loop.run coming).loop

/-- A loop after calls, in order. -/
def after (calls : List (LoopCall ε)) : UpdateLoop := calls.foldl call {}

/-- **What one run does to a loop that is not running**, stopped or not. -/
theorem run_spec {loop : UpdateLoop} (idle : loop.running = false) (coming : List (Tick ε)) :
    let count := if loop.stopped then 0 else coming.findIdx Tick.endsRun + 1
    (loop.run coming).seen = List.replicate count true ∧
      (loop.run coming).rest = coming.drop count ∧
      (loop.run coming).error =
        (if loop.stopped then none else (coming.find? Tick.endsRun).bind Tick.error?) ∧
      (loop.run coming).loop.running = false ∧
      (loop.run coming).loop.stopped = (loop.stopped || (LoopCall.run coming).stops) := by
  unfold run
  cases stopped : loop.stopped with
  | true => exact ⟨rfl, rfl, rfl, idle, stopped⟩
  | false =>
      have going : loop.started.stopped = false := stopped
      simp only [Bool.false_eq_true, if_false, Bool.false_or]
      exact ticks_spec going rfl coming

/-- **After any calls a loop is not running, and it is stopped if one of them stopped it.** -/
theorem after_spec (calls : List (LoopCall ε)) :
    (after calls).running = false ∧ (after calls).stopped = calls.any LoopCall.stops := by
  induction calls using List.reverseRecOn with
  | nil => exact ⟨rfl, rfl⟩
  | append_singleton calls call ih =>
      obtain ⟨idle, stopped⟩ := ih
      rw [after, List.foldl_append, List.any_append, ← stopped, ← after]
      cases call with
      | stop => exact ⟨idle, by simp [UpdateLoop.call, stop, LoopCall.stops]⟩
      | run coming =>
          obtain ⟨-, -, -, running, flag⟩ := run_spec idle coming
          exact ⟨running, by simpa [UpdateLoop.call] using flag⟩

/-- **A loop that was stopped before does not tick, and any other ticks up to the first tick
that ends the run.**  It runs in each of these ticks and not after them, it fails with the error
of the last one, and it is stopped from then on if this run or a call before stopped it. -/
theorem run_after_calls (calls : List (LoopCall ε)) (coming : List (Tick ε)) :
    let stopped := calls.any LoopCall.stops
    let count := if stopped then 0 else coming.findIdx Tick.endsRun + 1
    let done := (after calls).run coming
    done.seen = List.replicate count true ∧ done.rest = coming.drop count ∧
      done.error = (if stopped then none else (coming.find? Tick.endsRun).bind Tick.error?) ∧
      done.loop.running = false ∧
      done.loop.stopped = (stopped || (LoopCall.run coming).stops) ∧
      done.loop = after (calls ++ [.run coming]) := by
  obtain ⟨idle, stopped⟩ := after_spec calls
  obtain ⟨seen, rest, error, running, flag⟩ := run_spec idle coming
  rw [stopped] at seen rest error flag
  refine ⟨seen, rest, error, running, flag, ?_⟩
  rw [after, after, List.foldl_append]
  rfl

end UpdateLoop

end PanelClock
