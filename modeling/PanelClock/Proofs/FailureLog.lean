import Mathlib.Data.List.DropRight
import PanelClock.Proofs.ClockLabel

/-!
# The log of a clock over a run

A clock logs a failure unless it has logged the same message since it was last
reconfigured.  What should be logged is said here from the steps alone.  Reconfigurations
cut a run into stretches of ticks; `stretch` is the one that is open at the end.  The
failures of a stretch are the messages of its failing ticks, in order, and the first
occurrences among them are what the stretch should log.

A clock remembers the messages that it has logged.  After every run these are the first
occurrences among the failures of the open stretch (`Remembers`), and one step keeps this
(`Remembers.take`).  Hence a step logs at most one line, and does so exactly when it is a
tick that fails in a way that the stretch has not seen before
(`failures_logged_once`).
-/

set_option autoImplicit false

namespace PanelClock

variable {φ : Type}

/-- First occurrences, with at most one more element at the end. -/
theorem eraseDups_append_toList {α : Type} [BEq α] [LawfulBEq α] (seen : List α)
    (next : Option α) :
    (seen ++ next.toList).eraseDups =
      seen.eraseDups ++ (next.filter (· ∉ seen)).toList := by
  cases next with
  | none => simp
  | some element =>
      rw [Option.toList_some, List.eraseDups_append, List.removeAll]
      by_cases known : element ∈ seen <;> simp [known, Option.filter, List.eraseDups_cons]

/-! ## Single steps -/

namespace Clock

/-- The message of a failure depends on the layout of the log only. -/
theorem failureMessage_congr {clock other : Clock φ} (same : clock.layout = other.layout)
    (error : ClockError) : clock.failureMessage error = other.failureMessage error := by
  unfold failureMessage reporter
  rw [same]

end Clock

namespace ClockStep

/-- A step that is a tick. -/
def isTick : ClockStep φ → Bool
  | .tick .. => true
  | .reconfigure .. => false

/-- The message of the failure that rendering gave in a step, as a clock tells it. -/
def failure? (clock : Clock φ) : ClockStep φ → Option Text
  | .tick _ (.error error) _ => some (clock.failureMessage error)
  | _ => none

/-- The pattern that a step gives to the clock. -/
def givenPattern? : ClockStep φ → Option Text
  | .reconfigure _ pattern => pattern
  | .tick .. => none

theorem failure?_congr {clock other : Clock φ} (same : clock.layout = other.layout)
    (step : ClockStep φ) : step.failure? clock = step.failure? other := by
  unfold failure?
  split
  · next error _ => rw [Clock.failureMessage_congr same]
  · rfl

/-- The failure of a step that a clock does not remember. -/
def unseen? (clock : Clock φ) (step : ClockStep φ) : Option Text :=
  (step.failure? clock).filter (· ∉ clock.reported)

/-- **A step logs the failure that the clock does not remember.**  A tick makes the clock
remember it, and a reconfiguration makes the clock forget all. -/
theorem take_log (clock : Clock φ) (step : ClockStep φ) :
    let taken := step.take clock
    taken.1.log = (step.unseen? clock).toList.map (Clock.failureLine clock.pattern) ∧
      taken.2.layout = clock.layout ∧
      taken.2.pattern = step.givenPattern?.getD clock.pattern ∧
      taken.2.reported =
        if step.isTick then clock.reported ++ (step.unseen? clock).toList else [] := by
  cases step with
  | reconfigure formatter pattern => exact ⟨rfl, rfl, rfl, rfl⟩
  | tick fallback rendered later =>
      cases rendered with
      | ok text =>
          simp only [take, Clock.tick, Clock.publish_eq, Clock.accept, Except.mapError, effects,
            unseen?, failure?, isTick, givenPattern?]
          split <;> simp
      | error error =>
          have message : Clock.failureMessage { clock with formatter := later } error =
              clock.failureMessage error := Clock.failureMessage_congr rfl error
          simp only [take, Clock.tick, Clock.publish_eq, Clock.report_spec, Except.mapError,
            effects, message]
          exact ⟨rfl, trivial, rfl, rfl⟩

end ClockStep

/-! ## Stretches of a run -/

namespace Clock

/-- The ticks since the last reconfiguration, or since the start. -/
def stretch (steps : List (ClockStep φ)) : List (ClockStep φ) := steps.rtakeWhile (·.isTick)

/-- The messages of the failures in the open stretch, in order. -/
def openFailures (clock : Clock φ) (steps : List (ClockStep φ)) : List Text :=
  (stretch steps).filterMap (·.failure? clock)

/-- The pattern that was given last, or that of the clock at the start. -/
def patternAfter (clock : Clock φ) (steps : List (ClockStep φ)) : Text :=
  (steps.filterMap (·.givenPattern?)).getLast?.getD clock.pattern

/-- The lines that each step of a run logs. -/
def logs (clock : Clock φ) (steps : List (ClockStep φ)) : List (List Text) :=
  (clock.run steps).1.map (·.log)

/-- The lines that the open stretch of a run has logged. -/
def stretchLog (clock : Clock φ) (steps : List (ClockStep φ)) : List Text :=
  ((clock.logs steps).drop (steps.length - (stretch steps).length)).flatten

theorem stretch_append_singleton (steps : List (ClockStep φ)) (step : ClockStep φ) :
    stretch (steps ++ [step]) = if step.isTick then stretch steps ++ [step] else [] :=
  List.rtakeWhile_concat _ _ _

theorem openFailures_append_singleton (clock : Clock φ) (steps : List (ClockStep φ))
    (step : ClockStep φ) :
    clock.openFailures (steps ++ [step]) =
      if step.isTick then clock.openFailures steps ++ (step.failure? clock).toList else [] := by
  rw [openFailures, stretch_append_singleton]
  split
  · rw [List.filterMap_append, openFailures]
    cases found : step.failure? clock <;> simp [found]
  · rfl

theorem patternAfter_append_singleton (clock : Clock φ) (steps : List (ClockStep φ))
    (step : ClockStep φ) :
    clock.patternAfter (steps ++ [step]) = step.givenPattern?.getD (clock.patternAfter steps) := by
  rw [patternAfter, List.filterMap_append]
  cases given : step.givenPattern? <;> simp [given, patternAfter]

theorem logs_append_singleton (clock : Clock φ) (steps : List (ClockStep φ))
    (step : ClockStep φ) :
    clock.logs (steps ++ [step]) =
      clock.logs steps ++ [(step.take (clock.run steps).2).1.log] := by
  rw [logs, run_append_singleton, List.map_append]
  rfl

theorem length_logs (clock : Clock φ) (steps : List (ClockStep φ)) :
    (clock.logs steps).length = steps.length := by
  induction steps using List.reverseRecOn with
  | nil => rfl
  | append_singleton steps step ih =>
      rw [logs_append_singleton, List.length_append, List.length_append, ih]
      rfl

/-- A tick adds its lines to those of the open stretch, and a reconfiguration opens one without
any. -/
theorem stretchLog_append_singleton (clock : Clock φ) (steps : List (ClockStep φ))
    (step : ClockStep φ) :
    clock.stretchLog (steps ++ [step]) =
      if step.isTick then clock.stretchLog steps ++ (step.take (clock.run steps).2).1.log
      else [] := by
  rw [stretchLog, logs_append_singleton, stretch_append_singleton]
  split
  · have before : (steps ++ [step]).length - (stretch steps ++ [step]).length =
        steps.length - (stretch steps).length := by
      simp
    have within : steps.length - (stretch steps).length ≤ (clock.logs steps).length := by
      rw [length_logs]
      exact Nat.sub_le _ _
    rw [before, List.drop_append_of_le_length within, List.flatten_append, stretchLog]
    simp
  · rw [List.drop_of_length_le (by simp [length_logs])]
    rfl

/-! ## What a clock remembers -/

/-- After steps a clock tells failures as at the start, has the pattern that was given last, and
remembers the first occurrences among the failures of the open stretch. -/
structure Remembers (clock : Clock φ) (steps : List (ClockStep φ)) (later : Clock φ) : Prop where
  layout : later.layout = clock.layout
  pattern : later.pattern = clock.patternAfter steps
  reported : later.reported = (clock.openFailures steps).eraseDups

/-- The failure that a clock does not remember is one that the open stretch has not seen. -/
theorem Remembers.unseen?_eq {clock later : Clock φ} {steps : List (ClockStep φ)}
    (remembers : Remembers clock steps later) (step : ClockStep φ) :
    step.unseen? later = (step.failure? clock).filter (· ∉ clock.openFailures steps) := by
  rw [ClockStep.unseen?, ClockStep.failure?_congr remembers.layout, remembers.reported]
  simp only [List.mem_eraseDups]

/-- **One step keeps what a clock should remember.** -/
theorem Remembers.take {clock later : Clock φ} {steps : List (ClockStep φ)}
    (remembers : Remembers clock steps later) (step : ClockStep φ) :
    Remembers clock (steps ++ [step]) (step.take later).2 := by
  obtain ⟨-, layout, pattern, reported⟩ := step.take_log later
  refine ⟨layout.trans remembers.layout, ?_, ?_⟩
  · rw [pattern, remembers.pattern, patternAfter_append_singleton]
  · rw [reported, openFailures_append_singleton, remembers.unseen?_eq, remembers.reported]
    split
    · rw [eraseDups_append_toList]
    · rfl

/-- **After every run a clock that is new at its start remembers what it should.** -/
theorem remembers_run {clock : Clock φ} (unreported : clock.reported = [])
    (steps : List (ClockStep φ)) : Remembers clock steps (clock.run steps).2 := by
  induction steps using List.reverseRecOn with
  | nil => exact ⟨rfl, rfl, unreported⟩
  | append_singleton steps step ih =>
      rw [run_append_singleton]
      exact ih.take step

/-- A step of a run logs the failure that the open stretch has not seen. -/
theorem Remembers.log_eq {clock later : Clock φ} {steps : List (ClockStep φ)}
    (remembers : Remembers clock steps later) (step : ClockStep φ) :
    (step.take later).1.log =
      ((step.failure? clock).filter (· ∉ clock.openFailures steps)).toList.map
        (failureLine (clock.patternAfter steps)) := by
  rw [(step.take_log later).1, remembers.unseen?_eq, remembers.pattern]

/-- **A stretch logs the first occurrences among its failures.** -/
theorem stretchLog_eq {clock : Clock φ} (unreported : clock.reported = [])
    (steps : List (ClockStep φ)) :
    clock.stretchLog steps =
      (clock.openFailures steps).eraseDups.map (failureLine (clock.patternAfter steps)) := by
  induction steps using List.reverseRecOn with
  | nil => rfl
  | append_singleton steps step ih =>
      rw [stretchLog_append_singleton, openFailures_append_singleton,
        patternAfter_append_singleton, (remembers_run unreported steps).log_eq, ih]
      cases step with
      | tick fallback rendered later =>
          have ticks : (ClockStep.tick fallback rendered later).isTick = true := rfl
          -- A tick gives no pattern, so the lines before it keep theirs.
          rw [if_pos ticks, if_pos ticks, eraseDups_append_toList, List.map_append]
          rfl
      | reconfigure formatter pattern => rfl

/-- **Each distinct failure is logged exactly once.**  After any steps the open stretch of a
new clock has logged one line for each distinct message among its failures, in the order of
their first occurrences.  The next step logs its failure if the stretch has not seen the
message, and nothing otherwise: so a text and a reconfiguration log nothing and let no failure
be logged again.  After a reconfiguration, even one without arguments, every failure is logged
once more. -/
theorem failures_logged_once (formatter : φ) (pattern : Text) (layout : ReportLayout)
    (steps : List (ClockStep φ)) :
    let clock : Clock φ := { formatter := formatter, pattern := pattern, layout := layout }
    clock.stretchLog steps =
        (clock.openFailures steps).eraseDups.map (failureLine (clock.patternAfter steps)) ∧
      (∀ step, clock.logs (steps ++ [step]) = clock.logs steps ++
        [((step.failure? clock).filter (· ∉ clock.openFailures steps)).toList.map
          (failureLine (clock.patternAfter steps))]) ∧
      ∀ formatter' pattern' fallback error later,
        let again := steps ++ [.reconfigure formatter' pattern']
        clock.logs (again ++ [.tick fallback (.error error) later]) =
          clock.logs steps ++
            [[], [failureLine (pattern'.getD (clock.patternAfter steps))
              (clock.failureMessage error)]] := by
  intro clock
  have next (steps : List (ClockStep φ)) (step : ClockStep φ) :
      clock.logs (steps ++ [step]) = clock.logs steps ++
        [((step.failure? clock).filter (· ∉ clock.openFailures steps)).toList.map
          (failureLine (clock.patternAfter steps))] := by
    rw [logs_append_singleton, (remembers_run rfl steps).log_eq]
  refine ⟨stretchLog_eq rfl steps, next steps, ?_⟩
  intro formatter' pattern' fallback error later again
  rw [next again, next steps, openFailures_append_singleton, patternAfter_append_singleton,
    List.append_assoc]
  rfl

/-- Two failures in turn are logged once each, a text between them changes nothing, and a
reconfiguration lets them be logged again. -/
example :
    let fails (message : Text) : ClockStep Unit :=
      .tick "" (.error ⟨.formatting, .message message⟩) ()
    let line : Text → Text := failureLine "HH"
    logs { formatter := (), pattern := "HH" }
      [fails "a", fails "b", .tick "" (.ok "12") (), fails "a", .reconfigure none none, fails "a"] =
      [[line "a"], [line "b"], [], [], [], [line "a"]] := by
  decide +kernel

end Clock

end PanelClock
