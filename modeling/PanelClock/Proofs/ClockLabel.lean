import Mathlib.Data.List.Infix
import PanelClock.Display.Clock

/-!
# The label of a clock over a run

A run of a clock is a row of ticks and reconfigurations.  A tick is given what
rendering gave, a text or an error of the clock, and the fallback as it is at that
moment.  What should be seen is said here from the steps alone, without the state
of a clock: the last text that was rendered and not empty (`lastText?`), and the
texts that are visible at the ends of the ticks (`tickTexts`).

A clock keeps a text, the text that it published last, and whether it has logged a
failure.  After every run these agree with the steps (`Agrees`), and one step keeps
the agreement (`Agrees.take`).  Hence the label shows the last good text, and a text
is published exactly when it differs from the one before (`label_eq_lastText`).

The lemmas on single ticks are stated for every way in which rendering can end, also
for one that ends the tick.
-/

set_option autoImplicit false

namespace PanelClock

variable {φ : Type}

namespace Clock

/-! ## Single ticks -/

section Ticks

variable {ε : Type} (clock : Clock φ) (fallback : Text)

/-- Publishing makes the visible text the published one, and tells it when it was not. -/
theorem publish_eq :
    clock.publish fallback =
      (if clock.visible fallback = clock.published then [] else [clock.visible fallback],
        { clock with published := clock.visible fallback }) := by
  unfold publish
  dsimp only
  split
  · next same => rw [same]
  · rfl

/-- A failure is logged, and remembered, unless it is remembered already. -/
theorem report_spec (error : ClockError) :
    let unseen := (some (clock.failureMessage error)).filter (· ∉ clock.reported)
    clock.report error =
      (unseen.toList.map (failureLine clock.pattern),
        { clock with reported := clock.reported ++ unseen.toList }) := by
  unfold report
  by_cases known : clock.failureMessage error ∈ clock.reported <;> simp [known, Option.filter]

/-- The text that a clock keeps once rendering has ended. -/
def textAfter (rendered : Except (Failure ε) Text) : Text :=
  match rendered with
  | .ok text => if text = [] then clock.text else text
  | .error _ => clock.text

/-- A rendering that fails leaves the text as it was. -/
@[simp] theorem textAfter_error (failure : Failure ε) :
    clock.textAfter (.error failure) = clock.text :=
  rfl

/-- **A tick takes over the formatter and the text, and ends early only when rendering ends
with an error that is none of the clock.**  Otherwise it publishes the text that is visible
then. -/
theorem tick_spec (rendered : Except (Failure ε) Text × φ) :
    let after := (clock.tick fallback rendered).2
    after.formatter = rendered.2 ∧ after.pattern = clock.pattern ∧
      after.text = clock.textAfter rendered.1 ∧
      ((∃ other, rendered.1 = .error (.escaped other) ∧
          (clock.tick fallback rendered).1 = .error other ∧ after.published = clock.published) ∨
        ((∀ other, rendered.1 ≠ .error (.escaped other)) ∧
          after.published = after.visible fallback ∧
          ∃ log, (clock.tick fallback rendered).1 =
            .ok ⟨if after.visible fallback = clock.published then [] else [after.visible fallback],
              log⟩)) := by
  obtain ⟨outcome, later⟩ := rendered
  cases outcome with
  | ok text =>
      simp only [tick, publish_eq, accept]
      refine ⟨?_, ?_, ?_, .inr ⟨by simp, ?_, [], ?_⟩⟩ <;>
        by_cases empty : text = [] <;> simp [empty, textAfter, visible]
  | error failure =>
      cases failure with
      | reported error =>
          simp only [tick, publish_eq, report_spec]
          exact ⟨trivial, trivial, rfl, .inr ⟨by simp, rfl, _, rfl⟩⟩
      | escaped other => exact ⟨rfl, rfl, rfl, .inl ⟨other, rfl, rfl, rfl⟩⟩

/-- A tick fails exactly when rendering ends with an error that is none of the clock. -/
theorem tick_eq_error_iff (rendered : Except (Failure ε) Text × φ) (other : ε) :
    (clock.tick fallback rendered).1 = .error other ↔ rendered.1 = .error (.escaped other) := by
  obtain ⟨-, -, -, ⟨found, escaped, result, -⟩ | ⟨caught, -, log, result⟩⟩ :=
    clock.tick_spec fallback rendered
  · rw [escaped, result]
    simp
  · rw [result]
    simp [caught other]

end Ticks

end Clock

/-! ## Runs -/

/-- What happens to a clock. -/
inductive ClockStep (φ : Type) where
  /-- A tick, with the fallback at that moment, what rendering gave, and the formatter after
  it. -/
  | tick (fallback : Text) (rendered : Except ClockError Text) (later : φ)
  | reconfigure (formatter : Option φ) (pattern : Option Text)

namespace ClockStep

/-- What a tick does that no error but one of the clock can meet. -/
def effects : Except Empty TickEffects → TickEffects
  | .ok effects => effects
  | .error other => other.elim

/-- What a step does, and the clock after it. -/
def take (clock : Clock φ) : ClockStep φ → TickEffects × Clock φ
  | .tick fallback rendered later =>
      let ticked := clock.tick fallback (rendered.mapError .reported, later)
      (effects ticked.1, ticked.2)
  | .reconfigure formatter pattern => ({}, clock.reconfigure formatter pattern)

/-- The text that rendering gave in a step, an empty one when it gave none. -/
def text : ClockStep φ → Text
  | .tick _ (.ok text) _ => text
  | _ => []

end ClockStep

namespace Clock

/-- A run of a clock: what every step does, and the clock after all of them. -/
def run (clock : Clock φ) (steps : List (ClockStep φ)) : List TickEffects × Clock φ :=
  steps.foldl (fun run step => (run.1 ++ [(step.take run.2).1], (step.take run.2).2)) ([], clock)

theorem run_append_singleton (clock : Clock φ) (steps : List (ClockStep φ))
    (step : ClockStep φ) :
    clock.run (steps ++ [step]) =
      ((clock.run steps).1 ++ [(step.take (clock.run steps).2).1],
        (step.take (clock.run steps).2).2) := by
  rw [run, List.foldl_append]
  rfl

/-- The texts that are published in a run, in order. -/
def publications (clock : Clock φ) (steps : List (ClockStep φ)) : List Text :=
  (clock.run steps).1.flatMap (·.published)

/-- The last text that was rendered and not empty. -/
def lastText? (steps : List (ClockStep φ)) : Option Text :=
  ((steps.map ClockStep.text).filter (· ≠ [])).getLast?

/-- The text that should be visible at the end of steps of which the last one is a tick. -/
def tickText? (steps : List (ClockStep φ)) : Option Text :=
  match steps.getLast? with
  | some (.tick fallback _ _) => some ((lastText? steps).getD fallback)
  | _ => none

/-- The texts that should be visible at the ends of the ticks, in order. -/
def tickTexts (steps : List (ClockStep φ)) : List Text := steps.inits.filterMap tickText?

/-- The texts of a row that differ from the one before them, the first of them from a given
one. -/
def changesFrom : Text → List Text → List Text
  | _, [] => []
  | before, text :: rest =>
      if text = before then changesFrom text rest else text :: changesFrom text rest

/-! ## One step more -/

theorem lastText?_append_singleton (steps : List (ClockStep φ)) (step : ClockStep φ) :
    lastText? (steps ++ [step]) = if step.text = [] then lastText? steps else some step.text := by
  unfold lastText?
  rw [List.map_append, List.filter_append]
  split
  · next empty => simp [empty]
  · next nonempty => simp [nonempty]

/-- The last good text is not empty. -/
theorem lastText?_ne_empty (steps : List (ClockStep φ)) : lastText? steps ≠ some [] := by
  intro found
  have member := List.mem_of_getLast? found
  simp at member

theorem tickTexts_append_singleton (steps : List (ClockStep φ)) (step : ClockStep φ) :
    tickTexts (steps ++ [step]) = tickTexts steps ++ (tickText? (steps ++ [step])).toList := by
  unfold tickTexts
  rw [List.inits_append, List.filterMap_append]
  cases found : tickText? (steps ++ [step]) <;> simp [found]

theorem changesFrom_append_singleton (before : Text) (texts : List Text) (text : Text) :
    changesFrom before (texts ++ [text]) =
      changesFrom before texts ++ if text = texts.getLastD before then [] else [text] := by
  induction texts generalizing before with
  | nil => simp [changesFrom]
  | cons first rest ih =>
      have last : (first :: rest).getLastD before = rest.getLastD first := by
        cases rest <;> rfl
      rw [List.cons_append, changesFrom, changesFrom, ih first, last]
      split <;> rfl

/-! ## What a clock keeps -/

/-- A tick of a run keeps a text that is not empty, and publishes what is visible then unless
it was published last. -/
theorem take_tick (clock : Clock φ) (fallback : Text) (rendered : Except ClockError Text)
    (later : φ) :
    let step := ClockStep.tick fallback rendered later
    let after := (step.take clock).2
    after.text = (if step.text = [] then clock.text else step.text) ∧
      after.published = after.visible fallback ∧
      (step.take clock).1.published =
        if after.visible fallback = clock.published then [] else [after.visible fallback] := by
  have kept : clock.textAfter (rendered.mapError .reported : Except (Failure Empty) Text) =
      if (ClockStep.tick fallback rendered later).text = [] then clock.text
      else (ClockStep.tick fallback rendered later).text := by
    cases rendered with
    | error error => rfl
    | ok text => rfl
  obtain ⟨-, -, text, ⟨other, -⟩ | ⟨-, published, log, result⟩⟩ :=
    clock.tick_spec fallback ((rendered.mapError .reported : Except (Failure Empty) Text), later)
  · exact other.elim
  · rw [kept] at text
    exact ⟨text, published, by rw [ClockStep.take, result]; rfl⟩

/-- The label shows the last good text, or the fallback when there is none. -/
theorem visible_eq_lastText? {clock : Clock φ} {steps : List (ClockStep φ)}
    (text : clock.text = (lastText? steps).getD []) (fallback : Text) :
    clock.visible fallback = (lastText? steps).getD fallback := by
  rw [Clock.visible, text]
  cases found : lastText? steps with
  | none => rfl
  | some text =>
      have nonempty : text ≠ [] := fun empty => lastText?_ne_empty steps (empty ▸ found)
      simp [nonempty]

/-- The state of a clock agrees with the steps that led to it, and so does what they have
published. -/
structure Agrees (steps : List (ClockStep φ)) (run : List TickEffects × Clock φ) : Prop where
  text : run.2.text = (lastText? steps).getD []
  last : run.2.published = (tickTexts steps).getLastD []
  published : run.1.flatMap (·.published) = changesFrom [] (tickTexts steps)

/-- **One step keeps the agreement.** -/
theorem Agrees.take {steps : List (ClockStep φ)} {run : List TickEffects × Clock φ}
    (agrees : Agrees steps run) (step : ClockStep φ) :
    Agrees (steps ++ [step]) (run.1 ++ [(step.take run.2).1], (step.take run.2).2) := by
  cases step with
  | reconfigure formatter pattern =>
      have texts : tickTexts (steps ++ [.reconfigure formatter pattern]) = tickTexts steps := by
        simp [tickTexts_append_singleton, tickText?]
      refine ⟨?_, ?_, ?_⟩
      · rw [lastText?_append_singleton]
        exact agrees.text
      · rw [texts]
        exact agrees.last
      · rw [texts, List.flatMap_append, agrees.published]
        exact List.append_nil _
  | tick fallback rendered later =>
      obtain ⟨text, published, effects⟩ := run.2.take_tick fallback rendered later
      generalize (ClockStep.tick fallback rendered later).take run.2 = taken at *
      have good : taken.2.text =
          (lastText? (steps ++ [.tick fallback rendered later])).getD [] := by
        rw [text, lastText?_append_singleton, agrees.text]
        split <;> rfl
      have visible := visible_eq_lastText? good fallback
      have texts : tickTexts (steps ++ [.tick fallback rendered later]) =
          tickTexts steps ++ [taken.2.visible fallback] := by
        simp [tickTexts_append_singleton, tickText?, visible]
      refine ⟨good, ?_, ?_⟩
      · rw [texts, published]
        simp
      · rw [texts, changesFrom_append_singleton, List.flatMap_append, agrees.published,
          ← agrees.last, ← effects]
        simp

/-- **After every run a clock that is new at its start agrees with the steps.** -/
theorem agrees_run {clock : Clock φ} (blank : clock.text = []) (unpublished : clock.published = [])
    (steps : List (ClockStep φ)) : Agrees steps (clock.run steps) := by
  induction steps using List.reverseRecOn with
  | nil => exact ⟨blank, unpublished, rfl⟩
  | append_singleton steps step ih =>
      rw [run_append_singleton]
      exact ih.take step

/-- **The label is always the last good text.**  After any steps a new clock shows the last
text that was rendered and not empty, or the fallback as it is now when there is none.  What
was published are the texts visible at the ends of the ticks that differ from the one at the
end of the tick before, an empty text standing before the first tick.  Changing formatter or
pattern changes no label and publishes nothing. -/
theorem label_eq_lastText (formatter : φ) (pattern : Text) (layout : ReportLayout)
    (steps : List (ClockStep φ)) :
    let clock : Clock φ := { formatter := formatter, pattern := pattern, layout := layout }
    (∀ fallback, (clock.run steps).2.visible fallback = (lastText? steps).getD fallback) ∧
      clock.publications steps = changesFrom [] (tickTexts steps) ∧
      ∀ formatter' pattern' fallback,
        (clock.run (steps ++ [.reconfigure formatter' pattern'])).2.visible fallback =
            (clock.run steps).2.visible fallback ∧
          clock.publications (steps ++ [.reconfigure formatter' pattern']) =
            clock.publications steps := by
  intro clock
  have agrees : ∀ steps, Agrees steps (clock.run steps) := agrees_run rfl rfl
  refine ⟨fun fallback => visible_eq_lastText? (agrees steps).text fallback,
    (agrees steps).published, fun formatter' pattern' fallback => ⟨?_, ?_⟩⟩
  · rw [run_append_singleton]
    rfl
  · rw [publications, run_append_singleton, List.flatMap_append]
    exact List.append_nil _

/-- A failure shows the fallback, and neither an empty text nor another fallback hides a text. -/
example :
    publications { formatter := (), pattern := "HH" }
      [.tick "12:00" (.error ⟨.formatting, .message "no zone"⟩) (), .tick "12:00" (.ok "14") (),
        .reconfigure none (some "H"), .tick "12:01" (.ok []) (), .tick "12:01" (.ok "15") ()] =
      ["12:00", "14", "15"] := by
  decide

end Clock

end PanelClock
