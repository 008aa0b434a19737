import PanelClock.Proofs.LocaleQuotes

/-!
# Reading back a written pattern of locale data

A pattern of locale data is written from segments when a field of it changes its
width, and is then read again.  A segment is *plain* when its literal has text
and neither a quote nor the character that is read as one (`Segment.Plain`), and
two neighbours are *separable* when they are neither two quoted literals nor two
runs of the same letter (`Segment.Separable`).

A row of plain, separable segments keeps its quotes.  Hence what is read back has
the same runs and, once neighbouring literals are joined, the same segments
(`Segment.joinLiterals_read_write`).
-/

set_option autoImplicit false

namespace PanelClock

namespace Segment

/-- A literal with text that holds no quote and nothing that is read as one, or a run of a
field letter. -/
def Plain : Segment → Prop
  | literal text => text ≠ [] ∧ '\'' ∉ text ∧ '\x00' ∉ text
  | field letter length => isLocaleLetter letter ∧ 1 ≤ length

instance : DecidablePred Plain
  | literal text => inferInstanceAs (Decidable (text ≠ [] ∧ '\'' ∉ text ∧ '\x00' ∉ text))
  | field letter length => inferInstanceAs (Decidable (isLocaleLetter letter ∧ 1 ≤ length))

/-- Two neighbours that are read apart when they are written: not both literals in quotes,
and not runs of the same letter. -/
def Separable : Segment → Segment → Prop
  | literal first, literal second => ¬ (first.any isLocaleLetter ∧ second.any isLocaleLetter)
  | field first _, field second _ => first ≠ second
  | _, _ => True

instance : DecidableRel Separable
  | literal first, literal second =>
      inferInstanceAs (Decidable (¬ (first.any isLocaleLetter ∧ second.any isLocaleLetter)))
  | field first _, field second _ => inferInstanceAs (Decidable (first ≠ second))
  | literal _, field _ _ => isTrue trivial
  | field _ _, literal _ => isTrue trivial

/-! ## Plain rows keep their quotes -/

/-- Plain, separable segments are a readable row. -/
theorem readable_of_plain {segments : List Segment}
    (plain : ∀ segment ∈ segments, segment.Plain) (separable : segments.IsChain Separable) :
    Readable segments := by
  refine ⟨fun segment member => ?_, fun segment member => ?_, separable.imp ?_⟩
  · have here := plain segment member
    cases segment with
    | literal text => exact here.1
    | field letter length => exact here
  · have here := plain segment member
    cases segment with
    | literal text => exact here.2.2
    | field letter length => exact here
  · intro first second apart
    cases first with
    | literal text => trivial
    | field letter length =>
        cases second with
        | literal text => trivial
        | field other count => exact apart

/-- Text without quotes leads outside quotes from outside, also after a closing quote. -/
theorem afterText_of_unquoted {text : Text} (unquoted : '\'' ∉ text) :
    QuoteState.outside.afterText text = some .outside ∧
      (text ≠ [] → QuoteState.closed.afterText text = some .outside) := by
  induction text with
  | nil => exact ⟨rfl, fun nonempty => absurd rfl nonempty⟩
  | cons c text ih =>
      obtain ⟨here, later⟩ := List.ne_and_not_mem_of_not_mem_cons unquoted
      simp [QuoteState.afterText, Ne.symm here, (ih later).1]

/-- **Plain, separable segments keep their quotes.**  After a closing quote the next segment is
no quoted literal; that is what the induction carries along. -/
theorem quotesKept_of_plain {segments : List Segment}
    (plain : ∀ segment ∈ segments, segment.Plain) (separable : segments.IsChain Separable) :
    QuotesKept segments ∧
      ((∀ text, segments.head? = some (literal text) → ¬ text.any isLocaleLetter) →
        QuoteState.closed.Keeps segments) := by
  induction segments with
  | nil => exact ⟨.inl rfl, fun _ => .inr rfl⟩
  | cons segment rest ih =>
      obtain ⟨here, later⟩ := List.forall_mem_cons.mp plain
      obtain ⟨outside, closed⟩ := ih later separable.tail
      cases segment with
      | field letter length =>
          exact ⟨⟨.outside, rfl, outside⟩, fun _ => ⟨.outside, rfl, outside⟩⟩
      | literal text =>
          by_cases lettered : text.any isLocaleLetter
          · refine ⟨⟨.closed, by simp [QuoteState.after, lettered],
              closed fun next first both => ?_⟩, fun bare => absurd lettered (bare text rfl)⟩
            exact (List.isChain_cons.mp separable).1 _ first ⟨lettered, both⟩
          · obtain ⟨fromOutside, fromClosed⟩ := afterText_of_unquoted here.2.1
            exact ⟨⟨.outside, by simpa [QuoteState.after, lettered] using fromOutside, outside⟩,
              fun _ => ⟨.outside, by simpa [QuoteState.after, lettered] using fromClosed here.1,
                outside⟩⟩

/-- **What is written from plain, separable segments is read as these segments, once
neighbouring literals are joined.** -/
theorem joinLiterals_read_write {segments : List Segment}
    (plain : ∀ segment ∈ segments, segment.Plain) (separable : segments.IsChain Separable) :
    joinLiterals (readLocaleSegments (writeLocaleSegments segments)) = joinLiterals segments :=
  (readable_of_plain plain separable).joinLiterals_read_write_iff.mpr
    (quotesKept_of_plain plain separable).1

/-! ## Runs -/

/-- Rows that are the same once literals are joined have the same runs. -/
theorem runs_eq_of_joinLiterals_eq {first second : List Segment}
    (same : joinLiterals first = joinLiterals second) : runs first = runs second := by
  rw [← runs_joinLiterals, same, runs_joinLiterals]

/-- What is written and read back has the same runs. -/
theorem runs_read_write {segments : List Segment}
    (plain : ∀ segment ∈ segments, segment.Plain) (separable : segments.IsChain Separable) :
    runs (readLocaleSegments (writeLocaleSegments segments)) = runs segments :=
  runs_eq_of_joinLiterals_eq (joinLiterals_read_write plain separable)

end Segment

/-! ## Patterns -/

/-- **A text is a pattern exactly when all its runs have lengths that their letters allow.** -/
theorem LocalePattern.read_eq_ok_iff {text : Text} {pattern : LocalePattern} :
    LocalePattern.read text = .ok pattern ↔
      pattern = ⟨text, readLocaleSegments text⟩ ∧
        ∀ run ∈ Segment.runs (readLocaleSegments text), allowsLength run.1 run.2 := by
  have good : (readLocaleSegments text).findSome? badRun? = none ↔
      ∀ run ∈ Segment.runs (readLocaleSegments text), allowsLength run.1 run.2 := by
    rw [List.findSome?_eq_none_iff]
    constructor
    · rintro none ⟨letter, length⟩ member
      simpa [badRun?] using none _ (Segment.mem_runs_iff.mp member)
    · intro allowed segment member
      cases segment with
      | literal text => rfl
      | field letter length => simpa [badRun?] using allowed _ (Segment.mem_runs_iff.mpr member)
  rw [← good]
  cases found : (readLocaleSegments text).findSome? badRun? with
  | none => simp [LocalePattern.read, found, eq_comm]
  | some run => simp [LocalePattern.read, found]

end PanelClock
