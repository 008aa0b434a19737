import PanelClock.Locale.Data.AmericanEnglish
import PanelClock.Proofs.SkeletonMatch

/-!
# What adjusting widths does to a pattern

Adjusting a pattern of a locale to a skeleton should change widths and nothing else: the
literals and the letters stay in their order, and every run takes the width that the skeleton
asks for its letter, unless a month would turn from a number into a name or back
(`TakesWidth`, `Segment.Adjusted`).  A pattern in which every run has its width already is
returned as it is.

Any other pattern is written with the new widths and read again, and writing does not always
keep its quotes.  The pattern is adjusted as it should be exactly when no run takes another
width or its segments keep their quotes (`adjustWidths_adjusted_iff`).  A quote of text outside
every quoted section is lost with the text around it, and text that was quoted may then be read
as runs (`adjustWidths_loses_quote`).
-/

set_option autoImplicit false

namespace PanelClock

open Segment (joinLiterals)

/-! ## The width of a run -/

/-- The width that a skeleton asks for a letter: that of the field of the skeleton that the
letter follows, for weekdays at least that of the abbreviation. -/
def AsksWidth (skeleton : Text) (letter : Char) (asked : Nat) : Prop :=
  ∃ group width, widthGroup? letter = some group ∧
    .field group width ∈ readLocaleSegments skeleton ∧
    asked = if group = 'E' then max width 3 else width

/-- A month in both widths is a number, or in both a name. -/
def SameForm (letter : Char) (first second : Nat) : Prop :=
  letter = 'M' ∨ letter = 'L' → isMonthName first = isMonthName second

/-- A run takes a width for a skeleton: it keeps its own width or takes the one that is asked
for, a month keeps its form, and the asked width is taken wherever the form allows it. -/
structure TakesWidth (skeleton : Text) (letter : Char) (before after : Nat) : Prop where
  kept_or_asked : after = before ∨ AsksWidth skeleton letter after
  form : SameForm letter before after
  asked : ∀ asked, AsksWidth skeleton letter asked → SameForm letter before asked → after = asked

/-- A segment with its width adjusted to a skeleton: the same literal, or a run of the same
letter in the width that it takes. -/
def Segment.Adjusted (skeleton : Text) : Segment → Segment → Prop
  | .literal before, .literal after => after = before
  | .field letter before, .field letter' after =>
      letter' = letter ∧ TakesWidth skeleton letter before after
  | _, _ => False

/-- Every run of a pattern has the width that it takes for a skeleton. -/
def LocalePattern.HasWidths (skeleton : Text) (pattern : LocalePattern) : Prop :=
  ∀ run ∈ Segment.runs pattern.segments, TakesWidth skeleton run.1 run.2 run.2

/-- A pattern with its widths adjusted to a skeleton, neighbouring literals counting as one. -/
def LocalePattern.Adjusted (skeleton : Text) (before after : LocalePattern) : Prop :=
  List.Forall₂ (Segment.Adjusted skeleton) (joinLiterals before.segments)
    (joinLiterals after.segments)

/-- Only months have widths that are numbers and widths that are names. -/
theorem isTextWidth_eq_iff {letter group : Char} (follows : widthGroup? letter = some group)
    (first second : Nat) :
    isTextWidth group first = isTextWidth group second ↔ SameForm letter first second := by
  unfold widthGroup? at follows
  split at follows <;> cases follows <;> simp [isTextWidth, SameForm]

/-- The requested widths of a row are the widths of its fields, by letter. -/
theorem SkeletonRow.lookup_requestedWidths_iff {fields : List (Char × Nat)}
    (row : SkeletonRow fields) {letter group : Char} (follows : widthGroup? letter = some group)
    (width : Nat) :
    (PanelClock.requestedWidths (rowText fields)).lookup group = some width ↔
      .field group width ∈ readLocaleSegments (rowText fields) := by
  obtain ⟨requested, nodup⟩ := row.requestedWidths
  have own : widthGroup? group = some group := by
    unfold widthGroup? at follows
    split at follows <;> cases follows <;> rfl
  rw [requested, lookup_eq_some_iff_mem nodup, ← Segment.mem_runs_iff,
    runs_read_rowText row.nodup row.letters, List.mem_filterMap]
  constructor
  · rintro ⟨field, inRow, asked⟩
    rwa [row.groupRun?_eq_self inRow asked]
  · intro inRow
    exact ⟨_, inRow, by simp [groupRun?, own]⟩

instance (letter : Char) (first second : Nat) : Decidable (SameForm letter first second) :=
  inferInstanceAs (Decidable (_ → _))

/-- A run of which no width is asked keeps its own. -/
theorem takesWidth_iff_of_not_asks {skeleton : Text} {letter : Char}
    (never : ∀ asked, ¬ AsksWidth skeleton letter asked) (before after : Nat) :
    TakesWidth skeleton letter before after ↔ after = before := by
  constructor
  · intro takes
    exact takes.kept_or_asked.resolve_right (never after)
  · rintro rfl
    exact ⟨.inl rfl, fun _ => rfl, fun asked asks => (never asked asks).elim⟩

/-- A run of which one width is asked takes it when the form allows it. -/
theorem takesWidth_iff_of_asks_iff {skeleton : Text} {letter : Char} {asked : Nat}
    (asks : ∀ other, AsksWidth skeleton letter other ↔ other = asked) (before after : Nat) :
    TakesWidth skeleton letter before after ↔
      after = if SameForm letter before asked then asked else before := by
  constructor
  · intro takes
    split
    · next same => exact takes.asked asked ((asks asked).mpr rfl) same
    · next differ =>
        rcases takes.kept_or_asked with kept | taken
        · exact kept
        · exact absurd ((asks after).mp taken ▸ takes.form) differ
  · rintro rfl
    split
    · next same =>
        exact ⟨.inr ((asks asked).mpr rfl), same, fun other taken _ => ((asks other).mp taken).symm⟩
    · next differ =>
        refine ⟨.inl rfl, fun _ => rfl, fun other taken same => ?_⟩
        exact absurd ((asks other).mp taken ▸ same) differ

/-- **The width that a run takes for a row is its adjusted width.** -/
theorem SkeletonRow.takesWidth_iff {fields : List (Char × Nat)} (row : SkeletonRow fields)
    (letter : Char) (before after : Nat) :
    TakesWidth (rowText fields) letter before after ↔
      after = adjustedWidth (PanelClock.requestedWidths (rowText fields)) letter before := by
  unfold adjustedWidth
  cases follows : widthGroup? letter with
  | none =>
      refine takesWidth_iff_of_not_asks ?_ before after
      rintro asked ⟨group, width, follows', -⟩
      exact absurd (follows.symm.trans follows') (by simp)
  | some group =>
      -- What is asked for the letter is what the row asks for its group.
      have asks : ∀ asked, AsksWidth (rowText fields) letter asked ↔
          ∃ width, (PanelClock.requestedWidths (rowText fields)).lookup group = some width ∧
            asked = if group = 'E' then max width 3 else width := by
        intro asked
        constructor
        · rintro ⟨group', width, follows', inRow, equal⟩
          cases follows.symm.trans follows'
          exact ⟨width, (row.lookup_requestedWidths_iff follows width).mpr inRow, equal⟩
        · rintro ⟨width, found, equal⟩
          exact ⟨group, width, follows, (row.lookup_requestedWidths_iff follows width).mp found,
            equal⟩
      dsimp only
      cases found : (PanelClock.requestedWidths (rowText fields)).lookup group with
      | none =>
          refine takesWidth_iff_of_not_asks (fun asked taken => ?_) before after
          obtain ⟨width, found', -⟩ := (asks asked).mp taken
          exact absurd (found.symm.trans found') (by simp)
      | some width =>
          dsimp only
          generalize wanted : (if group = 'E' then max width 3 else width) = asked
          have form : isTextWidth group asked = isTextWidth group before ↔
              SameForm letter before asked :=
            eq_comm.trans (isTextWidth_eq_iff follows before asked)
          simp only [form]
          refine takesWidth_iff_of_asks_iff (fun other => ?_) before after
          rw [asks, found, ← wanted]
          simp

/-! ## Rows of segments -/

/-- **Segments are adjusted to a row exactly when each of them is its adjusted segment.** -/
theorem SkeletonRow.forall₂_adjusted_iff {fields : List (Char × Nat)} (row : SkeletonRow fields)
    (before after : List Segment) :
    List.Forall₂ (Segment.Adjusted (rowText fields)) before after ↔
      after = before.map (adjustSegment (PanelClock.requestedWidths (rowText fields))) := by
  have one : Segment.Adjusted (rowText fields) = fun first second =>
      adjustSegment (PanelClock.requestedWidths (rowText fields)) first = second := by
    funext first second
    cases first with
    | literal text => cases second <;> simp [Segment.Adjusted, adjustSegment, eq_comm]
    | field letter width =>
        cases second with
        | literal text => simp [Segment.Adjusted, adjustSegment]
        | field letter' width' =>
            simp only [Segment.Adjusted, adjustSegment, row.takesWidth_iff, Segment.field.injEq]
            exact propext (and_congr eq_comm eq_comm)
  rw [one, ← List.forall₂_map_left_iff, List.forall₂_eq_eq_eq, eq_comm]

namespace Segment

/-- Adjusting widths and joining literals can be done in either order. -/
theorem joinLiterals_map_adjustSegment (requested : List (Char × Nat)) (segments : List Segment) :
    joinLiterals (segments.map (adjustSegment requested)) =
      (joinLiterals segments).map (adjustSegment requested) := by
  fun_induction joinLiterals segments with
  | case1 => rfl
  | case2 letter length rest ih =>
      simp only [List.map_cons, adjustSegment, joinLiterals, ih]
  | case3 text rest next others joined ih =>
      rw [joined] at ih
      simp only [List.map_cons, adjustSegment, joinLiterals, ih]
  | case4 text rest notLiteral ih =>
      simp only [List.map_cons, adjustSegment, joinLiterals, ih]
      -- What follows starts with no literal, and adjusting it leaves that so.
      cases following : joinLiterals rest with
      | nil => rfl
      | cons next others =>
          cases next with
          | literal text' => exact (notLiteral text' others following).elim
          | field letter length => rfl

/-- Segments stay as they are exactly when no run of them changes its width. -/
theorem map_adjustSegment_eq_self_iff (requested : List (Char × Nat)) (segments : List Segment) :
    segments.map (adjustSegment requested) = segments ↔
      ∀ run ∈ runs segments, run.2 = adjustedWidth requested run.1 run.2 := by
  induction segments with
  | nil => simp [runs]
  | cons segment rest ih =>
      cases segment with
      | literal text => simpa [adjustSegment] using ih
      | field letter length =>
          rw [List.map_cons, List.cons.injEq, ih, runs_field, List.forall_mem_cons]
          exact and_congr_left' (by simp [adjustSegment, eq_comm])

end Segment

/-! ## Patterns -/

/-- A pattern has the widths of a row exactly when no segment of it is adjusted. -/
theorem SkeletonRow.hasWidths_iff {fields : List (Char × Nat)}
    (row : SkeletonRow fields) (pattern : LocalePattern) :
    pattern.HasWidths (rowText fields) ↔
      pattern.segments.map (adjustSegment (PanelClock.requestedWidths (rowText fields))) =
        pattern.segments := by
  rw [Segment.map_adjustSegment_eq_self_iff]
  exact forall₂_congr fun run _ => row.takesWidth_iff run.1 run.2 run.2

/-- The result of adjusting a pattern is what is read from its text. -/
theorem adjustWidths_read {skeleton : Text} {pattern result : LocalePattern}
    (accepted : LocalePattern.read pattern.text = .ok pattern)
    (adjusted : adjustWidths skeleton pattern = .ok result) :
    LocalePattern.read result.text = .ok result := by
  unfold adjustWidths at adjusted
  dsimp only at adjusted
  split at adjusted
  · cases adjusted
    exact accepted
  · obtain ⟨rfl, -⟩ := LocalePattern.read_eq_ok_iff.mp adjusted
    exact adjusted

/-- A pattern is adjusted to a row as it should be exactly when its runs have their widths
already or its segments keep their quotes. -/
theorem SkeletonRow.adjustWidths_iff {fields : List (Char × Nat)} (row : SkeletonRow fields)
    {pattern : LocalePattern} (accepted : LocalePattern.read pattern.text = .ok pattern) :
    ((∃ result, adjustWidths (rowText fields) pattern = .ok result ∧
        LocalePattern.read result.text = .ok result ∧
        pattern.Adjusted (rowText fields) result) ↔
      pattern.HasWidths (rowText fields) ∨ Segment.QuotesKept pattern.segments) ∧
    (pattern.HasWidths (rowText fields) → adjustWidths (rowText fields) pattern = .ok pattern) := by
  obtain ⟨whole, allowed⟩ := LocalePattern.read_eq_ok_iff.mp accepted
  have allowed' : ∀ run ∈ Segment.runs pattern.segments, allowsLength run.1 run.2 := by
    rwa [whole]
  have readable : Segment.Readable pattern.segments := by
    rw [whole]
    exact Segment.readable_read pattern.text
  have adjusted_iff : ∀ result : LocalePattern, pattern.Adjusted (rowText fields) result ↔
      joinLiterals result.segments =
        joinLiterals (pattern.segments.map
          (adjustSegment (PanelClock.requestedWidths (rowText fields)))) :=
    fun result => by
      rw [Segment.joinLiterals_map_adjustSegment]
      exact row.forall₂_adjusted_iff _ _
  have kept := row.hasWidths_iff pattern
  have returned : pattern.HasWidths (rowText fields) →
      adjustWidths (rowText fields) pattern = .ok pattern := fun has => if_pos (kept.mp has)
  refine ⟨⟨?adjusted, ?widths⟩, returned⟩
  case adjusted =>
    rintro ⟨result, adjusted, -, matched⟩
    refine or_iff_not_imp_left.mpr fun changed => ?_
    rw [adjustWidths, if_neg (changed ∘ kept.mpr), LocalePattern.read_eq_ok_iff] at adjusted
    rw [adjusted_iff, adjusted.1] at matched
    obtain ⟨readable', -⟩ := readable.adjust allowed' row.askable
    exact (Segment.quotesKept_map_adjustSegment_iff _ _).mp
      (readable'.joinLiterals_read_write_iff.mp matched)
  case widths =>
    rintro (has | quotes)
    · refine ⟨pattern, returned has, accepted, (adjusted_iff pattern).mpr ?_⟩
      rw [kept.mp has]
    · obtain ⟨result, adjusted, back⟩ :=
        adjustWidths_eq_ok_of_quotesKept row readable allowed' quotes
      exact ⟨result, adjusted, adjustWidths_read accepted adjusted, (adjusted_iff result).mpr back⟩

/-- **A pattern is adjusted as it should be exactly when its runs have their widths already or
its segments keep their quotes; and when its runs have their widths, the pattern itself is
returned.**  This holds for every skeleton that a pattern asks for in any locale, and for every
pattern of locale data. -/
theorem adjustWidths_adjusted_iff (names : LocaleNames) (request : Text)
    {pattern : LocalePattern} (accepted : LocalePattern.read pattern.text = .ok pattern) :
    ((∃ result, adjustWidths (buildSkeleton names request) pattern = .ok result ∧
        LocalePattern.read result.text = .ok result ∧
        pattern.Adjusted (buildSkeleton names request) result) ↔
      pattern.HasWidths (buildSkeleton names request) ∨ Segment.QuotesKept pattern.segments) ∧
    (pattern.HasWidths (buildSkeleton names request) →
      adjustWidths (buildSkeleton names request) pattern = .ok pattern) := by
  have written : buildSkeleton names request =
      rowText (skeletonFields names (Segment.runs (tokenize .kept request))) :=
    skeletonOfRuns_eq_rowText _ _
  rw [written]
  exact (skeletonFields_row names _).adjustWidths_iff accepted

/-- Literals in quotes are kept, also around a quote of text. -/
theorem adjustWidths_keeps_quoted_clock :
    ∃ pattern, LocalePattern.read "E, MMM d 'at' h 'o''clock'" = .ok pattern ∧
      ∃ result, adjustWidths (buildSkeleton americanEnglish "EEEE MMMM d h") pattern = .ok result ∧
        LocalePattern.read result.text = .ok result ∧
        pattern.Adjusted (buildSkeleton americanEnglish "EEEE MMMM d h") result := by
  have accepted : LocalePattern.read "E, MMM d 'at' h 'o''clock'" =
      .ok ⟨_, readLocaleSegments "E, MMM d 'at' h 'o''clock'"⟩ := rfl
  refine ⟨_, accepted,
    (adjustWidths_adjusted_iff americanEnglish "EEEE MMMM d h" accepted).1.mpr ?_⟩
  exact .inr (by decide +kernel)

/-- **A quote of text outside quoted sections is lost when a month beside it is widened**, and
the day after it is read as text. -/
theorem adjustWidths_loses_quote :
    ∃ pattern result, LocalePattern.read "MMM '' d" = .ok pattern ∧
      adjustWidths (buildSkeleton americanEnglish "MMMM") pattern = .ok result ∧
      result.text = "MMMM ' d".toList ∧
      ¬ pattern.Adjusted (buildSkeleton americanEnglish "MMMM") result := by
  refine ⟨⟨_, readLocaleSegments "MMM '' d"⟩, ⟨_, readLocaleSegments "MMMM ' d"⟩, rfl, ?_, rfl, ?_⟩
  · decide +kernel
  · intro matched
    exact absurd (List.Forall₂.length_eq matched) (by decide +kernel)

end PanelClock
