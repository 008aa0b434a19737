import PanelClock.Proofs.Compiling

/-!
# The runs that are rendered

Which runs of a pattern are rendered is decided by several tables: the rules of field
letters with their styles, the runs of locale data, and the letters that are computed
without locale data.  Together they render the runs of three groups of letters, the last
up to a length of five (`Rendered`).  For each table one lemma says for which runs it has a
form (`isSome_ofRule?_iff`, `isSome_ofArithmetic?_iff`); a run is rendered when one of them
has (`isSome_ofRun?_iff`).

A pattern that prescribes its layout is compiled to one part for each literal and for each
run that is rendered, in order (`forall₂_parts`).
-/

set_option autoImplicit false

namespace PanelClock

/-- The letters that have a rule. -/
def ruledLetters : Text := "GyYurMLwdEecabBhHkKjJCmszZvVXx"

theorem FieldRule.isSome_ofLetter?_iff {letter : Char} :
    (FieldRule.ofLetter? letter).isSome ↔ letter ∈ ruledLetters := by
  constructor
  · intro some
    obtain ⟨rule, found⟩ := Option.isSome_iff_exists.mp some
    unfold FieldRule.ofLetter? at found
    split at found <;> cases found <;> decide
  · intro member
    have every : ∀ letter ∈ ruledLetters, (FieldRule.ofLetter? letter).isSome :=
      List.all_eq_true.mp rfl
    exact every letter member

/-- A run that is rendered: letters that are computed without locale data, weeks and
weekdays in any length, the other letters with a rule up to a length of five. -/
def Rendered (letter : Char) (length : Nat) : Prop :=
  letter ∈ ("QqWFgSAZOXx" : Text) ∨ letter ∈ ("weEc" : Text) ∨
    (letter ∈ ruledLetters ∧ length ≤ 5)

instance (letter : Char) (length : Nat) : Decidable (Rendered letter length) :=
  inferInstanceAs (Decidable (_ ∨ _ ∨ _))

/-! ## The two tables of forms -/

/-- A field of locale data has a run for every style that its rule leads to, up to a length of
five. -/
theorem FieldRule.isSome_namedRun? {letter : Char} {rule : FieldRule}
    (found : FieldRule.ofLetter? letter = some rule)
    (named : rule.kind ∉ [.week, .period, .hour, .minute, .second]) {length : Nat}
    (positive : 1 ≤ length) (short : length ≤ 5) :
    ((rule.style.style? length).bind (namedRun? rule.kind)).isSome := by
  have every : ∀ length ∈ [1, 2, 3, 4, 5],
      ((rule.style.style? length).bind (namedRun? rule.kind)).isSome := by
    unfold FieldRule.ofLetter? at found
    split at found <;> cases found <;> revert named <;> decide
  exact every length (by simp; omega)

/-- Only the week of the year has a rule and no run in locale data or number of the time. -/
theorem FieldRule.eq_of_week {letter : Char} {rule : FieldRule}
    (found : FieldRule.ofLetter? letter = some rule) (week : rule.kind = .week) :
    letter = 'w' := by
  unfold FieldRule.ofLetter? at found
  revert week
  split at found <;> cases found <;> decide

namespace FieldForm

/-- A letter with a rule has a form of locale data or is a number, up to a length of five,
unless it is a week or an offset that is computed. -/
theorem isSome_ofRule? {hasPlace : Bool} {letter : Char} {rule : FieldRule}
    (found : FieldRule.ofLetter? letter = some rule) {length : Nat} (positive : 1 ≤ length)
    (plain : ¬ (letter = 'w' ∨ letter = 'W' ∨ 5 < length))
    (zone : ¬ (letter = 'x' ∨ letter = 'X' ∨ (letter = 'Z' ∧ 3 ≤ length))) :
    (ofRule? hasPlace letter length).isSome := by
  have short : length ≤ 5 := by omega
  obtain ⟨style, shown⟩ := (FieldRule.grounded_of_ofLetter? found).exists_style positive
  -- A field of locale data is a long year, a generic zone name, or has a run.
  have field (kind : FieldKind) (run : (namedRun? kind style).isSome) :
      (if kind = .year ∧ length = 5 then some longYear
        else if letter = 'v' ∧ hasPlace then
          some (.named 'v' (if style = .long then 4 else 1) length)
        else (namedRun? kind style).bind fun run => some (.named run.1 run.2 length)).isSome := by
    obtain ⟨run, named⟩ := Option.isSome_iff_exists.mp run
    split
    · rfl
    · split
      · rfl
      · rw [named]
        rfl
  have run (named : rule.kind ∉ [.week, .period, .hour, .minute, .second]) :
      (namedRun? rule.kind style).isSome := by
    simpa [shown] using FieldRule.isSome_namedRun? found named positive short
  rw [ofRule?, if_neg plain, if_neg zone, found]
  simp only [Option.bind_eq_bind, Option.bind_some, shown]
  cases kind : rule.kind with
  | hour | minute | second | period => rfl
  | week => exact absurd (.inl (FieldRule.eq_of_week found kind)) plain
  | era | year | month | day | weekday | timeZoneName =>
      exact field _ (kind ▸ run (by rw [kind]; decide))

/-- **Which letters have a form of locale data or are numbers.** -/
theorem isSome_ofRule?_iff {hasPlace : Bool} {letter : Char} {length : Nat}
    (positive : 1 ≤ length) :
    (ofRule? hasPlace letter length).isSome ↔
      letter ∈ ruledLetters ∧
        ¬ (letter = 'w' ∨ letter = 'W' ∨ 5 < length) ∧
        ¬ (letter = 'x' ∨ letter = 'X' ∨ (letter = 'Z' ∧ 3 ≤ length)) := by
  constructor
  · intro some
    by_cases plain : letter = 'w' ∨ letter = 'W' ∨ 5 < length
    · rw [ofRule?, if_pos plain] at some
      cases some
    by_cases zone : letter = 'x' ∨ letter = 'X' ∨ (letter = 'Z' ∧ 3 ≤ length)
    · rw [ofRule?, if_neg plain, if_pos zone] at some
      cases some
    refine ⟨FieldRule.isSome_ofLetter?_iff.mp ?_, plain, zone⟩
    by_contra missing
    rw [ofRule?, if_neg plain, if_neg zone, Option.not_isSome_iff_eq_none.mp missing] at some
    cases some
  · rintro ⟨ruled, plain, zone⟩
    obtain ⟨rule, found⟩ := Option.isSome_iff_exists.mp (FieldRule.isSome_ofLetter?_iff.mpr ruled)
    exact isSome_ofRule? found positive plain zone

/-- Letters that are computed without locale data have a form of any length. -/
theorem isSome_ofArithmetic?_iff {firstWeekday : Int} {letter : Char} {length : Nat} :
    (ofArithmetic? firstWeekday letter length).isSome ↔ letter ∈ ("wQqWFgSAZOXx" : Text) := by
  constructor
  · intro some
    obtain ⟨form, found⟩ := Option.isSome_iff_exists.mp some
    unfold ofArithmetic? at found
    split at found <;> cases found <;> decide
  · intro member
    have every : ∀ letter ∈ ("wQqWFgSAZOXx" : Text),
        ∀ length, (ofArithmetic? firstWeekday letter length).isSome := by
      simp [ofArithmetic?]
    exact every letter member length

/-- Between them the two tables have the letters that are computed in any length, and the
other letters with a rule up to a length of five. -/
theorem isSome_ofRule?_or_ofArithmetic?_iff {firstWeekday : Int} {hasPlace : Bool}
    {letter : Char} {length : Nat} (positive : 1 ≤ length) :
    (ofRule? hasPlace letter length).isSome ∨ (ofArithmetic? firstWeekday letter length).isSome ↔
      letter ∈ ("wQqWFgSAZOXx" : Text) ∨ (letter ∈ ruledLetters ∧ length ≤ 5) := by
  rw [isSome_ofRule?_iff positive, isSome_ofArithmetic?_iff]
  constructor
  · rintro (⟨ruled, plain, -⟩ | computed)
    · exact .inr ⟨ruled, by omega⟩
    · exact .inl computed
  · rintro (computed | ⟨ruled, short⟩)
    · exact .inr computed
    · by_cases computed : letter ∈ ("wQqWFgSAZOXx" : Text)
      · exact .inr computed
      · -- The letters that the first table leaves out are computed.
        refine .inl ⟨ruled, ?_, ?_⟩
        · rintro (rfl | rfl | long)
          · exact computed (by decide)
          · exact computed (by decide)
          · omega
        · rintro (rfl | rfl | ⟨rfl, -⟩) <;> exact computed (by decide)

/-- **The runs that have a form.**  A long run of a weekday letter has one of its own. -/
theorem isSome_ofRun?_iff {firstWeekday : Int} {hasPlace : Bool} {letter : Char} {length : Nat}
    (positive : 1 ≤ length) :
    (ofRun? firstWeekday hasPlace letter length).isSome ↔ Rendered letter length := by
  unfold ofRun?
  split
  · next weekday =>
      refine iff_of_true rfl (.inr (.inl ?_))
      obtain ⟨-, rfl | rfl | rfl⟩ := weekday <;> decide
  · next other =>
      rw [Option.orElse_eq_orElse, Option.orElse_eq_or, Option.isSome_or, Bool.or_eq_true,
        isSome_ofRule?_or_ofArithmetic?_iff positive]
      constructor
      · rintro (computed | ruled)
        · rcases List.mem_cons.mp computed with rfl | direct
          · exact .inr (.inl (by decide))
          · exact .inl direct
        · exact .inr (.inr ruled)
      · rintro (direct | weekly | ruled)
        · exact .inl (List.mem_cons_of_mem _ direct)
        · have letters : letter = 'w' ∨ letter = 'e' ∨ letter = 'E' ∨ letter = 'c' := by
            simpa using weekly
          rcases letters with rfl | weekday
          · exact .inl (by decide)
          · have short : length ≤ 5 := Nat.le_of_not_lt fun long => other ⟨long, weekday⟩
            rcases weekday with rfl | rfl | rfl <;> exact .inr ⟨by decide, short⟩
        · exact .inr ruled

end FieldForm

/-! ## The parts of an explicit pattern -/

/-- A segment that is rendered: a literal, or a run that is. -/
def Segment.IsRendered : Segment → Prop
  | literal _ => True
  | field letter length => Rendered letter length

instance : DecidablePred Segment.IsRendered
  | .literal _ => isTrue trivial
  | .field letter length => inferInstanceAs (Decidable (Rendered letter length))

namespace RenderContext

variable (context : RenderContext)

/-- A part renders a segment: the same literal, or the run with its form. -/
def Renders : Segment → RenderPart → Prop
  | .literal text, .literal shown => shown = text
  | .field letter length, .run specifier form =>
      specifier = Segment.specifier letter length ∧ context.fieldForm? letter length = some form
  | _, _ => False

variable {context}

/-- A run has a form exactly when it is rendered. -/
theorem isSome_fieldForm?_iff {letter : Char} {length : Nat} (positive : 1 ≤ length) :
    (context.fieldForm? letter length).isSome ↔ Rendered letter length :=
  FieldForm.isSome_ofRun?_iff positive

/-- **Segments have one part for each that is rendered, and no other.** -/
theorem forall₂_parts {segments : List Segment}
    (positive : ∀ letter length, .field letter length ∈ segments → 1 ≤ length) :
    List.Forall₂ context.Renders (segments.filter (·.IsRendered))
      (segments.filterMap context.part?) := by
  induction segments with
  | nil => exact .nil
  | cons segment rest ih =>
      have later := ih fun letter length member =>
        positive letter length (List.mem_cons_of_mem _ member)
      cases segment with
      | literal text => exact .cons rfl later
      | field letter length =>
          have rendered : (context.fieldForm? letter length).isSome ↔ Rendered letter length :=
            isSome_fieldForm?_iff (positive letter length List.mem_cons_self)
          cases form : context.fieldForm? letter length with
          | none =>
              have dropped : ¬ (Segment.field letter length).IsRendered := fun shown => by
                simpa [form] using rendered.mpr shown
              rw [List.filter_cons_of_neg (by simpa using dropped),
                List.filterMap_cons_none (by simp [part?, form])]
              exact later
          | some form' =>
              have kept : (Segment.field letter length).IsRendered :=
                rendered.mp (by rw [form]; rfl)
              have part : context.part? (.field letter length) =
                  some (.run (Segment.specifier letter length) form') := by simp [part?, form]
              rw [List.filter_cons_of_pos (by simpa using kept), List.filterMap_cons_some part]
              exact .cons ⟨rfl, form⟩ later

/-- **Exactly the documented runs are rendered.**  Finding the form of a run never fails,
whatever its letter and length, and there is one for exactly the runs that are rendered.
A formatter that has answered any requests compiles a pattern that prescribes its layout to
one part for each literal and each such run, in order; all other runs are dropped. -/
theorem rendered_runs (context : RenderContext) :
    (∀ (letter : Char) (length : Nat), 1 ≤ length →
      FieldForm.ofRunChecked context.firstWeekday context.zone.key?.isSome letter length =
          .ok (context.fieldForm? letter length) ∧
        ((context.fieldForm? letter length).isSome ↔ Rendered letter length)) ∧
      ∀ (system : System) (requests : List FormatterRequest) (pattern : Text),
        let formatter := PatternFormatter.afterRequests system { context := context } requests
        ∃ parts, (formatter.renderer (patternMarker :: pattern)).1 =
            .ok (some (rendererOfParts (patternMarker :: pattern) parts)) ∧
          List.Forall₂ context.Renders ((tokenize .dropped pattern).filter (·.IsRendered))
            parts := by
  refine ⟨fun letter length positive => ?_, fun system requests pattern => ?_⟩
  · exact ⟨FieldForm.ofRunChecked_eq_ok _ _ letter positive, isSome_fieldForm?_iff positive⟩
  · obtain ⟨sound, same⟩ :=
      (PatternFormatter.sound_empty context).afterRequests system requests
    refine ⟨(tokenize .dropped pattern).filterMap context.part?, ?_, ?_⟩
    · rw [(sound.renderer _).1, same]
      rfl
    · exact forall₂_parts fun letter length member =>
        ((tokenize_normal .dropped pattern).shaped _ member).2

/-- A weekday is rendered in a length of six, a month is not. -/
theorem rendered_runs_of_six :
    let context : RenderContext := ⟨⟨{ language := "en" }, britishEnglish⟩, .universal, 0⟩
    1 ≤ 6 ∧ (context.fieldForm? 'c' 6).isSome ∧ ¬ (context.fieldForm? 'M' 6).isSome := by
  intro context
  have six : 1 ≤ 6 := by decide
  obtain ⟨runs, -⟩ := rendered_runs context
  exact ⟨six, (runs 'c' 6 six).2.mpr (by decide), fun some =>
    absurd ((runs 'M' 6 six).2.mp some) (by decide)⟩

end RenderContext

end PanelClock
