import PanelClock.Locale.FieldText
import PanelClock.Proofs.SkeletonMatch

/-!
# What the tables of locale patterns have in common

A locale has a table of patterns, each under a skeleton.  No two skeletons of a
table name the same fields in the same widths, in any order.  The pattern of a
skeleton that a row of fields can lead to can be written in other widths
(`SkeletonPattern.Adjustable`).

A pattern may show its fields otherwise than its own skeleton asks for.  It *pads*
when it has a day or a month in two digits where the skeleton asks for one
(`SkeletonPattern.Pads`).  Adjusting the widths of a pattern to its own skeleton
changes its text at the start of the calendar if it pads, and never otherwise.

These are facts about the data, checked row by row for every table
(`LocaleNames.tabulated_of_read`).
-/

set_option autoImplicit false

namespace PanelClock

/-- The text of segments at a local time. -/
def LocaleNames.segmentsText (names : LocaleNames) (zone : Zone) (time : LocalTime)
    (segments : List Segment) : Except Fault Text :=
  (segments.mapM (names.segmentText zone time)).map List.flatten

/-- The first moment of the calendar on the clocks of universal time. -/
def LocalTime.newYear : LocalTime := ⟨⟨0⟩, ⟨0, false, "UTC"⟩⟩

namespace SkeletonPattern

/-- The segments of a pattern of a table. -/
def segments (row : SkeletonPattern) : List Segment := readLocaleSegments row.pattern

/-- The segments of a pattern in the widths that its own skeleton asks for. -/
def adjusted (row : SkeletonPattern) : List Segment :=
  row.segments.map (adjustSegment (requestedWidths row.skeleton))

/-- All letters of the skeleton are letters that a row of fields can lead to. -/
def Nameable (row : SkeletonPattern) : Prop :=
  ∀ run ∈ skeletonWidths row.skeleton, run.1 ∈ skeletonLetters

/-- The pattern has a day or a month in two digits where its skeleton asks for one. -/
def Pads (row : SkeletonPattern) : Prop :=
  ∃ run ∈ Segment.runs row.segments, run ∈ [('d', 2), ('M', 2), ('L', 2)] ∧
    (requestedWidths row.skeleton).lookup (if run.1 = 'd' then 'd' else 'M') = some 1

instance : DecidablePred Nameable := fun row =>
  inferInstanceAs (Decidable (∀ run ∈ skeletonWidths row.skeleton, run.1 ∈ skeletonLetters))

instance : DecidablePred Pads := fun row =>
  inferInstanceAs (Decidable (∃ run ∈ Segment.runs row.segments,
    run ∈ [('d', 2), ('M', 2), ('L', 2)] ∧
      (requestedWidths row.skeleton).lookup (if run.1 = 'd' then 'd' else 'M') = some 1))

end SkeletonPattern

/-- A run has the same text in another width: the width is the same, or both are those of
an abbreviated weekday. -/
def KeepsText (run : Char × Nat) (width : Nat) : Prop :=
  width = run.2 ∨ (run.1 = 'E' ∧ run.2 ≤ 3 ∧ width ≤ 3)

instance (run : Char × Nat) : DecidablePred (KeepsText run) := fun width =>
  inferInstanceAs (Decidable (width = run.2 ∨ (run.1 = 'E' ∧ run.2 ≤ 3 ∧ width ≤ 3)))

/-- A pattern of a table can be written in other widths: its runs have lengths that their letters
allow, and its quotes are kept when it is written again. -/
structure SkeletonPattern.Adjustable (row : SkeletonPattern) : Prop where
  allowed : ∀ run ∈ Segment.runs row.segments, allowsLength run.1 run.2
  quoted : Segment.QuotesKept row.segments

instance : DecidablePred SkeletonPattern.Adjustable := fun row =>
  decidable_of_iff ((∀ run ∈ Segment.runs row.segments, allowsLength run.1 run.2) ∧
    Segment.QuotesKept row.segments)
    ⟨fun both => ⟨both.1, both.2⟩, fun adjustable => ⟨adjustable.allowed, adjustable.quoted⟩⟩

/-- All patterns that rows of fields can lead to are adjustable. -/
def LocaleNames.Adjustable (names : LocaleNames) : Prop :=
  ∀ row ∈ names.skeletons, row.Nameable → row.Adjustable

/-- What holds of a pattern of a table: it is adjustable, and adjusting it to its own skeleton
changes its text exactly if it pads. -/
structure SkeletonPattern.Sound (names : LocaleNames) (row : SkeletonPattern) : Prop where
  adjustable : row.Adjustable
  keeps : ¬ row.Pads → ∀ run ∈ Segment.runs row.segments,
    KeepsText run (adjustedWidth (requestedWidths row.skeleton) run.1 run.2)
  changes : row.Pads → names.segmentsText .universal .newYear row.adjusted ≠
    names.segmentsText .universal .newYear row.segments

instance (names : LocaleNames) : DecidablePred (SkeletonPattern.Sound names) := fun row =>
  decidable_of_iff (row.Adjustable ∧
    (¬ row.Pads → ∀ run ∈ Segment.runs row.segments,
      KeepsText run (adjustedWidth (requestedWidths row.skeleton) run.1 run.2)) ∧
    (row.Pads → names.segmentsText .universal .newYear row.adjusted ≠
      names.segmentsText .universal .newYear row.segments))
    ⟨fun all => ⟨all.1, all.2.1, all.2.2⟩, fun h => ⟨h.adjustable, h.keeps, h.changes⟩⟩

/-- What holds of the table of a locale: no two skeletons name the same fields in the same
widths, and patterns that rows of fields can lead to are sound. -/
structure LocaleNames.Tabulated (names : LocaleNames) : Prop where
  apart : names.skeletons.Pairwise fun first second =>
    ¬ SameFields (skeletonWidths first.skeleton) (skeletonWidths second.skeleton)
  sound : ∀ row ∈ names.skeletons, row.Nameable → row.Sound names

theorem LocaleNames.Tabulated.adjustable {names : LocaleNames} (tabulated : names.Tabulated) :
    names.Adjustable :=
  fun row inTable nameable => (tabulated.sound row inTable nameable).adjustable

/-! ## Checking a table -/

/-- Goes on with a number that has been evaluated. -/
def withNumeral {α : Type} (n : Nat) (next : Nat → α) : α :=
  match n with
  | 0 => next 0
  | m + 1 => next (m + 1)

/-- Goes on with a text whose characters have been evaluated.  A check looks at a character
many times, and without this a character of a string is decoded every time. -/
def withText {α : Type} : Text → (Text → α) → α
  | [], next => next []
  | c :: rest, next =>
      withNumeral c.toNat fun code => withText rest fun rest => next (Char.ofNat code :: rest)

/-- Goes on with the patterns of a table, their texts evaluated. -/
def withPatterns {α : Type} : List SkeletonPattern → (List SkeletonPattern → α) → α
  | [], next => next []
  | row :: rest, next =>
      withText row.skeleton fun skeleton => withText row.pattern fun pattern =>
        withPatterns rest fun rest => next (⟨skeleton, pattern⟩ :: rest)

theorem withText_eq {α : Type} (text : Text) (next : Text → α) :
    withText text next = next text := by
  induction text generalizing next with
  | nil => rfl
  | cons c rest ih =>
      have numeral : ∀ (n : Nat) (next : Nat → α), withNumeral n next = next n := fun n next => by
        cases n <;> rfl
      rw [withText, numeral, ih, Char.ofNat_toNat]

theorem withPatterns_eq {α : Type} (rows : List SkeletonPattern)
    (next : List SkeletonPattern → α) : withPatterns rows next = next rows := by
  induction rows generalizing next with
  | nil => rfl
  | cons row rest ih => rw [withPatterns, withText_eq, withText_eq, ih]

/-- The check of a table. -/
def LocaleNames.checkTable (names : LocaleNames) : Bool :=
  withPatterns names.skeletons fun rows =>
    decide ((rows.Pairwise fun first second =>
        ¬ SameFields (skeletonWidths first.skeleton) (skeletonWidths second.skeleton)) ∧
      ∀ row ∈ rows, row.Nameable → row.Sound names)

theorem LocaleNames.Tabulated.of_checkTable {names : LocaleNames}
    (checked : names.checkTable = true) : names.Tabulated := by
  rw [checkTable, withPatterns_eq, decide_eq_true_eq] at checked
  exact ⟨checked.1, checked.2⟩

theorem americanEnglish_tabulated : americanEnglish.Tabulated := .of_checkTable (by decide +kernel)

theorem britishEnglish_tabulated : britishEnglish.Tabulated := .of_checkTable (by decide +kernel)

theorem german_tabulated : german.Tabulated := .of_checkTable (by decide +kernel)

theorem french_tabulated : french.Tabulated := .of_checkTable (by decide +kernel)

theorem japanese_tabulated : japanese.Tabulated := .of_checkTable (by decide +kernel)

theorem russian_tabulated : russian.Tabulated := .of_checkTable (by decide +kernel)

theorem traditionalChinese_tabulated : traditionalChinese.Tabulated :=
  .of_checkTable (by decide +kernel)

/-- Every table of a known identifier. -/
theorem localeTable_tabulated : ∀ entry ∈ localeTable, entry.2.Tabulated := by
  simp only [localeTable, List.forall_mem_cons]
  exact ⟨americanEnglish_tabulated, americanEnglish_tabulated, britishEnglish_tabulated,
    german_tabulated, german_tabulated, french_tabulated, french_tabulated, japanese_tabulated,
    japanese_tabulated, russian_tabulated, russian_tabulated, traditionalChinese_tabulated,
    by simp⟩

/-- A locale comes from the table, under whichever identifier it is found. -/
theorem Locale.exists_mem_localeTable {id : LocaleId} {locale : Locale}
    (found : Locale.ofId? id = some locale) : ∃ base, (base, locale.names) ∈ localeTable := by
  obtain ⟨other, known⟩ : ∃ other, Locale.known? other = some locale := by
    simp only [Locale.ofId?, Option.orElse_eq_orElse, Option.orElse_eq_or, Option.or_eq_some_iff,
      Option.bind_eq_some_iff] at found
    rcases found with here | ⟨-, reduced | ⟨-, full, -, named⟩⟩
    · exact ⟨_, here⟩
    · exact ⟨_, reduced⟩
    · exact ⟨_, named⟩
  obtain ⟨names, entry, rfl⟩ := Option.map_eq_some_iff.mp known
  obtain ⟨before, after, split, -⟩ := List.lookup_eq_some_iff.mp entry
  exact ⟨_, by rw [split]; exact List.mem_append_right before List.mem_cons_self⟩

/-- **Every locale that a code names has such a table.** -/
theorem LocaleNames.tabulated_of_read {code : Text} {locale : Locale}
    (known : Locale.read code = .ok locale) : locale.names.Tabulated := by
  unfold Locale.read at known
  cases read : LocaleId.read code with
  | error fault =>
      rw [read] at known
      cases known
  | ok id =>
      rw [read] at known
      dsimp only [bind, Except.bind] at known
      cases found : Locale.ofId? id with
      | none =>
          rw [found] at known
          cases known
      | some other =>
          rw [found] at known
          obtain rfl := Except.ok.inj known
          obtain ⟨base, member⟩ := Locale.exists_mem_localeTable found
          exact localeTable_tabulated _ member

end PanelClock
