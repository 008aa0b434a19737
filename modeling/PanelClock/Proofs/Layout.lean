import PanelClock.Pattern.Formatter
import PanelClock.Proofs.LocaleTables

/-!
# When the order of the fields shows in a layout

A pattern without the marker only says which fields should appear, and the locale
lays them out.  Two such patterns whose runs are the same in another order should
be laid out alike.  Whether they are depends on two paths.  A skeleton that the
locale has a pattern for gets this pattern as it is, and any other skeleton gets
the closest pattern with its widths adjusted.  Another order of the same fields
leads to the same pattern of the table, but only one order is the skeleton that
the table has, so that one order may get the pattern as it is and the other order
the adjusted one.

The adjusted pattern gives the same text unless the pattern pads: a day or a month
stands in two digits where the skeleton asks for one.  Two patterns are laid out
alike exactly when they ask for the same skeleton or neither asks for the skeleton
of a pattern that pads (`Locale.sameLayout_iff`).  In British English the numeric
month and day are such a skeleton (`Locale.layout_depends_on_order`).
-/

set_option autoImplicit false

namespace PanelClock

/-! ## Texts of adjusted segments -/

namespace LocaleNames

variable (names : LocaleNames) (zone : Zone) (time : LocalTime)

theorem segmentsText_cons (first : Segment) (rest : List Segment) :
    names.segmentsText zone time (first :: rest) = (do
      let here ← names.segmentText zone time first
      let later ← names.segmentsText zone time rest
      return here ++ later) :=
  map_flatten_mapM_cons _ first rest

theorem segmentsText_literal (text : Text) (rest : List Segment) :
    names.segmentsText zone time (.literal text :: rest) =
      (names.segmentsText zone time rest).map (text ++ ·) := by
  rw [segmentsText_cons]
  cases names.segmentsText zone time rest <;> rfl

/-- Joining literals changes no text. -/
theorem segmentsText_joinLiterals (segments : List Segment) :
    names.segmentsText zone time (Segment.joinLiterals segments) =
      names.segmentsText zone time segments := by
  fun_induction Segment.joinLiterals segments with
  | case1 => rfl
  | case2 letter length rest ih => rw [segmentsText_cons, segmentsText_cons, ih]
  | case3 text rest next others joined ih =>
      rw [segmentsText_literal, segmentsText_literal, ← ih, joined, segmentsText_literal]
      cases names.segmentsText zone time others with
      | error fault => rfl
      | ok later => simp [Except.map]
  | case4 text rest _ ih => rw [segmentsText_literal, segmentsText_literal, ih]

/-- A run in a width that keeps its text has the same text. -/
theorem segmentText_of_keepsText {letter : Char} {length width : Nat}
    (keeps : KeepsText (letter, length) width) :
    names.segmentText zone time (.field letter width) =
      names.segmentText zone time (.field letter length) := by
  rcases keeps with same | ⟨weekday, before, after⟩
  · rw [show width = length from same]
  · have weekday' : letter = 'E' := weekday
    have before' : length ≤ 3 := before
    subst weekday'
    simp [segmentText, fieldText?, NameWidth.ofLength, before', after]

/-- **Adjusted segments have the same text when every run keeps its text.** -/
theorem segmentsText_adjust {requested : List (Char × Nat)} {segments : List Segment}
    (keeps : ∀ run ∈ Segment.runs segments,
      KeepsText run (adjustedWidth requested run.1 run.2)) :
    names.segmentsText zone time (segments.map (adjustSegment requested)) =
      names.segmentsText zone time segments := by
  induction segments with
  | nil => rfl
  | cons segment rest ih =>
      rw [List.map_cons, segmentsText_cons, segmentsText_cons]
      cases segment with
      | literal text => rw [ih keeps]; rfl
      | field letter length =>
          obtain ⟨here, later⟩ := List.forall_mem_cons.mp keeps
          rw [ih later, adjustSegment, names.segmentText_of_keepsText zone time here]

end LocaleNames

/-! ## Matching in a table -/

/-- The pattern of a row of a table. -/
def SkeletonPattern.localePattern (row : SkeletonPattern) : LocalePattern :=
  ⟨row.pattern, row.segments⟩

/-- The skeleton is the one of a pattern that pads. -/
def LocaleNames.Pads (names : LocaleNames) (skeleton : Text) : Prop :=
  ∃ row ∈ names.skeletons, row.skeleton = skeleton ∧ row.Pads

instance (names : LocaleNames) : DecidablePred names.Pads := fun skeleton =>
  inferInstanceAs (Decidable (∃ row ∈ names.skeletons, row.skeleton = skeleton ∧ row.Pads))

namespace SkeletonPattern.Adjustable

variable {entry : SkeletonPattern}

theorem read (adjustable : entry.Adjustable) :
    LocalePattern.read entry.pattern = .ok entry.localePattern :=
  LocalePattern.read_eq_ok_iff.mpr ⟨rfl, adjustable.allowed⟩

/-- An adjustable pattern is adjusted to a row of fields without a fault. -/
theorem adjustWidths_eq_ok (adjustable : entry.Adjustable) {fields : List (Char × Nat)}
    (row : SkeletonRow fields) :
    ∃ adjusted, adjustWidths (rowText fields) entry.localePattern = .ok adjusted ∧
      Segment.joinLiterals adjusted.segments =
        Segment.joinLiterals
          (entry.segments.map (adjustSegment (requestedWidths (rowText fields)))) :=
  adjustWidths_eq_ok_of_quotesKept row (Segment.readable_read entry.pattern) adjustable.allowed
    adjustable.quoted

end SkeletonPattern.Adjustable

/-- The letters of the widths of a skeleton are distinct. -/
theorem skeletonWidths_nodup (skeleton : Text) :
    ((skeletonWidths skeleton).map Prod.fst).Nodup :=
  putRuns_nodup List.nodup_nil

namespace LocaleNames.Tabulated

variable {names : LocaleNames}

/-- Patterns of a table whose skeletons have the same fields in the same widths are the
same. -/
theorem eq_of_sameFields (tabulated : names.Tabulated) {first second : SkeletonPattern}
    (inTable : first ∈ names.skeletons) (inTable' : second ∈ names.skeletons)
    (same : SameFields (skeletonWidths first.skeleton) (skeletonWidths second.skeleton)) :
    first = second := by
  have symmetric : Std.Symm fun first second : SkeletonPattern =>
      ¬ SameFields (skeletonWidths first.skeleton) (skeletonWidths second.skeleton) := by
    refine ⟨fun first second differ same => differ ?_⟩
    rw [sameFields_iff_perm (skeletonWidths_nodup _)] at same ⊢
    exact same.symm
  by_contra differ
  exact tabulated.apart.forall inTable inTable' differ same

/-- The table has one pattern for a skeleton. -/
theorem patternOf? (tabulated : names.Tabulated) {row : SkeletonPattern}
    (inTable : row ∈ names.skeletons) : names.patternOf? row.skeleton = some row.pattern := by
  cases found : names.skeletons.find? (·.skeleton = row.skeleton) with
  | none => exact absurd (List.find?_eq_none.mp found row inTable) (by simp)
  | some other =>
      have key : other.skeleton = row.skeleton := by simpa using List.find?_some found
      have same : other = row :=
        tabulated.eq_of_sameFields (List.mem_of_find?_eq_some found) inTable
          (key ▸ sameFields_of_perm (skeletonWidths_nodup _) (List.Perm.refl _))
      rw [LocaleNames.patternOf?, found, same]
      rfl

end LocaleNames.Tabulated

namespace LocaleNames

variable {names : LocaleNames} {skeleton : Text}

theorem exists_of_patternOf?_eq_some {text : Text} (found : names.patternOf? skeleton = some text) :
    ∃ row ∈ names.skeletons, row.skeleton = skeleton ∧ row.pattern = text := by
  obtain ⟨row, here, pattern⟩ := Option.map_eq_some_iff.mp found
  exact ⟨row, List.mem_of_find?_eq_some here, by simpa using List.find?_some here, pattern⟩

/-- A skeleton of the table has a pattern. -/
theorem exists_patternOf? {row : SkeletonPattern} (inTable : row ∈ names.skeletons) :
    ∃ text, names.patternOf? row.skeleton = some text := by
  cases found : names.patternOf? row.skeleton with
  | some text => exact ⟨text, rfl⟩
  | none =>
      have other := List.find?_eq_none.mp (Option.map_eq_none_iff.mp found) row inTable
      exact absurd (decide_eq_true rfl) other

/-- A pattern whose skeleton is that of a row of fields is one that rows of fields lead to. -/
theorem nameable_of_skeleton_eq {fields : List (Char × Nat)} (row : SkeletonRow fields)
    {entry : SkeletonPattern} (key : entry.skeleton = rowText fields) : entry.Nameable := by
  intro run member
  rw [key, row.skeletonWidths] at member
  exact mem_skeletonLetters (row.widths run member)

/-- **In a table of adjustable patterns every row of fields has a pattern or has none, but never
leads to a fault.** -/
theorem Adjustable.matchPattern_eq_ok (adjustable : names.Adjustable)
    {fields : List (Char × Nat)} (row : SkeletonRow fields) :
    ∃ matched, names.matchPattern (rowText fields) = .ok matched := by
  unfold matchPattern
  cases found : names.patternOf? (rowText fields) with
  | some text =>
      obtain ⟨entry, inTable, key, rfl⟩ := exists_of_patternOf?_eq_some found
      have here := adjustable entry inTable (nameable_of_skeleton_eq row key)
      exact ⟨_, congrArg (Except.map some) here.read⟩
  | none =>
      cases chosen : matchSkeleton? (rowText fields) (names.skeletons.map (·.skeleton)) with
      | none => exact ⟨none, rfl⟩
      | some option =>
          obtain ⟨listed, nameable⟩ := row.of_matchSkeleton?_eq_some chosen
          obtain ⟨same, inTable', rfl⟩ := List.mem_map.mp listed
          obtain ⟨text, pattern⟩ := exists_patternOf? inTable'
          obtain ⟨entry, inTable, key, rfl⟩ := exists_of_patternOf?_eq_some pattern
          have here := adjustable entry inTable (fun run member => nameable run (key ▸ member))
          obtain ⟨adjusted, result, -⟩ := here.adjustWidths_eq_ok row
          simp only [Option.bind_some, pattern, here.read]
          exact ⟨some adjusted, congrArg (Except.map some) result⟩

/-- A skeleton that the table does not have is not the one of a pattern that pads. -/
theorem not_pads_of_patternOf?_eq_none (absent : names.patternOf? skeleton = none) :
    ¬ names.Pads skeleton := by
  rintro ⟨row, inTable, key, -⟩
  have none := List.find?_eq_none.mp (Option.map_eq_none_iff.mp absent) row inTable
  exact none (by simpa using key)

/-- A skeleton of the table is the one of a pattern that pads exactly when its own pattern
pads. -/
theorem Tabulated.pads_iff (tabulated : names.Tabulated) {row : SkeletonPattern}
    (inTable : row ∈ names.skeletons) (key : row.skeleton = skeleton) :
    names.Pads skeleton ↔ row.Pads := by
  constructor
  · rintro ⟨other, inTable', key', pads⟩
    have same : other = row := tabulated.eq_of_sameFields inTable' inTable (by
      rw [key', key]
      exact sameFields_of_perm (skeletonWidths_nodup _) (List.Perm.refl _))
    exact same ▸ pads
  · exact fun pads => ⟨row, inTable, key, pads⟩

end LocaleNames

namespace LocaleNames.Tabulated

variable {names : LocaleNames}

/-- A pattern of the table whose skeleton is that of a row of fields is taken as it is. -/
theorem matchPattern_of_mem (tabulated : names.Tabulated) {fields : List (Char × Nat)}
    (row : SkeletonRow fields) {entry : SkeletonPattern} (inTable : entry ∈ names.skeletons)
    (key : entry.skeleton = rowText fields) :
    entry.Sound names ∧
      names.matchPattern (rowText fields) = .ok (some entry.localePattern) := by
  have sound := tabulated.sound entry inTable (nameable_of_skeleton_eq row key)
  refine ⟨sound, ?_⟩
  rw [LocaleNames.matchPattern, ← key, tabulated.patternOf? inTable]
  simp only [sound.adjustable.read]
  rfl

/-- **A row of fields that the table has no pattern for gets the pattern of the skeleton that
is chosen for it, with its widths adjusted.** -/
theorem matchPattern_of_chosen (tabulated : names.Tabulated) {fields : List (Char × Nat)}
    (row : SkeletonRow fields) (absent : names.patternOf? (rowText fields) = none)
    {entry : SkeletonPattern} (inTable : entry ∈ names.skeletons)
    (chosen : matchSkeleton? (rowText fields) (names.skeletons.map (·.skeleton)) =
      some entry.skeleton) :
    ∃ adjusted, names.matchPattern (rowText fields) = .ok (some adjusted) ∧
      Segment.joinLiterals adjusted.segments =
        Segment.joinLiterals
          (entry.segments.map (adjustSegment (requestedWidths (rowText fields)))) := by
  have adjustable := tabulated.adjustable entry inTable (row.of_matchSkeleton?_eq_some chosen).2
  obtain ⟨adjusted, result, joined⟩ := adjustable.adjustWidths_eq_ok row
  refine ⟨adjusted, ?_, joined⟩
  rw [LocaleNames.matchPattern, absent]
  dsimp only
  rw [chosen, Option.bind_some, tabulated.patternOf? inTable]
  simp only [adjustable.read]
  exact congrArg (Except.map some) result

/-- **Another order of the fields of a skeleton of the table leads to the pattern of this
skeleton, with its widths adjusted.** -/
theorem matchPattern_of_perm (tabulated : names.Tabulated) {first second : List (Char × Nat)}
    (row : SkeletonRow first) (permuted : first.Perm second) {entry : SkeletonPattern}
    (inTable : entry ∈ names.skeletons) (key : entry.skeleton = rowText first)
    (absent : names.patternOf? (rowText second) = none) :
    ∃ adjusted, names.matchPattern (rowText second) = .ok (some adjusted) ∧
      Segment.joinLiterals adjusted.segments = Segment.joinLiterals entry.adjusted := by
  have listed : rowText first ∈ names.skeletons.map (·.skeleton) :=
    List.mem_map.mpr ⟨entry, inTable, key⟩
  obtain ⟨option, member, chosen, same⟩ := matchSkeleton?_of_mem row permuted listed
  obtain ⟨other, inTable', rfl⟩ := List.mem_map.mp member
  -- No other skeleton of the table has the same fields in the same widths.
  obtain rfl : entry = other := by
    refine tabulated.eq_of_sameFields inTable inTable' ?_
    rwa [key, row.skeletonWidths]
  rw [SkeletonPattern.adjusted, key, adjustSegment_perm row permuted]
  exact tabulated.matchPattern_of_chosen (row.perm permuted) absent inTable chosen

/-- Two orders of a row of fields that the table has no pattern for lead to the same. -/
theorem matchPattern_perm {first second : List (Char × Nat)} (row : SkeletonRow first)
    (permuted : first.Perm second) (absent : names.patternOf? (rowText first) = none)
    (absent' : names.patternOf? (rowText second) = none) :
    names.matchPattern (rowText first) = names.matchPattern (rowText second) := by
  simp only [LocaleNames.matchPattern, absent, absent', matchSkeleton?_perm row permuted,
    adjustWidths, adjustSegment_perm row permuted]

/-- The table has a row of fields in one order at most. -/
theorem rowText_eq_of_perm (tabulated : names.Tabulated) {first second : List (Char × Nat)}
    (row : SkeletonRow first) (permuted : first.Perm second) {text text' : Text}
    (found : names.patternOf? (rowText first) = some text)
    (found' : names.patternOf? (rowText second) = some text') :
    rowText first = rowText second := by
  obtain ⟨entry, inTable, key, -⟩ := exists_of_patternOf?_eq_some found
  obtain ⟨entry', inTable', key', -⟩ := exists_of_patternOf?_eq_some found'
  have same : entry = entry' := by
    refine tabulated.eq_of_sameFields inTable inTable' ?_
    rw [key, key', row.skeletonWidths, (row.perm permuted).skeletonWidths]
    exact sameFields_of_perm row.nodup permuted
  rw [← key, ← key', same]

end LocaleNames.Tabulated

/-! ## Layouts -/

namespace Locale

/-- Two patterns are laid out alike: the locale has no pattern for either, or one for both,
and rendering them gives the same text, or the same fault, at every instant. -/
def SameLayout (locale : Locale) (first second : Text) : Prop :=
  let matched (pattern : Text) := locale.names.matchPattern (buildSkeleton locale.names pattern)
  (matched first = .ok none ∧ matched second = .ok none) ∨
    ∃ layout layout', matched first = .ok (some layout) ∧ matched second = .ok (some layout') ∧
      ∀ (system : System) (context : RenderContext) (instant : Instant),
        context.locale = locale →
          (Renderer.layout first layout).text system context instant =
            (Renderer.layout second layout').text system context instant

theorem SameLayout.symm {locale : Locale} {first second : Text}
    (same : locale.SameLayout first second) : locale.SameLayout second first := by
  rcases same with ⟨none, none'⟩ | ⟨layout, layout', found, found', equal⟩
  · exact .inl ⟨none', none⟩
  · exact .inr ⟨layout', layout, found', found,
      fun system context instant here => (equal system context instant here).symm⟩

theorem sameLayout_comm {locale : Locale} {first second : Text} :
    locale.SameLayout first second ↔ locale.SameLayout second first :=
  ⟨SameLayout.symm, SameLayout.symm⟩

/-- Patterns that lead to the same are laid out alike, because they lead to no fault. -/
theorem sameLayout_of_eq {locale : Locale} (tabulated : locale.names.Tabulated)
    {first second : Text}
    (equal : locale.names.matchPattern (buildSkeleton locale.names first) =
      locale.names.matchPattern (buildSkeleton locale.names second)) :
    locale.SameLayout first second := by
  have row := skeletonFields_row locale.names (Segment.runs (tokenize .kept first))
  obtain ⟨matched, result⟩ := tabulated.adjustable.matchPattern_eq_ok row
  have found : locale.names.matchPattern (buildSkeleton locale.names first) = .ok matched := by
    rw [buildSkeleton, skeletonOfRuns_eq_rowText, result]
  have found' := equal.symm.trans found
  cases matched with
  | none => exact .inl ⟨found, found'⟩
  | some layout => exact .inr ⟨layout, layout, found, found', fun _ _ _ _ => rfl⟩

/-- The text of a layout in universal time at the first moment of the calendar. -/
theorem layoutText_newYear (locale : Locale) (pattern : Text) (layout : LocalePattern) :
    (Renderer.layout pattern layout).text .standard ⟨locale, .universal, 6⟩
        (.aware (.atOffset ⟨0⟩ 0)) =
      locale.names.segmentsText .universal .newYear layout.segments :=
  rfl

variable {locale : Locale} {first second : Text}

/-- **When one order is a skeleton of the table and the other is not, the layouts are alike
exactly when the pattern of the skeleton does not pad.** -/
theorem sameLayout_iff_of_mem (tabulated : locale.names.Tabulated)
    {fields fields' : List (Char × Nat)} (row : SkeletonRow fields)
    (permuted : fields.Perm fields') (skeleton : buildSkeleton locale.names first = rowText fields)
    (skeleton' : buildSkeleton locale.names second = rowText fields')
    {entry : SkeletonPattern} (inTable : entry ∈ locale.names.skeletons)
    (key : entry.skeleton = rowText fields)
    (absent : locale.names.patternOf? (rowText fields') = none) :
    locale.SameLayout first second ↔ ¬ entry.Pads := by
  obtain ⟨sound, asIs⟩ := tabulated.matchPattern_of_mem row inTable key
  obtain ⟨adjusted, other, joined⟩ := tabulated.matchPattern_of_perm row permuted inTable key absent
  rw [← skeleton] at asIs
  rw [← skeleton'] at other
  have text : ∀ zone time, locale.names.segmentsText zone time adjusted.segments =
      locale.names.segmentsText zone time entry.adjusted := fun zone time => by
    rw [← LocaleNames.segmentsText_joinLiterals, joined, LocaleNames.segmentsText_joinLiterals]
  constructor
  · intro same pads
    rcases same with ⟨none, -⟩ | ⟨layout, layout', found, found', equal⟩
    · cases asIs.symm.trans none
    · obtain rfl : entry.localePattern = layout := by
        simpa using asIs.symm.trans found
      obtain rfl : adjusted = layout' := by simpa using other.symm.trans found'
      have atNewYear := equal .standard ⟨locale, .universal, 6⟩ (.aware (.atOffset ⟨0⟩ 0)) rfl
      rw [layoutText_newYear, layoutText_newYear, text] at atNewYear
      exact sound.changes pads atNewYear.symm
  · intro settled
    refine .inr ⟨entry.localePattern, adjusted, asIs, other, ?_⟩
    rintro system context instant rfl
    have equal : ∀ time, context.locale.names.patternText context.zone time entry.localePattern =
        context.locale.names.patternText context.zone time adjusted := fun time => by
      have whole := text context.zone time
      rw [SkeletonPattern.adjusted, LocaleNames.segmentsText_adjust _ _ _ (sound.keeps settled)]
        at whole
      exact whole.symm
    simp only [Renderer.text, equal]

/-- **Patterns with the same distinct fields in any order are laid out alike exactly when they
ask for the same skeleton, or neither asks for the skeleton of a pattern that pads.**  This holds
for every locale with a table as those here.  The cases are which of the two skeletons the table
has. -/
theorem sameLayout_iff (tabulated : locale.names.Tabulated)
    (permuted : (Segment.runs (tokenize .kept first)).Perm (Segment.runs (tokenize .kept second)))
    (distinct : DistinctFields (Segment.runs (tokenize .kept first))) :
    locale.SameLayout first second ↔
      buildSkeleton locale.names first = buildSkeleton locale.names second ∨
        (¬ locale.names.Pads (buildSkeleton locale.names first) ∧
          ¬ locale.names.Pads (buildSkeleton locale.names second)) := by
  have skeleton : buildSkeleton locale.names first =
      rowText (skeletonFields locale.names (Segment.runs (tokenize .kept first))) :=
    skeletonOfRuns_eq_rowText _ _
  have skeleton' : buildSkeleton locale.names second =
      rowText (skeletonFields locale.names (Segment.runs (tokenize .kept second))) :=
    skeletonOfRuns_eq_rowText _ _
  have rows := skeletonFields_perm locale.names permuted distinct
  have row := skeletonFields_row locale.names (Segment.runs (tokenize .kept first))
  generalize skeletonFields locale.names _ = fields at skeleton rows row
  generalize skeletonFields locale.names _ = fields' at skeleton' rows
  cases found : locale.names.patternOf? (rowText fields) with
  | none =>
      have settled := LocaleNames.not_pads_of_patternOf?_eq_none found
      cases found' : locale.names.patternOf? (rowText fields') with
      | none =>
          have settled' := LocaleNames.not_pads_of_patternOf?_eq_none found'
          have equal := LocaleNames.Tabulated.matchPattern_perm row rows found found'
          rw [← skeleton, ← skeleton'] at equal
          rw [← skeleton] at settled
          rw [← skeleton'] at settled'
          exact iff_of_true (sameLayout_of_eq tabulated equal) (.inr ⟨settled, settled'⟩)
      | some text =>
          obtain ⟨entry, inTable, key, -⟩ := LocaleNames.exists_of_patternOf?_eq_some found'
          have differ : rowText fields ≠ rowText fields' := fun same => by
            rw [same, found'] at found
            cases found
          rw [sameLayout_comm, sameLayout_iff_of_mem tabulated (row.perm rows) rows.symm skeleton'
            skeleton inTable key found, skeleton, skeleton', tabulated.pads_iff inTable key]
          simp [differ, settled]
  | some text =>
      cases found' : locale.names.patternOf? (rowText fields') with
      | none =>
          have settled' := LocaleNames.not_pads_of_patternOf?_eq_none found'
          obtain ⟨entry, inTable, key, -⟩ := LocaleNames.exists_of_patternOf?_eq_some found
          have differ : rowText fields ≠ rowText fields' := fun same => by
            rw [same, found'] at found
            cases found
          rw [sameLayout_iff_of_mem tabulated row rows skeleton skeleton' inTable key found',
            skeleton, skeleton', tabulated.pads_iff inTable key]
          simp [differ, settled']
      | some text' =>
          have equal : buildSkeleton locale.names first = buildSkeleton locale.names second := by
            rw [skeleton, skeleton', tabulated.rowText_eq_of_perm row rows found found']
          exact iff_of_true (sameLayout_of_eq tabulated (by rw [equal])) (.inl equal)

/-- Literal text and the order of the fields do not show in a layout with month names. -/
theorem sameLayout_month_name : ∃ locale, Locale.read "en_GB" = .ok locale ∧
    (Segment.runs (tokenize .kept "'on' d MMM y")).Perm (Segment.runs (tokenize .kept "yMMMd")) ∧
    DistinctFields (Segment.runs (tokenize .kept "'on' d MMM y")) ∧
    locale.SameLayout "'on' d MMM y" "yMMMd" := by
  have known : Locale.read "en_GB" =
      .ok ⟨{ language := "en", territory := some "GB" }, britishEnglish⟩ := rfl
  refine ⟨_, known, by decide, by decide, ?_⟩
  have tabulated := LocaleNames.tabulated_of_read known
  refine (sameLayout_iff tabulated (by decide) (by decide)).mpr (.inr ?_)
  decide +kernel

/-- **The numeric month and day are laid out in two digits when the month comes first and in
one when the day does.** -/
theorem layout_depends_on_order : ∃ locale, Locale.read "en_GB" = .ok locale ∧
    (Segment.runs (tokenize .kept "Md")).Perm (Segment.runs (tokenize .kept "dM")) ∧
    DistinctFields (Segment.runs (tokenize .kept "Md")) ∧ ¬ locale.SameLayout "Md" "dM" := by
  have known : Locale.read "en_GB" =
      .ok ⟨{ language := "en", territory := some "GB" }, britishEnglish⟩ := rfl
  refine ⟨_, known, by decide, by decide, fun same => ?_⟩
  have row : SkeletonRow [('M', 1), ('d', 1)] := ⟨by decide, by decide⟩
  have inTable : ⟨"Md", "dd/MM"⟩ ∈ britishEnglish.skeletons := by decide +kernel
  have absent : britishEnglish.patternOf? (rowText [('d', 1), ('M', 1)]) = none := by decide +kernel
  refine (sameLayout_iff_of_mem (LocaleNames.tabulated_of_read known) row (List.Perm.swap _ _ _)
    (by decide +kernel) (by decide +kernel) inTable (by decide) absent).mp same ?_
  decide +kernel

end Locale

end PanelClock
