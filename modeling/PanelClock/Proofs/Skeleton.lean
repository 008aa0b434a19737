import PanelClock.Pattern.Skeleton
import PanelClock.Proofs.LocalePattern
import PanelClock.Proofs.Lookup

/-!
# The rows of fields that skeletons are

A skeleton is built from the runs of a pattern in two independent parts: the runs
of its fields, the last one of a letter counting (`fieldRun?`), and its hour
(`hourAfter`).  What comes out is a row of fields, no letter twice, each in one of
the widths of its letter (`skeletonFields_row`).  A row is read back as its fields
(`runs_read_rowText`), so the widths of a skeleton are those of its row.

When the runs of a pattern stand for distinct fields, another order of the runs
only gives another order of the row (`skeletonFields_perm`).
-/

set_option autoImplicit false

namespace PanelClock

/-! ## What a run adds -/

/-- The kind of field that a run stands for. -/
def fieldKind? (run : Char × Nat) : Option FieldKind := (FieldRule.ofLetter? run.1).map (·.kind)

/-- The run of a skeleton that a run of a pattern asks for. -/
def fieldRun? (run : Char × Nat) : Option (Char × Nat) :=
  (FieldRule.ofLetter? run.1).bind fun rule =>
    (rule.style.style? run.2).bind (skeletonRun? rule.kind)

/-- The width and the letter of the hour once another run is read. -/
def hourAfter (hour : Nat × Option Char) (run : Char × Nat) : Nat × Option Char :=
  match FieldRule.ofLetter? run.1 with
  | none => hour
  | some rule =>
      match rule.kind with
      | .period => (if hour.1 = 0 then 1 else hour.1, hour.2)
      | .hour => (if 1 ≤ rule.style.ordinal run.2 then 2 else 1, some run.1)
      | _ => hour

/-- Runs put in place one after the other. -/
def putRuns (runs parts : List (Char × Nat)) : List (Char × Nat) :=
  runs.foldl (fun parts run => putRun run parts) parts

namespace SkeletonRequest

/-- A run adds to the fields or to the hour, each without regard to the other. -/
theorem add_eq (request : SkeletonRequest) (run : Char × Nat) :
    request.add run =
      { parts := putRuns (fieldRun? run).toList request.parts
        hourWidth := (hourAfter (request.hourWidth, request.hourLetter) run).1
        hourLetter := (hourAfter (request.hourWidth, request.hourLetter) run).2 } := by
  unfold add hourAfter fieldRun?
  cases FieldRule.ofLetter? run.1 with
  | none => rfl
  | some rule =>
      obtain ⟨kind, style⟩ := rule
      simp only [Option.bind_some]
      cases style.style? run.2 with
      | none => cases kind <;> rfl
      | some shown => cases kind <;> cases shown <;> rfl

/-- What a row of runs adds to the fields and to the hour. -/
theorem foldl_add (runs : List (Char × Nat)) (request : SkeletonRequest) :
    runs.foldl add request =
      { parts := putRuns (runs.filterMap fieldRun?) request.parts
        hourWidth := (runs.foldl hourAfter (request.hourWidth, request.hourLetter)).1
        hourLetter := (runs.foldl hourAfter (request.hourWidth, request.hourLetter)).2 } := by
  induction runs generalizing request with
  | nil => rfl
  | cons run runs ih =>
      rw [List.foldl_cons, ih, add_eq]
      cases part : fieldRun? run with
      | none => simp [part, putRuns]
      | some part' => simp [part, putRuns]

end SkeletonRequest

/-! ## Rows -/

/-- The widths that a field has in skeletons. -/
def fieldWidths : Char → List Nat
  | 'G' | 'E' => [1, 4, 5]
  | 'M' => [1, 2, 3, 4, 5]
  | 'y' | 'd' | 'm' | 's' | 'h' | 'H' => [1, 2]
  | 'z' => [1, 4]
  | _ => []

/-- A row of fields: no letter stands twice, and each has one of the widths of its letter. -/
structure SkeletonRow (fields : List (Char × Nat)) : Prop where
  nodup : (fields.map Prod.fst).Nodup
  widths : ∀ field ∈ fields, field.2 ∈ fieldWidths field.1

/-- A row in another order is a row. -/
theorem SkeletonRow.perm {first second : List (Char × Nat)} (row : SkeletonRow first)
    (permuted : first.Perm second) : SkeletonRow second :=
  ⟨(permuted.map _).nodup_iff.mp row.nodup, fun field member =>
    row.widths field (permuted.mem_iff.mpr member)⟩

/-- The text of a row. -/
def rowText (fields : List (Char × Nat)) : Text :=
  fields.flatMap fun field => Segment.specifier field.1 field.2

/-- The hour of a row, none when no run asks for one. -/
def hourFields (names : LocaleNames) (runs : List (Char × Nat)) : List (Char × Nat) :=
  let hour := runs.foldl hourAfter (0, none)
  if hour.1 = 0 then []
  else [(skeletonHour names (runs.any fun run => isPeriodLetter run.1) hour.2, hour.1)]

/-- The row of fields that the runs of a pattern ask for. -/
def skeletonFields (names : LocaleNames) (runs : List (Char × Nat)) : List (Char × Nat) :=
  match putRuns (runs.filterMap fieldRun?) [] ++ hourFields names runs with
  | [] => [('y', 1), ('M', 1), ('d', 1)]
  | field :: others => field :: others

/-- **A skeleton is the text of its row.** -/
theorem skeletonOfRuns_eq_rowText (names : LocaleNames) (runs : List (Char × Nat)) :
    skeletonOfRuns names runs = rowText (skeletonFields names runs) := by
  unfold skeletonOfRuns skeletonFields hourFields
  rw [SkeletonRequest.foldl_add]
  dsimp only
  generalize putRuns (runs.filterMap fieldRun?) [] ++ _ = row
  cases row with
  | nil => decide
  | cons field others => rfl

/-- The kind of field that a letter of a skeleton stands for, hours left out. -/
def partKind? : Char → Option FieldKind
  | 'G' => some .era
  | 'y' => some .year
  | 'M' => some .month
  | 'd' => some .day
  | 'E' => some .weekday
  | 'm' => some .minute
  | 's' => some .second
  | 'z' => some .timeZoneName
  | _ => none

/-- The run of a kind has a letter of its own and one of the widths of the letter. -/
theorem skeletonRun?_spec {kind : FieldKind} {style : Style} {part : Char × Nat}
    (shown : skeletonRun? kind style = some part) :
    partKind? part.1 = some kind ∧ part.2 ∈ fieldWidths part.1 := by
  cases kind <;> cases style <;> cases shown <;> exact ⟨rfl, by decide⟩

theorem fieldRun?_spec {run part : Char × Nat} (asked : fieldRun? run = some part) :
    fieldKind? run = partKind? part.1 ∧ (partKind? part.1).isSome ∧
      part.2 ∈ fieldWidths part.1 := by
  simp only [fieldRun?, Option.bind_eq_some_iff] at asked
  obtain ⟨rule, found, style, -, shown⟩ := asked
  obtain ⟨kind, width⟩ := skeletonRun?_spec shown
  rw [kind]
  exact ⟨by simp [fieldKind?, found], rfl, width⟩

/-- The letters after a run is put in place. -/
theorem map_fst_putRun (run : Char × Nat) (parts : List (Char × Nat)) :
    (putRun run parts).map Prod.fst =
      if run.1 ∈ parts.map Prod.fst then parts.map Prod.fst
      else parts.map Prod.fst ++ [run.1] := by
  induction parts with
  | nil => simp [putRun]
  | cons first rest ih =>
      by_cases same : first.1 = run.1
      · simp [putRun, same]
      · rw [putRun, if_neg same, List.map_cons, ih]
        by_cases later : run.1 ∈ rest.map Prod.fst
        · simp [later]
        · simp [later, Ne.symm same]

theorem putRun_of_fresh {run : Char × Nat} {parts : List (Char × Nat)}
    (fresh : run.1 ∉ parts.map Prod.fst) : putRun run parts = parts ++ [run] := by
  induction parts with
  | nil => rfl
  | cons first rest ih =>
      obtain ⟨here, later⟩ := List.ne_and_not_mem_of_not_mem_cons fresh
      rw [putRun, if_neg (Ne.symm here), ih later, List.cons_append]

theorem mem_putRun {field run : Char × Nat} {parts : List (Char × Nat)}
    (member : field ∈ putRun run parts) : field = run ∨ field ∈ parts := by
  induction parts with
  | nil => exact .inl (List.mem_singleton.mp member)
  | cons first rest ih =>
      rw [putRun] at member
      split at member
      · rcases List.mem_cons.mp member with here | later
        · exact .inl here
        · exact .inr (List.mem_cons_of_mem _ later)
      · rcases List.mem_cons.mp member with here | later
        · exact .inr (here ▸ List.mem_cons_self)
        · exact (ih later).imp_right (List.mem_cons_of_mem _)

/-- Runs that are put in place keep the letters distinct. -/
theorem putRuns_nodup {runs parts : List (Char × Nat)} (nodup : (parts.map Prod.fst).Nodup) :
    ((putRuns runs parts).map Prod.fst).Nodup := by
  induction runs generalizing parts with
  | nil => exact nodup
  | cons run runs ih =>
      refine ih ?_
      rw [map_fst_putRun]
      split
      · exact nodup
      · next fresh => exact nodup.append (List.nodup_singleton _) (by simpa using fresh)

theorem mem_putRuns {field : Char × Nat} {runs parts : List (Char × Nat)}
    (member : field ∈ putRuns runs parts) : field ∈ runs ∨ field ∈ parts := by
  induction runs generalizing parts with
  | nil => exact .inr member
  | cons run runs ih =>
      rcases ih member with later | before
      · exact .inl (List.mem_cons_of_mem _ later)
      · exact (mem_putRun before).imp_left fun here => List.mem_cons.mpr (.inl here)

/-- Runs of distinct letters are put one after the other. -/
theorem putRuns_of_nodup {runs parts : List (Char × Nat)}
    (nodup : ((parts ++ runs).map Prod.fst).Nodup) : putRuns runs parts = parts ++ runs := by
  induction runs generalizing parts with
  | nil => exact (List.append_nil parts).symm
  | cons run runs ih =>
      have fresh : run.1 ∉ parts.map Prod.fst := fun member => by
        rw [List.map_append, List.nodup_append] at nodup
        exact nodup.2.2 _ member _ List.mem_cons_self rfl
      have whole : parts ++ run :: runs = parts ++ [run] ++ runs := by simp
      rw [whole] at nodup ⊢
      rw [← ih nodup, ← putRun_of_fresh fresh]
      rfl

/-! ## The hour -/

theorem skeletonHour_cases (names : LocaleNames) (hasPeriod : Bool) (letter : Option Char) :
    skeletonHour names hasPeriod letter = 'h' ∨ skeletonHour names hasPeriod letter = 'H' := by
  unfold skeletonHour preferredHour
  split <;> [left; split <;> [right; split <;> [left; right]]] <;> rfl

theorem hourAfter_width {hour : Nat × Option Char} (run : Char × Nat) (small : hour.1 ≤ 2) :
    (hourAfter hour run).1 ≤ 2 := by
  unfold hourAfter
  split
  · exact small
  · split
    · dsimp only; split <;> omega
    · dsimp only; split <;> omega
    · exact small

theorem foldl_hourAfter_width (runs : List (Char × Nat)) {hour : Nat × Option Char}
    (small : hour.1 ≤ 2) : (runs.foldl hourAfter hour).1 ≤ 2 := by
  induction runs generalizing hour with
  | nil => exact small
  | cons run runs ih => exact ih (hourAfter_width run small)

/-- The hour of a row has an hour letter and a width of one or two. -/
theorem mem_hourFields {names : LocaleNames} {runs : List (Char × Nat)} {field : Char × Nat}
    (member : field ∈ hourFields names runs) :
    (field.1 = 'h' ∨ field.1 = 'H') ∧ field.2 ∈ fieldWidths field.1 := by
  unfold hourFields at member
  have small : (runs.foldl hourAfter (0, none)).1 ≤ 2 := foldl_hourAfter_width runs (Nat.zero_le 2)
  dsimp only at member
  split at member
  · simp at member
  · next asked =>
      have width : (runs.foldl hourAfter (0, none)).1 ∈ [1, 2] := by simp; omega
      rw [List.mem_singleton.mp member]
      rcases skeletonHour_cases names (runs.any fun run => isPeriodLetter run.1)
        (runs.foldl hourAfter (0, none)).2 with letter | letter
      · exact ⟨.inl letter, letter ▸ width⟩
      · exact ⟨.inr letter, letter ▸ width⟩

/-- **The runs of every pattern ask for a row of fields.** -/
theorem skeletonFields_row (names : LocaleNames) (runs : List (Char × Nat)) :
    SkeletonRow (skeletonFields names runs) := by
  have parts : ∀ field ∈ putRuns (runs.filterMap fieldRun?) [],
      (partKind? field.1).isSome ∧ field.2 ∈ fieldWidths field.1 := by
    intro field member
    rcases mem_putRuns member with asked | none
    · obtain ⟨run, -, found⟩ := List.mem_filterMap.mp asked
      exact (fieldRun?_spec found).2
    · simp at none
  have row : SkeletonRow (putRuns (runs.filterMap fieldRun?) [] ++ hourFields names runs) := by
    refine ⟨?_, fun field member => ?_⟩
    · rw [List.map_append]
      refine List.Nodup.append (putRuns_nodup List.nodup_nil) ?_ ?_
      · unfold hourFields
        dsimp only
        split
        · exact List.nodup_nil
        · exact List.nodup_singleton _
      · -- No part of a row has an hour letter.
        intro letter inParts inHour
        obtain ⟨part, member, rfl⟩ := List.mem_map.mp inParts
        obtain ⟨hour, found, same⟩ := List.mem_map.mp inHour
        have kind := (parts part member).1
        rcases (mem_hourFields found).1 with letter | letter <;>
          rw [← same, letter] at kind <;> exact absurd kind (by decide)
    · rcases List.mem_append.mp member with part | hour
      · exact (parts field part).2
      · exact (mem_hourFields hour).2
  unfold skeletonFields
  split
  · exact ⟨by decide, by decide⟩
  · next whole => exact whole ▸ row

/-! ## Runs in another order -/

/-- The runs stand for distinct fields; runs that stand for none do not count. -/
def DistinctFields (runs : List (Char × Nat)) : Prop := (runs.filterMap fieldKind?).Nodup

instance : DecidablePred DistinctFields := fun runs =>
  inferInstanceAs (Decidable (runs.filterMap fieldKind?).Nodup)

/-- Two of the runs are the same, or do not stand for the same field. -/
theorem DistinctFields.ne {runs : List (Char × Nat)} (distinct : DistinctFields runs)
    {first second : Char × Nat} (inRuns : first ∈ runs) (inRuns' : second ∈ runs) :
    first = second ∨ ∀ kind, fieldKind? first = some kind → fieldKind? second ≠ some kind := by
  have apart := List.pairwise_filterMap.mp distinct
  have symmetric : Std.Symm fun first second : Char × Nat =>
      ∀ kind, fieldKind? first = some kind → ∀ kind', fieldKind? second = some kind' →
        kind ≠ kind' :=
    ⟨fun _ _ differ kind found kind' found' same => differ kind' found' kind found same.symm⟩
  by_cases same : first = second
  · exact .inl same
  · exact .inr fun kind found found' =>
      apart.forall inRuns inRuns' same kind found kind found' rfl

/-- Distinct fields are put under distinct letters. -/
theorem DistinctFields.nodup {runs : List (Char × Nat)} (distinct : DistinctFields runs) :
    ((runs.filterMap fieldRun?).map Prod.fst).Nodup := by
  rw [List.Nodup, List.pairwise_map, List.pairwise_filterMap]
  refine (List.pairwise_filterMap.mp distinct).imp ?_
  intro first second differ part asked part' asked' same
  obtain ⟨kind, some, -⟩ := fieldRun?_spec asked
  obtain ⟨kind', -, -⟩ := fieldRun?_spec asked'
  obtain ⟨found, letter⟩ := Option.isSome_iff_exists.mp some
  exact differ found (kind.trans letter) found (kind'.trans (same ▸ letter)) rfl

/-- A run leaves the hour alone, or is a part of the day, or sets the hour. -/
theorem hourAfter_cases (run : Char × Nat) :
    (∀ hour, hourAfter hour run = hour) ∨
    (fieldKind? run = some .period ∧
      ∀ hour, hourAfter hour run = (if hour.1 = 0 then 1 else hour.1, hour.2)) ∨
    (fieldKind? run = some .hour ∧
      ∃ width letter, width ≠ 0 ∧ ∀ hour, hourAfter hour run = (width, letter)) := by
  unfold hourAfter fieldKind?
  cases FieldRule.ofLetter? run.1 with
  | none => exact .inl fun hour => rfl
  | some rule =>
      obtain ⟨kind, style⟩ := rule
      cases kind with
      | period => exact .inr (.inl ⟨rfl, fun hour => rfl⟩)
      | hour =>
          refine .inr (.inr ⟨rfl, _, _, ?_, fun hour => rfl⟩)
          split <;> decide
      | _ => exact .inl fun hour => rfl

/-- **Two runs that do not stand for the same field lead to the same hour in either
order.** -/
theorem hourAfter_comm {first second : Char × Nat}
    (distinct : first = second ∨
      ∀ kind, fieldKind? first = some kind → fieldKind? second ≠ some kind)
    (hour : Nat × Option Char) :
    hourAfter (hourAfter hour first) second = hourAfter (hourAfter hour second) first := by
  rcases distinct with rfl | differ
  · rfl
  · rcases hourAfter_cases first with
      same | ⟨kind, period⟩ | ⟨kind, width, letter, positive, sets⟩
    · rw [same, same]
    · rcases hourAfter_cases second with
        same | ⟨kind', -⟩ | ⟨-, width, letter, positive, sets⟩
      · rw [same, same]
      · exact absurd kind' (differ _ kind)
      · rw [sets, sets, period, if_neg positive]
    · rcases hourAfter_cases second with same | ⟨-, period⟩ | ⟨kind', -⟩
      · rw [same, same]
      · rw [sets, sets, period, if_neg positive]
      · exact absurd kind' (differ _ kind)

/-- Distinct fields in another order ask for the same hour. -/
theorem hourFields_perm (names : LocaleNames) {first second : List (Char × Nat)}
    (permuted : first.Perm second) (distinct : DistinctFields first) :
    hourFields names first = hourFields names second := by
  have hour : first.foldl hourAfter (0, none) = second.foldl hourAfter (0, none) :=
    permuted.foldl_eq' (fun _ inRuns _ inRuns' hour =>
      hourAfter_comm (distinct.ne inRuns inRuns') hour) _
  have period : (first.any fun run => isPeriodLetter run.1) =
      second.any fun run => isPeriodLetter run.1 := permuted.any_eq
  simp only [hourFields, hour, period]

/-- **Distinct fields in another order ask for the same row in another order.** -/
theorem skeletonFields_perm (names : LocaleNames) {first second : List (Char × Nat)}
    (permuted : first.Perm second) (distinct : DistinctFields first) :
    (skeletonFields names first).Perm (skeletonFields names second) := by
  have distinct' : DistinctFields second := (permuted.filterMap fieldKind?).nodup_iff.mp distinct
  have rows : (putRuns (first.filterMap fieldRun?) [] ++ hourFields names first).Perm
      (putRuns (second.filterMap fieldRun?) [] ++ hourFields names second) := by
    rw [putRuns_of_nodup distinct.nodup, putRuns_of_nodup distinct'.nodup,
      hourFields_perm names permuted distinct]
    exact ((permuted.filterMap fieldRun?).append_left []).append_right _
  unfold skeletonFields
  generalize putRuns (first.filterMap fieldRun?) [] ++ _ = row at rows
  generalize putRuns (second.filterMap fieldRun?) [] ++ _ = row' at rows
  cases row with
  | nil => rw [rows.nil_eq]
  | cons field others =>
      cases row' with
      | nil => exact absurd rows.eq_nil (List.cons_ne_nil _ _)
      | cons field' others' => exact rows

/-! ## Reading a row back -/

/-- **A row of letters of locale data, none twice, is read as its fields.** -/
theorem runs_read_rowText {fields : List (Char × Nat)} (nodup : (fields.map Prod.fst).Nodup)
    (letters : ∀ field ∈ fields, isLocaleLetter field.1 ∧ 1 ≤ field.2) :
    Segment.runs (readLocaleSegments (rowText fields)) = fields := by
  have written : rowText fields =
      writeLocaleSegments (fields.map fun field => .field field.1 field.2) := by
    rw [rowText, writeLocaleSegments, List.flatMap_map]
    rfl
  have plain : ∀ segment ∈ fields.map (fun field => Segment.field field.1 field.2),
      segment.Plain := by
    intro segment member
    obtain ⟨field, inRow, rfl⟩ := List.mem_map.mp member
    exact letters field inRow
  have separable :
      (fields.map fun field => Segment.field field.1 field.2).IsChain Segment.Separable := by
    rw [List.isChain_map]
    exact (List.pairwise_map.mp nodup).isChain
  rw [written, Segment.runs_read_write plain separable, Segment.runs, List.filterMap_map]
  exact (List.filterMap_congr fun field _ => rfl).trans List.filterMap_some

/-- A letter with widths is a letter of locale data, and its widths are positive. -/
theorem isLocaleLetter_of_mem_fieldWidths {letter : Char} {width : Nat}
    (member : width ∈ fieldWidths letter) : isLocaleLetter letter ∧ 1 ≤ width := by
  unfold fieldWidths at member
  split at member <;> simp only [List.mem_cons, List.not_mem_nil, or_false] at member <;>
    exact ⟨by decide, by omega⟩

theorem SkeletonRow.letters {fields : List (Char × Nat)} (row : SkeletonRow fields) :
    ∀ field ∈ fields, isLocaleLetter field.1 ∧ 1 ≤ field.2 := fun field member =>
  isLocaleLetter_of_mem_fieldWidths (row.widths field member)

end PanelClock
