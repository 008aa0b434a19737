import PanelClock.Proofs.Compiling

/-!
# The normal form of skeletons

A skeleton is in normal form when it is a row of runs of distinct letters, each of a width
that skeletons have for its field, with the hour, if there is one, at the end
(`IsSkeleton`).  Every skeleton that is built is in normal form.  Conversely a text in
normal form is the skeleton that it asks for itself: the letters of skeletons are field
letters, so it is read back as its runs (`runs_tokenize_rowText`), each part asks for itself
(`fieldRun?_of_listed`), and so does the hour.  Hence the texts in normal form are exactly
those that building a skeleton leaves alone (`buildSkeleton_eq_self_iff`), in whatever
locale.

Building looks up styles and runs.  `buildSkeletonChecked` ends with a fault at the first
look-up that has no result, and never does.
-/

set_option autoImplicit false

namespace PanelClock

/-! ## Building with checked look-ups -/

/-- The skeleton of what is asked for. -/
def SkeletonRequest.skeleton (names : LocaleNames) (hasPeriod : Bool)
    (request : SkeletonRequest) : Text :=
  let hour :=
    if request.hourWidth = 0 then []
    else [(skeletonHour names hasPeriod request.hourLetter, request.hourWidth)]
  match request.parts ++ hour with
  | [] => defaultSkeleton
  | parts => rowText parts

/-- The skeleton that a pattern asks for, or the first look-up without a result. -/
def buildSkeletonChecked (names : LocaleNames) (pattern : Text) : Except CompileFault Text := do
  let runs := Segment.runs (tokenize .kept pattern)
  let request ← runs.foldlM SkeletonRequest.addChecked {}
  return request.skeleton names (runs.any fun run => isPeriodLetter run.1)

/-- **No look-up fails when a skeleton is built.** -/
theorem buildSkeletonChecked_eq_ok (names : LocaleNames) (pattern : Text) :
    buildSkeletonChecked names pattern = .ok (buildSkeleton names pattern) := by
  have positive : ∀ run ∈ Segment.runs (tokenize .kept pattern), 1 ≤ run.2 := fun run member =>
    ((tokenize_normal .kept pattern).shaped _ (Segment.mem_runs_iff.mp member)).2
  rw [buildSkeletonChecked, SkeletonRequest.foldlM_addChecked positive]
  rfl

/-! ## Rows in normal form -/

/-- A row of parts, with its hour: no letter stands twice, each part has a letter of a field
and a width that skeletons have for it, and the hour has a letter of one of the clocks and
one or two digits. -/
structure NormalRow (parts : List (Char × Nat)) (hour : Option (Char × Nat)) : Prop where
  nonempty : parts ++ hour.toList ≠ []
  nodup : (parts.map Prod.fst).Nodup
  letters : ∀ part ∈ parts, part.1 ∈ ("GyMdEmsz" : Text)
  listed : ∀ part ∈ parts, ∃ kind style, skeletonRun? kind style = some part
  hourRun : ∀ run ∈ hour, (run.1 = 'h' ∨ run.1 = 'H') ∧ (run.2 = 1 ∨ run.2 = 2)

/-- A skeleton in normal form: the runs of a row one after the other, the hour last. -/
def IsSkeleton (text : Text) : Prop :=
  ∃ parts hour, NormalRow parts hour ∧ text = rowText (parts ++ hour.toList)

/-- The runs that skeletons have for fields have letters of their own. -/
theorem letter_of_listed {kind : FieldKind} {style : Style} {part : Char × Nat}
    (listed : skeletonRun? kind style = some part) : part.1 ∈ ("GyMdEmsz" : Text) := by
  cases kind <;> cases style <;> cases listed <;> decide

/-- A part of a skeleton asks for itself. -/
theorem fieldRun?_of_listed {kind : FieldKind} {style : Style} {part : Char × Nat}
    (listed : skeletonRun? kind style = some part) : fieldRun? part = some part := by
  cases kind <;> cases style <;> cases listed <;> rfl

/-- A part of a skeleton asks for no hour. -/
theorem hourAfter_of_listed {kind : FieldKind} {style : Style} {part : Char × Nat}
    (listed : skeletonRun? kind style = some part) (hour : Nat × Option Char) :
    hourAfter hour part = hour := by
  cases kind <;> cases style <;> cases listed <;> rfl

/-- A part of a skeleton is no part of the day. -/
theorem isPeriodLetter_of_listed {kind : FieldKind} {style : Style} {part : Char × Nat}
    (listed : skeletonRun? kind style = some part) : isPeriodLetter part.1 = false := by
  cases kind <;> cases style <;> cases listed <;> rfl

theorem foldl_hourAfter_of_listed {parts : List (Char × Nat)}
    (listed : ∀ part ∈ parts, ∃ kind style, skeletonRun? kind style = some part)
    (hour : Nat × Option Char) : parts.foldl hourAfter hour = hour := by
  induction parts with
  | nil => rfl
  | cons part rest ih =>
      obtain ⟨⟨kind, style, here⟩, later⟩ := List.forall_mem_cons.mp listed
      rw [List.foldl_cons, hourAfter_of_listed here, ih later]

/-- What the runs of a pattern ask for is listed. -/
theorem listed_of_fieldRun? {run part : Char × Nat} (asked : fieldRun? run = some part) :
    ∃ kind style, skeletonRun? kind style = some part := by
  simp only [fieldRun?, Option.bind_eq_some_iff] at asked
  obtain ⟨rule, -, style, -, listed⟩ := asked
  exact ⟨rule.kind, style, listed⟩

/-- The hour of a row is one run or none. -/
theorem exists_hourFields_eq (names : LocaleNames) (runs : List (Char × Nat)) :
    ∃ hour : Option (Char × Nat), hourFields names runs = hour.toList := by
  unfold hourFields
  dsimp only
  split
  · exact ⟨none, rfl⟩
  · exact ⟨some _, rfl⟩

/-- The row of a pattern that names no field is in normal form. -/
theorem normalRow_default : NormalRow [('y', 1), ('M', 1), ('d', 1)] none where
  nonempty := by decide
  nodup := by decide
  letters := by decide
  listed :=
    List.forall_mem_cons.mpr ⟨⟨.year, .numeric, rfl⟩, List.forall_mem_cons.mpr
      ⟨⟨.month, .numeric, rfl⟩, List.forall_mem_singleton.mpr ⟨.day, .numeric, rfl⟩⟩⟩
  hourRun := by simp

/-- **The runs of every pattern ask for a row in normal form.** -/
theorem exists_normalRow (names : LocaleNames) (runs : List (Char × Nat)) :
    ∃ parts hour, NormalRow parts hour ∧ skeletonFields names runs = parts ++ hour.toList := by
  obtain ⟨hour, asked⟩ := exists_hourFields_eq names runs
  unfold skeletonFields
  split
  · exact ⟨_, none, normalRow_default, rfl⟩
  · next row =>
      refine ⟨putRuns (runs.filterMap fieldRun?) [], hour, ?_, by rw [← row, asked]⟩
      have listed : ∀ part ∈ putRuns (runs.filterMap fieldRun?) [],
          ∃ kind style, skeletonRun? kind style = some part := fun part member => by
        rcases mem_putRuns member with named | absent
        · obtain ⟨run, -, found⟩ := List.mem_filterMap.mp named
          exact listed_of_fieldRun? found
        · simp at absent
      refine ⟨?_, putRuns_nodup List.nodup_nil, fun part member => ?_, listed, fun run member => ?_⟩
      · rw [← asked, row]
        exact List.cons_ne_nil _ _
      · obtain ⟨kind, style, shown⟩ := listed part member
        exact letter_of_listed shown
      · have inHour : run ∈ hourFields names runs := asked ▸ Option.mem_toList.mpr member
        obtain ⟨letter, width⟩ := mem_hourFields inHour
        refine ⟨letter, ?_⟩
        rcases letter with h | h <;> simpa [h, fieldWidths] using width

/-! ## A row asks for itself -/

/-- A row of runs of distinct letters is written without anything between them. -/
theorem write_map_field {fields : List (Char × Nat)} (nodup : (fields.map Prod.fst).Nodup) :
    Segment.write (fields.map fun field => .field field.1 field.2) = rowText fields := by
  induction fields with
  | nil => rfl
  | cons field rest ih =>
      obtain ⟨fresh, later⟩ := List.nodup_cons.mp nodup
      have tail := ih later
      cases rest with
      | nil => simp [Segment.write, rowText]
      | cons next others =>
          have apart : field.1 ≠ next.1 := fun same => fresh (same ▸ List.mem_cons_self)
          rw [List.map_cons] at tail
          rw [List.map_cons, List.map_cons, Segment.write, if_neg apart, tail]
          simp [rowText]

/-- **A row of field letters, none twice, is read as its runs.** -/
theorem runs_tokenize_rowText {mode : PreferenceRuns} {fields : List (Char × Nat)}
    (nodup : (fields.map Prod.fst).Nodup)
    (shaped : ∀ field ∈ fields, mode.Allows field.1 ∧ 1 ≤ field.2) :
    Segment.runs (tokenize mode (rowText fields)) = fields := by
  have normal : Segment.Normal mode (fields.map fun field => .field field.1 field.2) := by
    refine ⟨fun segment member => ?_, ?_⟩
    · obtain ⟨field, inRow, rfl⟩ := List.mem_map.mp member
      exact shaped field inRow
    · rw [List.isChain_map]
      exact (List.pairwise_map.mp nodup).isChain.imp fun _ _ _ both => both.1
  rw [← write_map_field nodup, tokenize_write normal, Segment.runs, List.filterMap_map]
  exact (List.filterMap_congr fun field _ => rfl).trans List.filterMap_some

namespace NormalRow

variable {parts : List (Char × Nat)} {hour : Option (Char × Nat)}

/-- Every run of a row has a letter that survives reading, and a width. -/
theorem shaped (row : NormalRow parts hour) :
    ∀ field ∈ parts ++ hour.toList, PreferenceRuns.kept.Allows field.1 ∧ 1 ≤ field.2 := by
  intro field member
  rcases List.mem_append.mp member with part | last
  · obtain ⟨kind, style, listed⟩ := row.listed field part
    cases kind <;> cases style <;> cases listed <;> decide
  · obtain ⟨letter, width⟩ := row.hourRun field (Option.mem_toList.mp last)
    refine ⟨?_, by omega⟩
    rcases letter with h | h <;> rw [h] <;> decide

/-- No letter of a row stands twice, the hour included. -/
theorem nodup_append (row : NormalRow parts hour) :
    ((parts ++ hour.toList).map Prod.fst).Nodup := by
  rw [List.map_append]
  refine row.nodup.append ?_ ?_
  · cases hour <;> simp
  · intro letter inParts inHour
    obtain ⟨part, member, rfl⟩ := List.mem_map.mp inParts
    obtain ⟨run, last, same⟩ := List.mem_map.mp inHour
    have letters := row.letters part member
    rcases (row.hourRun run (Option.mem_toList.mp last)).1 with h | h <;>
      rw [← same, h] at letters <;> exact absurd letters (by decide)

/-- The parts of a row ask for themselves, and its hour for no part. -/
theorem filterMap_fieldRun? (row : NormalRow parts hour) :
    (parts ++ hour.toList).filterMap fieldRun? = parts := by
  have own : parts.filterMap fieldRun? = parts := by
    refine (List.filterMap_congr fun part member => ?_).trans List.filterMap_some
    obtain ⟨kind, style, listed⟩ := row.listed part member
    exact fieldRun?_of_listed listed
  have last : hour.toList.filterMap fieldRun? = [] := by
    refine List.filterMap_eq_nil_iff.mpr fun run member => ?_
    obtain ⟨letter, width⟩ := run
    obtain ⟨rfl | rfl, rfl | rfl⟩ := row.hourRun _ (Option.mem_toList.mp member) <;> rfl
  rw [List.filterMap_append, own, last, List.append_nil]

/-- **The hour of a row asks for itself**, in whatever locale: its letter names the clock. -/
theorem hourFields_eq (row : NormalRow parts hour) (names : LocaleNames) :
    hourFields names (parts ++ hour.toList) = hour.toList := by
  have noPeriod : (parts ++ hour.toList).any (fun run => isPeriodLetter run.1) = false := by
    refine List.any_eq_false.mpr fun run member => ?_
    rcases List.mem_append.mp member with part | last
    · obtain ⟨kind, style, listed⟩ := row.listed run part
      simp [isPeriodLetter_of_listed listed]
    · rcases (row.hourRun run (Option.mem_toList.mp last)).1 with h | h <;> rw [h] <;> decide
  unfold hourFields
  rw [List.foldl_append, foldl_hourAfter_of_listed row.listed, noPeriod]
  cases hour with
  | none => rfl
  | some run =>
      obtain ⟨letter, width⟩ := run
      obtain ⟨rfl | rfl, rfl | rfl⟩ := row.hourRun _ rfl <;> rfl

/-- **A row in normal form is the row that its own runs ask for.** -/
theorem skeletonFields_eq_self (row : NormalRow parts hour) (names : LocaleNames) :
    skeletonFields names (parts ++ hour.toList) = parts ++ hour.toList := by
  have own : putRuns parts [] = parts := putRuns_of_nodup row.nodup
  unfold skeletonFields
  rw [row.filterMap_fieldRun?, row.hourFields_eq, own]
  split
  · next empty => exact absurd empty row.nonempty
  · next whole => exact whole.symm

end NormalRow

/-! ## What building leaves alone -/

/-- A skeleton that is built is in normal form. -/
theorem isSkeleton_buildSkeleton (names : LocaleNames) (pattern : Text) :
    IsSkeleton (buildSkeleton names pattern) := by
  obtain ⟨parts, hour, row, same⟩ :=
    exists_normalRow names (Segment.runs (tokenize .kept pattern))
  exact ⟨parts, hour, row, by rw [buildSkeleton, skeletonOfRuns_eq_rowText, same]⟩

/-- A skeleton in normal form asks for itself, in whatever locale. -/
theorem IsSkeleton.buildSkeleton_eq_self {skeleton : Text} (normal : IsSkeleton skeleton)
    (names : LocaleNames) : buildSkeleton names skeleton = skeleton := by
  obtain ⟨parts, hour, row, rfl⟩ := normal
  rw [buildSkeleton, runs_tokenize_rowText row.nodup_append row.shaped,
    skeletonOfRuns_eq_rowText, row.skeletonFields_eq_self]

/-- **Building a skeleton leaves exactly the texts in normal form alone.** -/
theorem buildSkeleton_eq_self_iff {names : LocaleNames} {text : Text} :
    buildSkeleton names text = text ↔ IsSkeleton text :=
  ⟨fun same => same ▸ isSkeleton_buildSkeleton names text, fun normal =>
    normal.buildSkeleton_eq_self names⟩

/-- **Every pattern has a skeleton in normal form, which asks for itself in every locale.**
No look-up fails on the way. -/
theorem buildSkeleton_normal (names : LocaleNames) (pattern : Text) :
    buildSkeletonChecked names pattern = .ok (buildSkeleton names pattern) ∧
      IsSkeleton (buildSkeleton names pattern) ∧
      ∀ other : LocaleNames,
        buildSkeleton other (buildSkeleton names pattern) = buildSkeleton names pattern :=
  have normal := isSkeleton_buildSkeleton names pattern
  ⟨buildSkeletonChecked_eq_ok names pattern, normal, fun _ => buildSkeleton_eq_self_iff.mpr normal⟩

/-- A width that is too long, a field that is named twice, and an hour that the locale
chooses. -/
example : buildSkeleton britishEnglish "EEEEEE, jj 'h' dd MMMM d" = ("EEEEEdMMMMHH" : Text) := by
  decide

end PanelClock
