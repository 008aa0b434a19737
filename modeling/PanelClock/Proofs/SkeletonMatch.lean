import Mathlib.Data.List.Perm.Subperm
import PanelClock.Proofs.Skeleton

/-!
# Choosing a pattern for a row of fields

For a skeleton that the locale has no pattern for, the closest of its skeletons is
chosen and the fields of that one's pattern take the widths that were asked for.
Neither looks at the order in which the row names its fields: another order leads
to the same choice (`matchSkeleton?_perm`) and to the same widths
(`adjustSegment_perm`).

The choice is an option with the fields of the row, and none is closer
(`closest_eq_some`).  Adjusting the widths of a pattern that keeps its quotes never
fails: the widths of a row are allowed by every letter that takes them over, and the
pattern that is written is read as the adjusted segments, once neighbouring literals
are joined (`adjustWidths_eq_ok_of_quotesKept`).
-/

set_option autoImplicit false

namespace PanelClock

/-! ## Distances -/

theorem sameLetters_perm {first second : List (Char × Nat)} (permuted : first.Perm second)
    (option : List (Char × Nat)) : sameLetters first option = sameLetters second option := by
  rw [sameLetters, sameLetters, permuted.length_eq, permuted.all_eq]

theorem skeletonDistance_perm {first second : List (Char × Nat)} (permuted : first.Perm second)
    (option : List (Char × Nat)) :
    skeletonDistance first option = skeletonDistance second option :=
  (permuted.map _).sum_nat

theorem skeletonDistance_eq_zero_iff {wanted option : List (Char × Nat)} :
    skeletonDistance wanted option = 0 ↔
      ∀ run ∈ wanted, widthDistance run.1 run.2 ((option.lookup run.1).getD 0) = 0 := by
  unfold skeletonDistance
  induction wanted with
  | nil => simp
  | cons run wanted ih =>
      rw [List.map_cons, List.foldr_cons, Nat.add_eq_zero_iff, ih, List.forall_mem_cons]

/-- The same fields in the same widths. -/
def SameFields (wanted option : List (Char × Nat)) : Prop :=
  sameLetters wanted option ∧ skeletonDistance wanted option = 0

instance : DecidableRel SameFields := fun wanted option =>
  inferInstanceAs (Decidable (sameLetters wanted option ∧ skeletonDistance wanted option = 0))

/-- **A row in another order has the same fields in the same widths.** -/
theorem sameFields_of_perm {wanted option : List (Char × Nat)}
    (nodup : (wanted.map Prod.fst).Nodup) (permuted : wanted.Perm option) :
    SameFields wanted option := by
  have found : ∀ run ∈ wanted, option.lookup run.1 = some run.2 := fun run member => by
    rw [← lookup_eq_of_perm nodup permuted]
    exact (lookup_eq_some_iff_mem nodup).mpr member
  constructor
  · rw [sameLetters, permuted.length_eq, Bool.and_eq_true, decide_eq_true_eq, List.all_eq_true]
    refine ⟨rfl, fun run member => ?_⟩
    rw [found run member]
    rfl
  · refine skeletonDistance_eq_zero_iff.mpr fun run member => ?_
    rw [found run member]
    simp [widthDistance]

/-- The letters of two rows with the same letters are the same up to their order. -/
theorem perm_letters_of_sameLetters {wanted option : List (Char × Nat)}
    (nodup : (wanted.map Prod.fst).Nodup) (same : sameLetters wanted option) :
    (wanted.map Prod.fst).Perm (option.map Prod.fst) := by
  rw [sameLetters, Bool.and_eq_true, decide_eq_true_eq, List.all_eq_true] at same
  obtain ⟨length, present⟩ := same
  have subset : wanted.map Prod.fst ⊆ option.map Prod.fst := by
    intro letter member
    obtain ⟨run, inRow, rfl⟩ := List.mem_map.mp member
    obtain ⟨entry, inOption, equal⟩ := List.lookup_isSome_iff.mp (present run inRow)
    exact List.mem_map.mpr ⟨entry, inOption, (eq_of_beq equal).symm⟩
  refine (List.subperm_of_subset nodup subset).perm_of_length_le ?_
  rw [List.length_map, List.length_map, length]

theorem eq_of_widthDistance_eq_zero {letter : Char} {first second : Nat}
    (zero : widthDistance letter first second = 0) : first = second := by
  unfold widthDistance at zero
  split at zero <;> omega

/-- **Rows have the same fields in the same widths exactly when one is the other in another
order.** -/
theorem sameFields_iff_perm {wanted option : List (Char × Nat)}
    (nodup : (wanted.map Prod.fst).Nodup) : SameFields wanted option ↔ wanted.Perm option := by
  refine ⟨fun ⟨same, zero⟩ => ?_, sameFields_of_perm nodup⟩
  have letters := perm_letters_of_sameLetters nodup same
  have nodup' : (option.map Prod.fst).Nodup := letters.nodup_iff.mp nodup
  have subset : wanted ⊆ option := by
    intro run member
    have near := eq_of_widthDistance_eq_zero (skeletonDistance_eq_zero_iff.mp zero run member)
    obtain ⟨entry, inOption, letter⟩ :=
      List.mem_map.mp (letters.mem_iff.mp (List.mem_map_of_mem (f := Prod.fst) member))
    have found : option.lookup run.1 = some entry.2 :=
      (lookup_eq_some_iff_mem nodup').mpr (letter ▸ inOption)
    rw [found, Option.getD_some] at near
    exact Prod.ext letter near.symm ▸ inOption
  refine (List.subperm_of_subset nodup.of_map subset).perm_of_length_le ?_
  rw [← List.length_map (f := Prod.fst), ← letters.length_eq, List.length_map]

/-! ## The closest skeleton -/

/-- No option is chosen exactly when none has the letters that are wanted. -/
theorem closest_eq_none_iff {wanted : List (Char × Nat)} {options : List Text} :
    closest wanted options = none ↔
      ∀ option ∈ options, ¬ sameLetters wanted (skeletonWidths option) := by
  induction options with
  | nil => simp [closest]
  | cons option rest ih =>
      rw [closest]
      dsimp only
      by_cases same : sameLetters wanted (skeletonWidths option)
      · rw [if_pos same]
        cases later : closest wanted rest with
        | none => simp [same]
        | some chosen => simp only; split <;> simp [same]
      · rw [if_neg same, ih]
        simp [same]

/-- **The chosen option has the letters that are wanted, and no other such option is
closer.** -/
theorem closest_eq_some {wanted : List (Char × Nat)} {options : List Text} {option : Text}
    {distance : Nat} (chosen : closest wanted options = some (option, distance)) :
    option ∈ options ∧ sameLetters wanted (skeletonWidths option) ∧
      distance = skeletonDistance wanted (skeletonWidths option) ∧
      ∀ other ∈ options, sameLetters wanted (skeletonWidths other) →
        distance ≤ skeletonDistance wanted (skeletonWidths other) := by
  induction options generalizing option distance with
  | nil => cases chosen
  | cons first rest ih =>
      rw [closest] at chosen
      dsimp only at chosen
      by_cases same : sameLetters wanted (skeletonWidths first)
      · rw [if_pos same] at chosen
        cases later : closest wanted rest with
        | none =>
            rw [later] at chosen
            cases chosen
            refine ⟨List.mem_cons_self, same, rfl, List.forall_mem_cons.mpr ⟨fun _ => le_rfl, ?_⟩⟩
            exact fun other member has => absurd has (closest_eq_none_iff.mp later other member)
        | some best =>
            obtain ⟨member, has, equal, least⟩ := ih (later : _ = some (best.1, best.2))
            rw [later] at chosen
            simp only at chosen
            split at chosen
            · next closer =>
                cases chosen
                refine ⟨List.mem_cons_of_mem _ member, has, equal,
                  List.forall_mem_cons.mpr ⟨fun _ => Nat.le_of_lt closer, least⟩⟩
            · next notCloser =>
                cases chosen
                refine ⟨List.mem_cons_self, same, rfl,
                  List.forall_mem_cons.mpr ⟨fun _ => le_rfl, fun other inRest has => ?_⟩⟩
                exact Nat.le_trans (Nat.le_of_not_lt notCloser) (least other inRest has)
      · rw [if_neg same] at chosen
        obtain ⟨member, has, equal, least⟩ := ih chosen
        exact ⟨List.mem_cons_of_mem _ member, has, equal,
          List.forall_mem_cons.mpr ⟨fun has => absurd has same, least⟩⟩

/-- **The order of what is wanted does not matter.** -/
theorem closest_perm {first second : List (Char × Nat)} (permuted : first.Perm second)
    (options : List Text) : closest first options = closest second options := by
  induction options with
  | nil => rfl
  | cons option rest ih =>
      simp only [closest, ih, sameLetters_perm permuted, skeletonDistance_perm permuted]

/-! ## Letters that no option has -/

/-- A text with a letter replaced that no option has. -/
def replaceLetter (options : List Text) (old : Char) (new text : Text) : Text :=
  if occursIn old options then text else text.flatMap fun c => if c = old then new else [c]

theorem substituteLetters_eq (options : List Text) (skeleton : Text) :
    substituteLetters options skeleton =
      replaceLetter options 'b' [] (replaceLetter options 'a' []
        (replaceLetter options 'K' "h" (replaceLetter options 'k' "H"
          (replaceLetter options 'z' "v" skeleton)))) :=
  rfl

/-- Nothing is replaced for a letter that an option has or that does not occur. -/
theorem replaceLetter_eq_self {options : List Text} {old : Char} {text : Text}
    (settled : old ∈ text → occursIn old options) (new : Text) :
    replaceLetter options old new text = text := by
  unfold replaceLetter
  split
  · rfl
  · next absent =>
      have same : ∀ c ∈ text, (if c = old then new else [c]) = [c] := fun c member =>
        if_neg fun equal : c = old => absent (settled (equal ▸ member))
      rw [List.flatMap_congr same, List.flatMap_singleton']

/-- A skeleton all of whose letters some option has stays as it is. -/
theorem substituteLetters_eq_self {options : List Text} {skeleton : Text}
    (occurs : ∀ c ∈ skeleton, occursIn c options) :
    substituteLetters options skeleton = skeleton := by
  rw [substituteLetters_eq, replaceLetter_eq_self (occurs 'z'), replaceLetter_eq_self (occurs 'k'),
    replaceLetter_eq_self (occurs 'K'), replaceLetter_eq_self (occurs 'a'),
    replaceLetter_eq_self (occurs 'b')]

/-- A field whose letter no option has: the zone name becomes the generic one. -/
def substituteField (options : List Text) (field : Char × Nat) : Char × Nat :=
  (if field.1 = 'z' ∧ ¬ occursIn 'z' options then 'v' else field.1, field.2)

theorem mem_rowText {fields : List (Char × Nat)} {c : Char} (member : c ∈ rowText fields) :
    ∃ field ∈ fields, field.1 = c := by
  obtain ⟨field, inRow, inRun⟩ := List.mem_flatMap.mp member
  exact ⟨field, inRow, (List.eq_of_mem_replicate inRun).symm⟩

/-- The letters of a row once the zone name is replaced. -/
def skeletonLetters : Text := "GyMdEmszhHv"

theorem mem_skeletonLetters {letter : Char} {width : Nat} (member : width ∈ fieldWidths letter) :
    letter ∈ skeletonLetters := by
  unfold fieldWidths at member
  split at member <;> first | (simp at member; done) | decide

theorem SkeletonRow.substituteField_mem {fields : List (Char × Nat)} (row : SkeletonRow fields)
    (options : List Text) {field : Char × Nat} (member : field ∈ fields) :
    (substituteField options field).1 ∈ skeletonLetters := by
  rw [substituteField]
  dsimp only
  split
  · decide
  · exact mem_skeletonLetters (row.widths field member)

/-- **In a row only the zone name is ever replaced.** -/
theorem SkeletonRow.substituteLetters {fields : List (Char × Nat)} (row : SkeletonRow fields)
    (options : List Text) :
    PanelClock.substituteLetters options (rowText fields) =
      rowText (fields.map (substituteField options)) := by
  have zone : replaceLetter options 'z' "v" (rowText fields) =
      rowText (fields.map (substituteField options)) := by
    unfold replaceLetter substituteField
    split
    · next occurs => simp [occurs]
    · next absent =>
        rw [rowText, rowText, List.flatMap_assoc, List.flatMap_map]
        refine List.flatMap_congr fun field _ => ?_
        rw [Segment.specifier, Segment.specifier, List.flatMap_replicate]
        by_cases generic : field.1 = 'z' <;> simp [generic, absent]
  have letters : ∀ c ∈ rowText (fields.map (substituteField options)), c ∈ skeletonLetters := by
    intro c member
    obtain ⟨field, inRow, rfl⟩ := mem_rowText member
    obtain ⟨before, inFields, rfl⟩ := List.mem_map.mp inRow
    exact row.substituteField_mem options inFields
  have absent : ∀ c, c ∉ skeletonLetters →
      c ∈ rowText (fields.map (substituteField options)) → occursIn c options :=
    fun c apart member => absurd (letters c member) apart
  rw [substituteLetters_eq, zone, replaceLetter_eq_self (absent 'k' (by decide)),
    replaceLetter_eq_self (absent 'K' (by decide)), replaceLetter_eq_self (absent 'a' (by decide)),
    replaceLetter_eq_self (absent 'b' (by decide))]

/-! ## The choice for a row -/

theorem skeletonWidths_rowText {fields : List (Char × Nat)} (nodup : (fields.map Prod.fst).Nodup)
    (letters : ∀ field ∈ fields, isLocaleLetter field.1 ∧ 1 ≤ field.2) :
    skeletonWidths (rowText fields) = fields := by
  have whole : skeletonWidths (rowText fields) =
      putRuns (Segment.runs (readLocaleSegments (rowText fields))) [] := rfl
  rw [whole, runs_read_rowText nodup letters, putRuns_of_nodup (by simpa using nodup),
    List.nil_append]

theorem SkeletonRow.skeletonWidths {fields : List (Char × Nat)} (row : SkeletonRow fields) :
    PanelClock.skeletonWidths (rowText fields) = fields :=
  skeletonWidths_rowText row.nodup row.letters

/-- The generic zone name is no letter of a row, so it meets no other field. -/
theorem SkeletonRow.nodup_substituteField {fields : List (Char × Nat)} (row : SkeletonRow fields)
    (options : List Text) : ((fields.map (substituteField options)).map Prod.fst).Nodup := by
  rw [List.map_map, List.Nodup, List.pairwise_map]
  refine (List.pairwise_map.mp row.nodup).imp_of_mem fun {first second} inRow inRow' differ => ?_
  have generic : ∀ field ∈ fields, field.1 ≠ 'v' := fun field member equal => by
    have width := row.widths field member
    rw [equal] at width
    simp [fieldWidths] at width
  simp only [Function.comp_apply, substituteField]
  split <;> split
  · next zone zone' => exact absurd (zone.1.trans zone'.1.symm) differ
  · exact Ne.symm (generic second inRow')
  · exact generic first inRow
  · exact differ

/-- The widths of a row with its letters replaced are those of the row. -/
theorem SkeletonRow.skeletonWidths_substituteLetters {fields : List (Char × Nat)}
    (row : SkeletonRow fields) (options : List Text) :
    PanelClock.skeletonWidths (PanelClock.substituteLetters options (rowText fields)) =
      fields.map (substituteField options) := by
  rw [row.substituteLetters]
  refine skeletonWidths_rowText (row.nodup_substituteField options) fun field member => ?_
  · obtain ⟨before, inRow, rfl⟩ := List.mem_map.mp member
    obtain ⟨letter, positive⟩ := row.letters before inRow
    refine ⟨?_, positive⟩
    simp only [substituteField]
    split
    · decide
    · exact letter

/-- **A row in another order has the same pattern chosen.** -/
theorem matchSkeleton?_perm {first second : List (Char × Nat)} (row : SkeletonRow first)
    (permuted : first.Perm second) (options : List Text) :
    matchSkeleton? (rowText first) options = matchSkeleton? (rowText second) options := by
  have row' := row.perm permuted
  unfold matchSkeleton?
  dsimp only
  rw [row.skeletonWidths_substituteLetters, row'.skeletonWidths_substituteLetters,
    closest_perm (permuted.map _)]

/-- **The option that is chosen for a row has letters of rows.** -/
theorem SkeletonRow.of_matchSkeleton?_eq_some {fields : List (Char × Nat)}
    (row : SkeletonRow fields) {options : List Text} {option : Text}
    (chosen : matchSkeleton? (rowText fields) options = some option) :
    option ∈ options ∧ ∀ run ∈ PanelClock.skeletonWidths option, run.1 ∈ skeletonLetters := by
  unfold matchSkeleton? at chosen
  dsimp only at chosen
  generalize sort : options.mergeSort (fun first second => !second.precedes first) = sorted
    at chosen
  obtain ⟨⟨_, distance⟩, best, rfl⟩ := Option.map_eq_some_iff.mp chosen
  obtain ⟨member, same, -, -⟩ := closest_eq_some best
  refine ⟨(List.mergeSort_perm options _).mem_iff.mp (sort ▸ member), fun run inOption => ?_⟩
  rw [row.skeletonWidths_substituteLetters] at same
  have letters := perm_letters_of_sameLetters (row.nodup_substituteField sorted) same
  obtain ⟨field, inRow, equal⟩ :=
    List.mem_map.mp (letters.mem_iff.mpr (List.mem_map_of_mem (f := Prod.fst) inOption))
  obtain ⟨before, inFields, rfl⟩ := List.mem_map.mp inRow
  rw [← equal]
  exact row.substituteField_mem sorted inFields

/-- **When an option names the fields of a row in another order, one with the same fields in
the same widths is chosen.** -/
theorem matchSkeleton?_of_mem {first second : List (Char × Nat)} (row : SkeletonRow first)
    (permuted : first.Perm second) {options : List Text} (listed : rowText first ∈ options) :
    ∃ option ∈ options, matchSkeleton? (rowText second) options = some option ∧
      SameFields first (skeletonWidths option) := by
  have row' := row.perm permuted
  unfold matchSkeleton?
  dsimp only
  generalize sort : options.mergeSort (fun first second => !second.precedes first) = sorted
  have perm : sorted.Perm options := sort ▸ List.mergeSort_perm options _
  have occurs : ∀ c ∈ rowText second, occursIn c sorted := fun c member => by
    have inFirst : c ∈ rowText first := ((permuted.flatMap_right _).mem_iff).mpr member
    exact List.any_eq_true.mpr
      ⟨rowText first, perm.mem_iff.mpr listed, List.contains_iff_mem.mpr inFirst⟩
  rw [substituteLetters_eq_self occurs, row'.skeletonWidths, ← closest_perm permuted]
  obtain ⟨has, zero⟩ := sameFields_of_perm row.nodup (List.Perm.refl first)
  cases chosen : closest first sorted with
  | none =>
      have lacks := closest_eq_none_iff.mp chosen _ (perm.mem_iff.mpr listed)
      rw [row.skeletonWidths] at lacks
      exact absurd has lacks
  | some best =>
      obtain ⟨option, distance⟩ := best
      obtain ⟨member, hasToo, equal, least⟩ := closest_eq_some chosen
      have none := least _ (perm.mem_iff.mpr listed) (by rwa [row.skeletonWidths])
      rw [row.skeletonWidths, zero] at none
      exact ⟨option, perm.mem_iff.mp member, rfl, hasToo, equal ▸ Nat.le_zero.mp none⟩

/-! ## Adjusting widths -/

/-- The width that a run of a skeleton asks for, with the letter that it asks it for. -/
def groupRun? (run : Char × Nat) : Option (Char × Nat) := (widthGroup? run.1).map (·, run.2)

theorem requestedWidths_eq_putRuns (skeleton : Text) :
    requestedWidths skeleton =
      putRuns ((Segment.runs (readLocaleSegments skeleton)).filterMap groupRun?) [] := by
  rw [putRuns, List.foldl_filterMap, requestedWidths]
  congr 1
  funext widths run
  unfold groupRun?
  cases widthGroup? run.1 <;> rfl

/-- A letter of a row asks for its own width. -/
theorem widthGroup?_eq_self {letter group : Char} {width : Nat}
    (inRow : width ∈ fieldWidths letter) (found : widthGroup? letter = some group) :
    group = letter := by
  unfold fieldWidths at inRow
  split at inRow <;> first | (simp at inRow; done) | (simp [widthGroup?] at found; done) | skip
  all_goals exact (Option.some.inj found).symm

theorem SkeletonRow.groupRun?_eq_self {fields : List (Char × Nat)} (row : SkeletonRow fields)
    {field asked : Char × Nat} (member : field ∈ fields) (found : groupRun? field = some asked) :
    asked = field := by
  obtain ⟨group, equal, rfl⟩ := Option.map_eq_some_iff.mp found
  rw [widthGroup?_eq_self (row.widths field member) equal]

/-- A row asks for the widths of its fields. -/
theorem SkeletonRow.requestedWidths {fields : List (Char × Nat)} (row : SkeletonRow fields) :
    PanelClock.requestedWidths (rowText fields) = fields.filterMap groupRun? ∧
      ((fields.filterMap groupRun?).map Prod.fst).Nodup := by
  have nodup : ((fields.filterMap groupRun?).map Prod.fst).Nodup := by
    rw [List.Nodup, List.pairwise_map, List.pairwise_filterMap]
    refine (List.pairwise_map.mp row.nodup).imp_of_mem fun {first second} inRow inRow' differ => ?_
    intro asked found asked' found'
    rw [row.groupRun?_eq_self inRow found, row.groupRun?_eq_self inRow' found']
    exact differ
  refine ⟨?_, nodup⟩
  rw [requestedWidths_eq_putRuns, runs_read_rowText row.nodup row.letters,
    putRuns_of_nodup (by simpa using nodup), List.nil_append]

/-- **A row in another order has every segment adjusted alike.** -/
theorem adjustSegment_perm {first second : List (Char × Nat)} (row : SkeletonRow first)
    (permuted : first.Perm second) :
    adjustSegment (requestedWidths (rowText first)) =
      adjustSegment (requestedWidths (rowText second)) := by
  have row' := row.perm permuted
  have asked : ∀ group, (requestedWidths (rowText first)).lookup group =
      (requestedWidths (rowText second)).lookup group := by
    rw [row.requestedWidths.1, row'.requestedWidths.1]
    exact lookup_eq_of_perm row.requestedWidths.2 (permuted.filterMap groupRun?)
  funext segment
  cases segment with
  | literal text => rfl
  | field letter length => simp only [adjustSegment, adjustedWidth, asked]

/-- The widths that are asked for are widths that their letters have in rows. -/
def Askable (requested : List (Char × Nat)) : Prop :=
  ∀ group width, requested.lookup group = some width → width ∈ fieldWidths group

/-- The widths that a row asks for are askable. -/
theorem SkeletonRow.askable {fields : List (Char × Nat)} (row : SkeletonRow fields) :
    Askable (PanelClock.requestedWidths (rowText fields)) := by
  obtain ⟨whole, nodup⟩ := row.requestedWidths
  intro group width found
  rw [whole] at found
  have member := (lookup_eq_some_iff_mem nodup).mp found
  obtain ⟨field, inRow, asked⟩ := List.mem_filterMap.mp member
  have same := row.groupRun?_eq_self inRow asked
  subst same
  exact row.widths _ inRow

/-- A letter that takes over the width of a group allows every width of the group. -/
theorem allowsLength_of_group {letter group : Char} {asked : Nat}
    (found : widthGroup? letter = some group) (width : asked ∈ fieldWidths group) :
    allowsLength letter (if group = 'E' then max asked 3 else asked) ∧
      1 ≤ if group = 'E' then max asked 3 else asked := by
  unfold widthGroup? at found
  split at found <;> cases found <;> revert asked <;> decide

/-- **An adjusted width is allowed where the width before it is, and it is no less than
one.** -/
theorem allowsLength_adjustedWidth {requested : List (Char × Nat)} (askable : Askable requested)
    {letter : Char} {length : Nat} (allowed : allowsLength letter length)
    (positive : 1 ≤ length) :
    allowsLength letter (adjustedWidth requested letter length) ∧
      1 ≤ adjustedWidth requested letter length := by
  unfold adjustedWidth
  cases found : widthGroup? letter with
  | none => exact ⟨allowed, positive⟩
  | some group =>
      dsimp only
      cases request : requested.lookup group with
      | none => exact ⟨allowed, positive⟩
      | some asked =>
          have taken := allowsLength_of_group found (askable group asked request)
          dsimp only
          generalize (if group = 'E' then max asked 3 else asked) = wanted at taken ⊢
          split
          · exact taken
          · exact ⟨allowed, positive⟩

namespace Segment

/-- Adjusting widths leaves the quotes of a row as they are. -/
theorem quotesKept_map_adjustSegment_iff (requested : List (Char × Nat)) (segments : List Segment) :
    QuotesKept (segments.map (adjustSegment requested)) ↔ QuotesKept segments := by
  have after : ∀ (state : QuoteState) (segment : Segment),
      state.after (adjustSegment requested segment) = state.after segment := fun state segment => by
    cases segment <;> rfl
  have keeps : ∀ state : QuoteState,
      state.Keeps (segments.map (adjustSegment requested)) ↔ state.Keeps segments := by
    induction segments with
    | nil => exact fun state => Iff.rfl
    | cons segment rest ih =>
        intro state
        simp only [List.map_cons, QuoteState.Keeps, after, ih]
  exact keeps .outside

/-- **Adjusted widths keep a readable row readable and its lengths allowed.** -/
theorem Readable.adjust {segments : List Segment} (readable : Readable segments)
    (allowed : ∀ run ∈ runs segments, allowsLength run.1 run.2)
    {requested : List (Char × Nat)} (askable : Askable requested) :
    Readable (segments.map (adjustSegment requested)) ∧
      ∀ run ∈ runs (segments.map (adjustSegment requested)), allowsLength run.1 run.2 := by
  have run : ∀ letter length, field letter length ∈ segments →
      allowsLength letter (adjustedWidth requested letter length) ∧
        1 ≤ adjustedWidth requested letter length := fun letter length member =>
    allowsLength_adjustedWidth askable
      (allowed _ (mem_runs_iff.mpr member)) (readable.shaped _ member).2
  refine ⟨⟨fun segment member => ?_, fun segment member => ?_, ?_⟩, ?_⟩
  · obtain ⟨before, inSegments, rfl⟩ := List.mem_map.mp member
    cases before with
    | literal text => exact readable.shaped _ inSegments
    | field letter length =>
        exact ⟨(readable.shaped _ inSegments).1, (run letter length inSegments).2⟩
  · obtain ⟨before, inSegments, rfl⟩ := List.mem_map.mp member
    cases before with
    | literal text => exact readable.legible _ inSegments
    | field letter length =>
        exact ⟨(readable.shaped _ inSegments).1, (run letter length inSegments).2⟩
  · rw [List.isChain_map]
    refine readable.apart.imp fun {first second} apart => ?_
    cases first <;> cases second <;> exact apart
  · rintro ⟨letter, length⟩ member
    obtain ⟨before, inSegments, equal⟩ := List.mem_map.mp (mem_runs_iff.mp member)
    cases before with
    | literal text => cases equal
    | field letter' length' =>
        cases equal
        exact (run letter length' inSegments).1

end Segment

/-- **A pattern that keeps its quotes is adjusted without a fault, and the result has the
adjusted segments once neighbouring literals are joined.** -/
theorem adjustWidths_eq_ok_of_quotesKept {fields : List (Char × Nat)} (row : SkeletonRow fields)
    {pattern : LocalePattern} (readable : Segment.Readable pattern.segments)
    (allowed : ∀ run ∈ Segment.runs pattern.segments, allowsLength run.1 run.2)
    (kept : Segment.QuotesKept pattern.segments) :
    ∃ adjusted, adjustWidths (rowText fields) pattern = .ok adjusted ∧
      Segment.joinLiterals adjusted.segments =
        Segment.joinLiterals
          (pattern.segments.map (adjustSegment (requestedWidths (rowText fields)))) := by
  unfold adjustWidths
  dsimp only
  obtain ⟨readable', allowed'⟩ := readable.adjust allowed row.askable
  have kept' := (Segment.quotesKept_map_adjustSegment_iff
    (requestedWidths (rowText fields)) pattern.segments).mpr kept
  generalize pattern.segments.map (adjustSegment (requestedWidths (rowText fields))) = adjusted at *
  split
  · next same => exact ⟨pattern, rfl, by rw [same]⟩
  · have back := readable'.joinLiterals_read_write_iff.mpr kept'
    refine ⟨⟨writeLocaleSegments adjusted, _⟩, LocalePattern.read_eq_ok_iff.mpr ⟨rfl, ?_⟩, back⟩
    rw [Segment.runs_eq_of_joinLiterals_eq back]
    exact allowed'

end PanelClock
