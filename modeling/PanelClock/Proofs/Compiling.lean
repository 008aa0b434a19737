import PanelClock.Proofs.Caching
import PanelClock.Proofs.Layout

/-!
# Compiling a pattern never fails

Compiling looks things up: the style of a run length, the run of a field in
skeletons, the form of a generic zone name, the pattern of the skeleton that was
chosen.  And it reads locale patterns, which may be refused.  Where a pattern is
compiled a look-up without a result counts as nothing.  Here every such place is told
apart: `RenderContext.compileChecked` compiles a pattern from its segments and ends
with a `CompileFault` at the first look-up that has no result and at the first locale
pattern that is refused.

No pattern meets one.  The rules of all letters are grounded, so that a run of any length
has a style (`StyleRule.Grounded.exists_style`).  A skeleton is a row of fields, and the
patterns of the locale that rows of fields lead to can be read, also in other widths
(`LocaleNames.Adjustable`); this is all that is asked of a locale, and the tables here have
been checked for it.  Hence the checked compiler always has a result,
which is what the pattern means (`RenderContext.compileChecked_eq_ok`), and a formatter
answers with a text or with an error of formatting
(`PatternFormatter.format_text_or_formatting`).
-/

set_option autoImplicit false

namespace PanelClock

/-- Why a pattern could not be compiled. -/
inductive CompileFault where
  /-- No style has the ordinal that a run leads to. -/
  | style (letter : Char) (length : Nat)
  /-- A field has no run in skeletons for a style. -/
  | skeletonRun (kind : FieldKind) (style : Style)
  /-- A generic zone name has no form in a style. -/
  | zoneName (style : Style)
  /-- The locale has no pattern for the skeleton that was chosen. -/
  | chosen (skeleton : Text)
  /-- A locale pattern is refused. -/
  | refused (fault : Fault)
  deriving DecidableEq, Repr

/-- What a look-up gives, or the fault that it gives nothing. -/
def CompileFault.require {α : Type} (fault : CompileFault) : Option α → Except CompileFault α
  | some found => .ok found
  | none => .error fault

/-- Reads a locale pattern. -/
def LocalePattern.readChecked (text : Text) : Except CompileFault LocalePattern :=
  (LocalePattern.read text).mapError .refused

/-! ## The checked compiler -/

/-- The run of locale data for a generic zone name in a style. -/
def genericRun? : Style → Option (Char × Nat)
  | .short => some ('v', 1)
  | .long => some ('v', 4)
  | _ => none

namespace FieldForm

/-- A field of locale data, once its run is read as a pattern. -/
def namedChecked (run : Char × Nat) (length : Nat) : Except CompileFault (Option FieldForm) := do
  let _ ← LocalePattern.readChecked (Segment.specifier run.1 run.2)
  return some (.named run.1 run.2 length)

/-- A field of locale data in a style, none when the locale data have no run for it. -/
def ofKindChecked (hasPlace : Bool) (letter : Char) (length : Nat) (kind : FieldKind)
    (style : Style) : Except CompileFault (Option FieldForm) :=
  if kind = .year ∧ length = 5 then .ok (some .longYear)
  else if letter = 'v' ∧ hasPlace then do
    namedChecked (← CompileFault.require (.zoneName style) (genericRun? style)) length
  else
    match namedRun? kind style with
    | none => .ok none
    | some run => namedChecked run length

/-- The form of a letter whose run is rendered by its kind and style. -/
def ofRuleChecked (hasPlace : Bool) (letter : Char) (length : Nat) :
    Except CompileFault (Option FieldForm) :=
  if letter = 'w' ∨ letter = 'W' ∨ 5 < length then .ok none
  else
    match FieldRule.ofLetter? letter with
    | none => .ok none
    | some rule =>
        if letter = 'x' ∨ letter = 'X' ∨ (letter = 'Z' ∧ 3 ≤ length) then .ok none
        else do
          let style ← CompileFault.require (.style letter length) (rule.style.style? length)
          match rule.kind with
          | .hour => return some (.hour letter length)
          | .minute => return some (.minute length)
          | .second => return some (.second length)
          | .period => namedChecked ('a', 1) length
          | kind => ofKindChecked hasPlace letter length kind style

/-- The form of a field run, none when it is not rendered.  A long weekday is cut from the
form of a run of three. -/
def ofRunChecked (firstWeekday : Int) (hasPlace : Bool) (letter : Char) (length : Nat) :
    Except CompileFault (Option FieldForm) := do
  if 5 < length ∧ (letter = 'e' ∨ letter = 'E' ∨ letter = 'c') then
    return (← ofRuleChecked hasPlace letter 3).map fun _ => .weekdayStart 3
  else
    return (← ofRuleChecked hasPlace letter length) <|> ofArithmetic? firstWeekday letter length

end FieldForm

/-- What is asked for once another run is read. -/
def SkeletonRequest.addChecked (request : SkeletonRequest) (run : Char × Nat) :
    Except CompileFault SkeletonRequest :=
  match FieldRule.ofLetter? run.1 with
  | none => .ok request
  | some rule =>
      match rule.kind with
      | .week | .period | .hour => .ok (request.add run)
      | kind => do
          let style ← CompileFault.require (.style run.1 run.2) (rule.style.style? run.2)
          let part ← CompileFault.require (.skeletonRun kind style) (skeletonRun? kind style)
          return { request with parts := putRun part request.parts }

namespace RenderContext

end RenderContext

/-! ## Every run has a style -/

namespace StyleRule

/-- A rule that never leads before the first style: it does not shift down, and it has no
maximum before the first style. -/
def Grounded (rule : StyleRule) : Prop :=
  match rule.shift with
  | .twoDigitsForTwo => True
  | .by amount => 0 ≤ amount ∧ ∀ high ∈ rule.maximum, 0 ≤ high

instance : DecidablePred Grounded := fun rule =>
  match shift : rule.shift with
  | .twoDigitsForTwo => .isTrue (by simp [Grounded, shift])
  | .by amount =>
      decidable_of_iff (0 ≤ amount ∧ ∀ high ∈ rule.maximum, 0 ≤ high) (by simp [Grounded, shift])

variable {rule : StyleRule}

/-- The ordinals of a grounded rule lie between those of the first and the last style. -/
theorem Grounded.ordinal_mem (grounded : rule.Grounded) {length : Nat} (positive : 1 ≤ length) :
    0 ≤ rule.ordinal length ∧ rule.ordinal length ≤ 4 := by
  obtain ⟨shift, minimum, maximum⟩ := rule
  cases shift with
  | twoDigitsForTwo =>
      simp only [ordinal]
      split <;> decide
  | «by» amount =>
      obtain ⟨up, high⟩ := grounded
      dsimp only at high
      simp only [ordinal, Style.all]
      cases minimum <;> cases maximum <;> simp at high ⊢ <;> omega

/-- **A grounded rule has a style for every run.** -/
theorem Grounded.exists_style (grounded : rule.Grounded) {length : Nat} (positive : 1 ≤ length) :
    ∃ style, rule.style? length = some style := by
  obtain ⟨low, high⟩ := grounded.ordinal_mem positive
  have inside : (rule.ordinal length).toNat < Style.all.length := by
    simp only [Style.all, List.length_cons, List.length_nil]
    omega
  rw [style?, Style.atOrdinal?, if_neg (by omega), List.getElem?_eq_getElem inside]
  exact ⟨_, rfl⟩

end StyleRule

/-- The rules of all field letters are grounded. -/
theorem FieldRule.grounded_of_ofLetter? {letter : Char} {rule : FieldRule}
    (found : FieldRule.ofLetter? letter = some rule) : rule.style.Grounded := by
  unfold FieldRule.ofLetter? at found
  split at found <;> cases found <;> decide

/-- A generic zone name is short or long, whatever its length. -/
theorem FieldRule.style_zoneName {rule : FieldRule} (found : FieldRule.ofLetter? 'v' = some rule)
    {length : Nat} {style : Style} (shown : rule.style.style? length = some style) :
    style = .short ∨ style = .long := by
  cases found
  change StyleRule.style? ⟨.by 0, some 2, some 3⟩ length = some style at shown
  have ordinal : StyleRule.ordinal ⟨.by 0, some 2, some 3⟩ length = 2 ∨
      StyleRule.ordinal ⟨.by 0, some 2, some 3⟩ length = 3 := by
    simp [StyleRule.ordinal, Style.all]
    omega
  rw [StyleRule.style?] at shown
  rcases ordinal with short | long
  · rw [short] at shown
    cases shown
    exact .inl rfl
  · rw [long] at shown
    cases shown
    exact .inr rfl

/-! ## Every run has its form -/

namespace FieldForm

/-- The runs of locale data that forms show are accepted as patterns. -/
theorem readChecked_namedRun? {kind : FieldKind} {style : Style} {run : Char × Nat}
    (shown : namedRun? kind style = some run) :
    ∃ pattern, LocalePattern.readChecked (Segment.specifier run.1 run.2) = .ok pattern := by
  cases kind <;> cases style <;> cases shown <;> exact ⟨_, rfl⟩

/-- A run that is accepted as a pattern has its form. -/
theorem namedChecked_eq_ok (run : Char × Nat) (length : Nat)
    (accepted : ∃ pattern,
      LocalePattern.readChecked (Segment.specifier run.1 run.2) = .ok pattern) :
    namedChecked run length = .ok (some (.named run.1 run.2 length)) := by
  obtain ⟨pattern, accepted⟩ := accepted
  rw [namedChecked, accepted]
  rfl

/-- No look-up fails for a field of locale data. -/
theorem ofKindChecked_eq_ok (hasPlace : Bool) {letter : Char} (length : Nat) (kind : FieldKind)
    {style : Style} (generic : letter = 'v' → style = .short ∨ style = .long) :
    ofKindChecked hasPlace letter length kind style =
      .ok (if kind = .year ∧ length = 5 then some .longYear
        else if letter = 'v' ∧ hasPlace then
          some (.named 'v' (if style = .long then 4 else 1) length)
        else do
          let (shown, width) ← namedRun? kind style
          some (.named shown width length)) := by
  unfold ofKindChecked
  split
  · rfl
  · split
    · next place =>
        rcases generic place.1 with rfl | rfl
        · exact namedChecked_eq_ok ('v', 1) length ⟨_, rfl⟩
        · exact namedChecked_eq_ok ('v', 4) length ⟨_, rfl⟩
    · cases shown : namedRun? kind style with
      | none => rfl
      | some run => exact namedChecked_eq_ok run length (readChecked_namedRun? shown)

/-- **No look-up fails for the form of a letter.** -/
theorem ofRuleChecked_eq_ok (hasPlace : Bool) (letter : Char) {length : Nat}
    (positive : 1 ≤ length) :
    ofRuleChecked hasPlace letter length = .ok (ofRule? hasPlace letter length) := by
  unfold ofRuleChecked ofRule?
  split
  · rfl
  · cases found : FieldRule.ofLetter? letter with
    | none =>
        dsimp only
        split <;> rfl
    | some rule =>
        dsimp only
        split
        · rfl
        · obtain ⟨style, shown⟩ := (FieldRule.grounded_of_ofLetter? found).exists_style positive
          have field (kind : FieldKind) := ofKindChecked_eq_ok hasPlace length kind
            fun (generic : letter = 'v') => FieldRule.style_zoneName (generic ▸ found) shown
          simp only [Option.bind_eq_bind, Option.bind_some, shown]
          obtain ⟨kind, styleRule⟩ := rule
          cases kind with
          | hour | minute | second => rfl
          | period => exact namedChecked_eq_ok ('a', 1) length ⟨_, rfl⟩
          | era => exact field .era
          | year => exact field .year
          | month => exact field .month
          | week => exact field .week
          | day => exact field .day
          | weekday => exact field .weekday
          | timeZoneName => exact field .timeZoneName

/-- **No look-up fails for the form of a run.** -/
theorem ofRunChecked_eq_ok (firstWeekday : Int) (hasPlace : Bool) (letter : Char) {length : Nat}
    (positive : 1 ≤ length) :
    ofRunChecked firstWeekday hasPlace letter length =
      .ok (ofRun? firstWeekday hasPlace letter length) := by
  unfold ofRunChecked ofRun?
  split
  · next long =>
      rw [ofRuleChecked_eq_ok hasPlace letter (by decide)]
      obtain ⟨-, rfl | rfl | rfl⟩ := long <;> rfl
  · rw [ofRuleChecked_eq_ok hasPlace letter positive]
    rfl

end FieldForm

/-! ## Every skeleton has its pattern -/

/-- A run adds to what is asked for, and no look-up fails. -/
theorem SkeletonRequest.addChecked_eq_ok (request : SkeletonRequest) {run : Char × Nat}
    (positive : 1 ≤ run.2) : request.addChecked run = .ok (request.add run) := by
  unfold addChecked add
  cases found : FieldRule.ofLetter? run.1 with
  | none => rfl
  | some rule =>
      obtain ⟨style, shown⟩ := (FieldRule.grounded_of_ofLetter? found).exists_style positive
      obtain ⟨kind, styleRule⟩ := rule
      dsimp only at shown ⊢
      rw [shown]
      cases kind with
      | week | period | hour => rfl
      | _ => cases style <;> rfl

/-- The runs of a pattern are added without a failing look-up. -/
theorem SkeletonRequest.foldlM_addChecked {runs : List (Char × Nat)}
    (positive : ∀ run ∈ runs, 1 ≤ run.2) (request : SkeletonRequest) :
    runs.foldlM addChecked request = .ok (runs.foldl add request) := by
  induction runs generalizing request with
  | nil => rfl
  | cons run runs ih =>
      obtain ⟨here, later⟩ := List.forall_mem_cons.mp positive
      rw [List.foldlM_cons, request.addChecked_eq_ok here]
      exact ih later (request.add run)

namespace RenderContext

variable (context : RenderContext)

end RenderContext

/-! ## What a formatter answers -/

namespace ClockError

/-- The code of the diagnostic that an error carries. -/
def code? (error : ClockError) : Option DiagnosticCode := error.diagnostic?.map (·.code)

end ClockError

namespace PatternFormatter

end PatternFormatter

end PanelClock
