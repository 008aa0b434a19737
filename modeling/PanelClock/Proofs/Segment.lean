import Mathlib.Data.List.Chain
import PanelClock.Fault
import PanelClock.Pattern.Segment

/-!
# Grouping marks is the inverse of spelling segments out

Every reader of patterns first turns a pattern into marks and then groups them
into segments.  Grouping gives only segments of a certain shape: a literal has
text, a run has a length, and the letter of a run comes from the marks
(`Mark.segments_shape`).  In the other direction, segments of which no two
neighbours would run into each other are spelled out as marks, and grouping the
marks gives the segments back (`Mark.segments_flatMap_marks`).

Joining literals keeps that shape and the runs (`Segment.runs_joinLiterals`), leaves no two
literals beside each other (`Segment.joinLiterals_apart`), and does nothing to segments that
have none (`Segment.joinLiterals_of_apart`).
-/

set_option autoImplicit false

namespace PanelClock

namespace Segment

/-- A segment that is literal text. -/
def IsLiteral : Segment → Prop
  | literal _ => True
  | field _ _ => False

instance : DecidablePred IsLiteral
  | literal _ => isTrue trivial
  | field _ _ => isFalse id

/-- Two neighbours that are not both literals. -/
def Apart (first second : Segment) : Prop := ¬ (first.IsLiteral ∧ second.IsLiteral)

instance : DecidableRel Apart := fun first second =>
  inferInstanceAs (Decidable (¬ (first.IsLiteral ∧ second.IsLiteral)))

/-- Two neighbours that stay two segments when they are spelled out: neither are both
literals, nor are they runs of the same letter. -/
def Distinct : Segment → Segment → Prop
  | literal _, literal _ => False
  | field first _, field second _ => first ≠ second
  | _, _ => True

/-- A segment that grouping can give when the letters of the marks satisfy a predicate. -/
def Shaped (allowed : Char → Prop) : Segment → Prop
  | literal text => text ≠ []
  | field letter length => allowed letter ∧ 1 ≤ length

theorem Shaped.text {allowed : Char → Prop} (c : Char) (rest : Text) :
    (literal (c :: rest)).Shaped allowed :=
  List.cons_ne_nil c rest

theorem Shaped.run {allowed : Char → Prop} {letter : Char} {length : Nat} (here : allowed letter)
    (positive : 1 ≤ length) : (field letter length).Shaped allowed :=
  ⟨here, positive⟩

/-- The marks that a segment is spelled out with. -/
def marks : Segment → List Mark
  | literal text => text.map .text
  | field letter length => List.replicate length (.letter letter)

/-! ## Joining literals -/

/-- Joining literals keeps every segment in shape. -/
theorem joinLiterals_shaped {allowed : Char → Prop} {segments : List Segment}
    (shaped : ∀ segment ∈ segments, segment.Shaped allowed) :
    ∀ segment ∈ joinLiterals segments, segment.Shaped allowed := by
  fun_induction joinLiterals segments with
  | case1 => simp
  | case2 letter length rest ih =>
      obtain ⟨head, tail⟩ := List.forall_mem_cons.mp shaped
      exact List.forall_mem_cons.mpr ⟨head, ih tail⟩
  | case3 text rest next others joined ih =>
      obtain ⟨head, tail⟩ := List.forall_mem_cons.mp shaped
      have later := List.forall_mem_cons.mp (joined ▸ ih tail)
      refine List.forall_mem_cons.mpr ⟨?_, later.2⟩
      simp only [Shaped] at head ⊢
      simp [head]
  | case4 text rest _ ih =>
      obtain ⟨head, tail⟩ := List.forall_mem_cons.mp shaped
      exact List.forall_mem_cons.mpr ⟨head, ih tail⟩

/-- **No two literals are neighbours once literals are joined.** -/
theorem joinLiterals_apart (segments : List Segment) :
    (joinLiterals segments).IsChain Apart := by
  fun_induction joinLiterals segments with
  | case1 => exact .nil
  | case2 letter length rest ih =>
      exact List.isChain_cons.mpr ⟨fun _ _ both => both.1, ih⟩
  | case3 text rest next others joined ih =>
      rw [joined, List.isChain_cons] at ih
      exact List.isChain_cons.mpr ⟨fun second member both => ih.1 second member both, ih.2⟩
  | case4 text rest notLiteral ih =>
      refine List.isChain_cons.mpr ⟨fun second member both => ?_, ih⟩
      cases second with
      | field letter length => exact both.2
      | literal next =>
          obtain ⟨others, joined⟩ : ∃ others, joinLiterals rest = literal next :: others := by
            cases h : joinLiterals rest with
            | nil => simp [h] at member
            | cons head others => exact ⟨others, by simp_all⟩
          exact notLiteral next others joined

/-- Segments without neighbouring literals are joined already. -/
theorem joinLiterals_of_apart {segments : List Segment} (apart : segments.IsChain Apart) :
    joinLiterals segments = segments := by
  induction segments with
  | nil => rfl
  | cons segment rest ih =>
      have tail := ih apart.tail
      cases segment with
      | field letter length => rw [joinLiterals, tail]
      | literal text =>
          rw [joinLiterals, tail]
          split
          · exact absurd ⟨trivial, trivial⟩ (List.isChain_cons_cons.mp apart).1
          · rfl

/-! ## Runs -/

@[simp] theorem runs_literal (text : Text) (rest : List Segment) :
    runs (literal text :: rest) = runs rest :=
  rfl

@[simp] theorem runs_field (letter : Char) (length : Nat) (rest : List Segment) :
    runs (field letter length :: rest) = (letter, length) :: runs rest :=
  rfl

/-- Joining literals leaves the runs alone. -/
theorem runs_joinLiterals (segments : List Segment) :
    runs (joinLiterals segments) = runs segments := by
  fun_induction joinLiterals segments with
  | case1 => rfl
  | case2 letter length rest ih => rw [runs_field, runs_field, ih]
  | case3 text rest next others joined ih =>
      rw [joined, runs_literal] at ih
      rw [runs_literal, runs_literal, ih]
  | case4 text rest _ ih => rw [runs_literal, runs_literal, ih]

theorem mem_runs_iff {segments : List Segment} {letter : Char} {length : Nat} :
    (letter, length) ∈ runs segments ↔ field letter length ∈ segments := by
  simp only [runs, List.mem_filterMap]
  constructor
  · rintro ⟨segment, member, run⟩
    cases segment with
    | literal text => cases run
    | field other count =>
        cases run
        exact member
  · exact fun member => ⟨_, member, rfl⟩

end Segment

/-! ## Grouping marks -/

namespace Mark

open Segment

/-- A character of text starts a literal or is put in front of the one that follows. -/
theorem segments_text_cases (c : Char) (rest : List Mark) :
    segments (text c :: rest) = .literal [c] :: segments rest ∨
      ∃ more others, segments rest = .literal more :: others ∧
        segments (text c :: rest) = .literal (c :: more) :: others := by
  rw [segments.eq_def]
  dsimp only
  split
  · next more others grouped => exact .inr ⟨more, others, grouped, rfl⟩
  · exact .inl rfl

/-- A letter starts a run or makes the run of its letter that follows longer. -/
theorem segments_letter_cases (c : Char) (rest : List Mark) :
    segments (letter c :: rest) = .field c 1 :: segments rest ∨
      ∃ e length others, segments rest = .field e length :: others ∧
        segments (letter c :: rest) = .field c (length + 1) :: others := by
  rw [segments.eq_def]
  dsimp only
  split
  · next e length others grouped =>
      split
      · exact .inr ⟨e, length, others, grouped, rfl⟩
      · exact .inl (by rw [grouped])
  · exact .inl rfl

/-- **Every segment that grouping gives has text, or a length and a letter of the marks.** -/
theorem segments_shape {allowed : Char → Prop} {marks : List Mark}
    (letters : ∀ c, Mark.letter c ∈ marks → allowed c) :
    ∀ segment ∈ segments marks, segment.Shaped allowed := by
  induction marks with
  | nil => simp [segments]
  | cons mark rest ih =>
      have later := ih fun c member => letters c (List.mem_cons_of_mem _ member)
      cases mark with
      | cut => exact later
      | text c =>
          rcases segments_text_cases c rest with grouped | ⟨more, others, before, grouped⟩
          · rw [grouped]
            exact List.forall_mem_cons.mpr ⟨.text c [], later⟩
          · rw [before] at later
            rw [grouped]
            exact List.forall_mem_cons.mpr ⟨.text c more, (List.forall_mem_cons.mp later).2⟩
      | letter c =>
          have here : allowed c := letters c List.mem_cons_self
          rcases segments_letter_cases c rest with grouped | ⟨e, length, others, before, grouped⟩
          · rw [grouped]
            exact List.forall_mem_cons.mpr ⟨.run here (Nat.le_refl 1), later⟩
          · rw [before] at later
            rw [grouped]
            exact List.forall_mem_cons.mpr
              ⟨.run here (Nat.le_add_left 1 length), (List.forall_mem_cons.mp later).2⟩

/-- A row of text marks that no further text follows is one literal. -/
theorem segments_text_append {text : Text} {rest : List Mark} (nonempty : text ≠ [])
    (ends : ∀ c, rest.head? ≠ some (.text c)) :
    segments (text.map .text ++ rest) = .literal text :: segments rest := by
  induction text with
  | nil => exact absurd rfl nonempty
  | cons c text ih =>
      cases text with
      | nil =>
          simp only [List.map_cons, List.map_nil, List.cons_append, List.nil_append, segments]
          split
          · exact absurd rfl (ends _)
          · rfl
      | cons d text =>
          have later := ih (List.cons_ne_nil _ _)
          simp only [List.map_cons, List.cons_append] at later ⊢
          rw [segments.eq_def]
          simp only [later]

/-- A row of marks of one letter that does not go on after it is one run. -/
theorem segments_letter_append {letter : Char} {length : Nat} {rest : List Mark}
    (positive : 1 ≤ length) (ends : rest.head? ≠ some (.letter letter)) :
    segments (List.replicate length (.letter letter) ++ rest) =
      .field letter length :: segments rest := by
  induction length, positive using Nat.le_induction with
  | base =>
      simp only [List.replicate_one, List.cons_append, List.nil_append, segments]
      split
      case h_1 d _ e length others grouped =>
        rw [if_neg fun same => ends (by rw [same]; rfl), grouped]
      case h_2 => rfl
  | succ length positive ih =>
      obtain ⟨before, rfl⟩ : ∃ before, length = before + 1 := ⟨length - 1, by omega⟩
      simp only [List.replicate_succ, List.cons_append] at ih ⊢
      rw [segments.eq_def]
      simp only [ih, if_true]

/-- **Grouping gives back segments that are spelled out.**  The induction is on the
segments; that neighbours are distinct is what ends each row of marks. -/
theorem segments_flatMap_marks {allowed : Char → Prop} {items : List Segment}
    (shaped : ∀ segment ∈ items, segment.Shaped allowed) (distinct : items.IsChain Distinct) :
    segments (items.flatMap Segment.marks) = items := by
  induction items with
  | nil => rfl
  | cons segment rest ih =>
      obtain ⟨here, later⟩ := List.forall_mem_cons.mp shaped
      have tail := ih later distinct.tail
      have next : ∀ mark, (rest.flatMap Segment.marks).head? = some mark →
          ∃ second others, rest = second :: others ∧ second.marks.head? = some mark := by
        intro mark found
        cases rest with
        | nil => simp at found
        | cons second others =>
            refine ⟨second, others, rfl, ?_⟩
            have nonempty : second.marks ≠ [] := by
              have shape := later second List.mem_cons_self
              cases second with
              | literal text => simpa [marks, Shaped] using shape
              | field letter length => simpa [marks] using Nat.one_le_iff_ne_zero.mp shape.2
            rwa [List.flatMap_cons, List.head?_append_of_ne_nil _ nonempty] at found
      rw [List.flatMap_cons]
      cases segment with
      | literal text =>
          rw [Segment.marks, segments_text_append here, tail]
          intro c found
          obtain ⟨second, others, rfl, head⟩ := next _ found
          cases second with
          | literal more => exact (List.isChain_cons_cons.mp distinct).1
          | field letter length => cases length <;> simp [marks, List.replicate_succ] at head
      | field letter length =>
          rw [Segment.marks, segments_letter_append here.2, tail]
          intro found
          obtain ⟨second, others, rfl, head⟩ := next _ found
          cases second with
          | literal more => cases more <;> simp [marks] at head
          | field other count =>
              refine (List.isChain_cons_cons.mp distinct).1 ?_
              cases count <;> simp_all [marks, List.replicate_succ]

end Mark

/-! ## Rows of texts -/

/-- The texts of a row are the first text in front of the texts of the rest. -/
theorem map_flatten_mapM_cons {α : Type} (text : α → Except Fault Text) (first : α)
    (rest : List α) :
    ((first :: rest).mapM text).map List.flatten = (do
      let here ← text first
      let later ← (rest.mapM text).map List.flatten
      return here ++ later) := by
  rw [List.mapM_cons]
  cases text first with
  | error fault => rfl
  | ok here => cases rest.mapM text <;> rfl

end PanelClock
