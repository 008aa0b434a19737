import PanelClock.Pattern.LocalePattern
import PanelClock.Proofs.Tokenize

/-!
# What reading a pattern of locale data can give

A pattern of locale data is read as marks, with a cut where a quote opens a section, and
the marks are grouped into segments.  A cut only ends a literal: text comes after every
cut, or nothing (`localeMarks_follows`).  So the segments of a pattern are spelled out as
its marks without the cuts (`flatMap_marks_readLocaleSegments`), and no two neighbours are
runs of the same letter (`readLocaleSegments_runsApart`).

These are the rows that reading can give (`Segment.Readable`).  Such a row, once its
neighbouring literals are joined, is the one that its marks are grouped to
(`Segment.Readable.segments_marks`).  Hence two of them are the same once literals are
joined exactly when they are spelled out alike.
-/

set_option autoImplicit false

namespace PanelClock

/-- No quote is a field letter of locale data. -/
theorem ne_quote_of_isLocaleLetter {c : Char} (letter : isLocaleLetter c) : c ≠ '\'' := by
  rintro rfl
  exact absurd letter (by decide)

@[simp] theorem isLocaleLetter_quote : isLocaleLetter '\'' = false := by decide

/-! ## Reading without cuts -/

/-- Marks with their cuts left out. -/
def Mark.withoutCuts (marks : List Mark) : List Mark := marks.filter (· ≠ .cut)

/-- The marks of a text that is read outside quotes, cuts left out. -/
def outsideMarks (text : Text) : List Mark :=
  Mark.withoutCuts (localeMarks (Glyph.ofPattern text)).1

/-- The marks of a text that is read inside quotes, cuts left out; none when no quote closes
them. -/
def insideMarks? (text : Text) : Option (List Mark) :=
  (localeMarks (Glyph.ofPattern text)).2.map Mark.withoutCuts

section Reading

variable {c : Char} {rest : Text}

@[simp] theorem outsideMarks_nil : outsideMarks [] = [] := rfl

@[simp] theorem insideMarks?_nil : insideMarks? [] = none := rfl

/-- Two quotes are one quote of text, outside quotes and inside. -/
@[simp] theorem outsideMarks_pair :
    outsideMarks ('\'' :: '\'' :: rest) = .text '\'' :: outsideMarks rest := rfl

@[simp] theorem insideMarks?_pair :
    insideMarks? ('\'' :: '\'' :: rest) = (insideMarks? rest).map (.text '\'' :: ·) := by
  have null : '\'' ≠ '\x00' := by decide
  unfold insideMarks?
  cases found : (localeMarks (Glyph.ofPattern rest)).2 <;>
    simp [Glyph.ofPattern, localeMarks, found, null, Mark.withoutCuts]

/-- A single quote opens a section, which is dropped when it is not closed. -/
theorem outsideMarks_quote (single : rest.head? ≠ some '\'') :
    outsideMarks ('\'' :: rest) = (insideMarks? rest).getD [] := by
  unfold outsideMarks insideMarks?
  rw [Glyph.ofPattern_quote single]
  cases closed : (localeMarks (Glyph.ofPattern rest)).2 <;>
    simp [localeMarks, closed, Mark.withoutCuts]

/-- A single quote closes a section. -/
theorem insideMarks?_quote (single : rest.head? ≠ some '\'') :
    insideMarks? ('\'' :: rest) = some (outsideMarks rest) := by
  rw [insideMarks?, Glyph.ofPattern_quote single]
  rfl

theorem outsideMarks_cons (other : c ≠ '\'') (notNull : c ≠ '\x00') :
    outsideMarks (c :: rest) =
      (if isLocaleLetter c then .letter c else .text c) :: outsideMarks rest := by
  unfold outsideMarks
  rw [Glyph.ofPattern_plain other]
  by_cases letter : isLocaleLetter c <;> simp [localeMarks, letter, notNull, Mark.withoutCuts]

theorem insideMarks?_cons (other : c ≠ '\'') (notNull : c ≠ '\x00') :
    insideMarks? (c :: rest) = (insideMarks? rest).map (.text c :: ·) := by
  unfold insideMarks?
  rw [Glyph.ofPattern_plain other]
  cases found : (localeMarks (Glyph.ofPattern rest)).2 <;>
    simp [localeMarks, found, notNull, Mark.withoutCuts]

end Reading

/-! ## Grouping marks without cuts -/

namespace Mark

/-- A letter starts a run of its own. -/
theorem segments_letter (c : Char) (rest : List Mark) :
    ∃ length others, segments (.letter c :: rest) = .field c (length + 1) :: others := by
  rcases segments_letter_cases c rest with grouped | ⟨e, length, others, -, grouped⟩
  · exact ⟨0, _, grouped⟩
  · exact ⟨length, others, grouped⟩

/-- **Grouped marks are spelled out as the marks without their cuts.** -/
theorem flatMap_marks_segments (marks : List Mark) :
    (segments marks).flatMap Segment.marks = withoutCuts marks := by
  induction marks with
  | nil => rfl
  | cons mark rest ih =>
      cases mark with
      | cut => exact ih
      | text c =>
          have here : withoutCuts (.text c :: rest) = .text c :: withoutCuts rest := rfl
          rw [here, ← ih]
          rcases segments_text_cases c rest with grouped | ⟨more, others, before, grouped⟩
          · rw [grouped]
            rfl
          · rw [grouped, before]
            rfl
      | letter c =>
          have here : withoutCuts (.letter c :: rest) = .letter c :: withoutCuts rest := rfl
          rw [here, ← ih, segments.eq_def]
          dsimp only
          split
          · next d rest e length others grouped =>
              obtain ⟨length', others', same⟩ := segments_letter d rest
              cases grouped.symm.trans same
              split
              · next equal =>
                  subst equal
                  rw [grouped]
                  rfl
              · rw [grouped]
                rfl
          · rfl

end Mark

namespace Segment

/-- Two neighbours that are not runs of the same letter. -/
def RunsApart : Segment → Segment → Prop
  | field first _, field second _ => first ≠ second
  | _, _ => True

/-- Joining literals changes no marks. -/
theorem flatMap_marks_joinLiterals (segments : List Segment) :
    (joinLiterals segments).flatMap marks = segments.flatMap marks := by
  fun_induction joinLiterals segments with
  | case1 => rfl
  | case2 letter length rest ih => rw [List.flatMap_cons, List.flatMap_cons, ih]
  | case3 text rest next others joined ih =>
      rw [List.flatMap_cons, List.flatMap_cons, ← ih, joined]
      simp [marks]
  | case4 text rest _ ih => rw [List.flatMap_cons, List.flatMap_cons, ih]

/-- A run in front of joined segments was in front of them before. -/
theorem head?_of_joinLiterals {segments : List Segment} {letter : Char} {length : Nat}
    (first : (joinLiterals segments).head? = some (field letter length)) :
    segments.head? = some (field letter length) := by
  cases segments with
  | nil => exact first
  | cons segment rest =>
      cases segment with
      | field other count => exact first
      | literal text =>
          rw [joinLiterals] at first
          split at first <;> simp at first

/-- Runs that are apart make joined segments distinct. -/
theorem joinLiterals_distinct {segments : List Segment} (apart : segments.IsChain RunsApart) :
    (joinLiterals segments).IsChain Distinct := by
  have joined := joinLiterals_apart segments
  fun_induction joinLiterals segments with
  | case1 => exact .nil
  | case2 letter length rest ih =>
      refine List.isChain_cons.mpr ⟨fun second first => ?_, ih apart.tail joined.tail⟩
      cases second with
      | literal text => trivial
      | field other count =>
          exact (List.isChain_cons.mp apart).1 _ (head?_of_joinLiterals first)
  | case3 text rest next others before ih =>
      refine List.isChain_cons.mpr ⟨fun second first => ?_, ?_⟩
      · cases second with
        | literal text => exact (List.isChain_cons.mp joined).1 _ first ⟨trivial, trivial⟩
        | field other count => trivial
      · exact (before ▸ ih apart.tail (joinLiterals_apart rest)).tail
  | case4 text rest _ ih =>
      refine List.isChain_cons.mpr ⟨fun second first => ?_, ih apart.tail joined.tail⟩
      cases second with
      | literal text => exact (List.isChain_cons.mp joined).1 _ first ⟨trivial, trivial⟩
      | field other count => trivial

end Segment

/-! ## What reading gives -/

/-- A segment that reading can give: text without the character that is read as a quote, or a
run of a field letter. -/
def Segment.Legible : Segment → Prop
  | .literal text => '\x00' ∉ text
  | .field letter length => isLocaleLetter letter ∧ 1 ≤ length

/-- A mark that reading can give. -/
def Mark.Legible : Mark → Prop
  | .text c => c ≠ '\x00'
  | .letter c => isLocaleLetter c
  | .cut => True

/-- All marks of a pattern are legible, outside quotes and inside. -/
theorem localeMarks_legible (glyphs : List Glyph) :
    (∀ mark ∈ (localeMarks glyphs).1, mark.Legible) ∧
      ∀ marks, (localeMarks glyphs).2 = some marks → ∀ mark ∈ marks, mark.Legible := by
  induction glyphs with
  | nil => simp [localeMarks]
  | cons glyph rest ih =>
      obtain ⟨outside, inside⟩ := ih
      cases glyph with
      | quote =>
          refine ⟨List.forall_mem_cons.mpr ⟨trivial, ?_⟩, fun marks same => ?_⟩
          · cases closed : (localeMarks rest).2 with
            | none => simp
            | some marks => exact inside marks closed
          · cases same
            exact outside
      | plain c paired =>
          have shown : (if c = '\x00' then '\'' else c) ≠ '\x00' := by
            split
            · decide
            · next other => exact other
          refine ⟨List.forall_mem_cons.mpr ⟨?_, outside⟩, fun marks same => ?_⟩
          · split
            · next letter => exact (Bool.and_eq_true_iff.mp letter).2
            · exact shown
          · obtain ⟨later, closed, rfl⟩ := Option.map_eq_some_iff.mp same
            exact List.forall_mem_cons.mpr ⟨shown, inside later closed⟩

/-- The segments of a pattern have text, or a length and a field letter. -/
theorem readLocaleSegments_shaped (pattern : Text) :
    ∀ segment ∈ readLocaleSegments pattern, segment.Shaped (isLocaleLetter ·) :=
  Mark.segments_shape fun _ member => (localeMarks_legible _).1 _ member

/-- The segments of a pattern are spelled out as its marks. -/
theorem flatMap_marks_readLocaleSegments (pattern : Text) :
    (readLocaleSegments pattern).flatMap Segment.marks = outsideMarks pattern :=
  Mark.flatMap_marks_segments _

/-- The segments of a pattern are legible. -/
theorem readLocaleSegments_legible (pattern : Text) :
    ∀ segment ∈ readLocaleSegments pattern, segment.Legible := by
  intro segment member
  cases segment with
  | field letter length => exact readLocaleSegments_shaped pattern _ member
  | literal text =>
      intro null
      have mark : Mark.text '\x00' ∈ outsideMarks pattern := by
        rw [← flatMap_marks_readLocaleSegments]
        exact List.mem_flatMap.mpr ⟨_, member, List.mem_map_of_mem null⟩
      exact (localeMarks_legible _).1 _ (List.mem_filter.mp mark).1 rfl

/-- A cut is only followed by text. -/
def Mark.Follows : Mark → Mark → Prop
  | .cut, .text _ => True
  | .cut, _ => False
  | _, _ => True

/-- **Every cut of a pattern has text after it, or nothing.**  A section that is opened and
closed has text, because two quotes beside each other are no section. -/
theorem localeMarks_follows (pattern : Text) :
    (localeMarks (Glyph.ofPattern pattern)).1.IsChain Mark.Follows ∧
      ∀ marks, (localeMarks (Glyph.ofPattern pattern)).2 = some marks →
        marks.IsChain Mark.Follows ∧
          (pattern.head? ≠ some '\'' → ∃ c rest, marks = .text c :: rest) := by
  have text : ∀ (c : Char) {marks : List Mark}, marks.IsChain Mark.Follows →
      (Mark.text c :: marks).IsChain Mark.Follows := fun c marks chain =>
    List.isChain_cons.mpr ⟨fun _ _ => trivial, chain⟩
  fun_induction Glyph.ofPattern pattern with
  | case1 => simp [localeMarks]
  | case2 rest ih =>
      obtain ⟨outside, inside⟩ := ih
      refine ⟨text '\'' outside, fun marks same => ?_⟩
      obtain ⟨later, closed, rfl⟩ := Option.map_eq_some_iff.mp same
      exact ⟨text _ (inside later closed).1, fun _ => ⟨_, _, rfl⟩⟩
  | case3 rest notPair ih =>
      obtain ⟨outside, inside⟩ := ih
      have single : rest.head? ≠ some '\'' := by
        cases rest with
        | nil => simp
        | cons d rest => simpa using fun same : d = '\'' => notPair rest (same ▸ rfl)
      refine ⟨?_, fun marks same => ?_⟩
      · show (Mark.cut :: (localeMarks (Glyph.ofPattern rest)).2.getD []).IsChain Mark.Follows
        cases closed : (localeMarks (Glyph.ofPattern rest)).2 with
        | none => exact .singleton _
        | some marks =>
            obtain ⟨chain, first⟩ := inside marks closed
            obtain ⟨c, later, rfl⟩ := first single
            exact List.isChain_cons_cons.mpr ⟨trivial, chain⟩
      · cases same
        exact ⟨outside, by simp⟩
  | case4 c rest notPair other ih =>
      obtain ⟨outside, inside⟩ := ih
      refine ⟨List.isChain_cons.mpr ⟨fun _ _ => ?_, outside⟩, fun marks same => ?_⟩
      · split <;> trivial
      · obtain ⟨later, closed, rfl⟩ := Option.map_eq_some_iff.mp same
        exact ⟨text _ (inside later closed).1, fun _ => ⟨_, _, rfl⟩⟩

/-- Grouping leaves runs apart when every cut has text after it. -/
theorem Mark.segments_runsApart {marks : List Mark} (chain : marks.IsChain Mark.Follows) :
    (segments marks).IsChain Segment.RunsApart := by
  induction marks with
  | nil => exact .nil
  | cons mark rest ih =>
      have tail := ih chain.tail
      cases mark with
      | cut => exact tail
      | text c =>
          rcases segments_text_cases c rest with grouped | ⟨more, others, before, grouped⟩
          · exact grouped ▸ List.isChain_cons.mpr ⟨fun _ _ => trivial, tail⟩
          · rw [before] at tail
            exact grouped ▸ List.isChain_cons.mpr ⟨fun _ _ => trivial, tail.tail⟩
      | letter c =>
          -- A literal after the run keeps it apart from every other run.
          have literal : ∀ text others, segments rest = .literal text :: others →
              (Segment.field c 1 :: segments rest).IsChain Segment.RunsApart :=
            fun text others grouped => by
              rw [grouped] at tail ⊢
              exact List.isChain_cons_cons.mpr ⟨trivial, tail⟩
          cases rest with
          | nil => exact .singleton _
          | cons next rest =>
              cases next with
              | text d =>
                  rcases segments_text_cases d rest with grouped | ⟨more, others, -, grouped⟩
                  · exact literal _ _ grouped
                  · exact literal _ _ grouped
              | cut =>
                  cases rest with
                  | nil => exact .singleton _
                  | cons mark rest =>
                      have follows := (List.isChain_cons_cons.mp chain.tail).1
                      cases mark with
                      | text d =>
                          rcases segments_text_cases d rest with
                            grouped | ⟨more, others, -, grouped⟩
                          · exact literal _ _ grouped
                          · exact literal _ _ grouped
                      | letter d => exact follows.elim
                      | cut => exact follows.elim
              | letter d =>
                  obtain ⟨length, others, grouped⟩ := segments_letter d rest
                  rw [grouped] at tail
                  rw [segments.eq_def]
                  simp only [grouped]
                  split
                  · next equal =>
                      subst equal
                      refine List.isChain_cons.mpr ⟨fun second first => ?_, tail.tail⟩
                      have apart := (List.isChain_cons.mp tail).1 second first
                      cases second <;> exact apart
                  · next differ => exact List.isChain_cons_cons.mpr ⟨differ, tail⟩

/-- **No two neighbours in a pattern are runs of the same letter.** -/
theorem readLocaleSegments_runsApart (pattern : Text) :
    (readLocaleSegments pattern).IsChain Segment.RunsApart :=
  Mark.segments_runsApart (localeMarks_follows pattern).1

namespace Segment

/-- A row of segments that reading can give: every segment has text or a length, is legible, and
no two neighbours are runs of the same letter. -/
structure Readable (segments : List Segment) : Prop where
  shaped : ∀ segment ∈ segments, segment.Shaped (isLocaleLetter ·)
  legible : ∀ segment ∈ segments, segment.Legible
  apart : segments.IsChain RunsApart

/-- Reading gives readable rows. -/
theorem readable_read (pattern : Text) : Readable (readLocaleSegments pattern) :=
  ⟨readLocaleSegments_shaped pattern, readLocaleSegments_legible pattern,
    readLocaleSegments_runsApart pattern⟩

/-- **A readable row is, once its literals are joined, the one that its marks are grouped to.** -/
theorem Readable.segments_marks {segments : List Segment} (readable : Readable segments) :
    Mark.segments (segments.flatMap marks) = joinLiterals segments := by
  rw [← flatMap_marks_joinLiterals]
  exact Mark.segments_flatMap_marks (joinLiterals_shaped readable.shaped)
    (joinLiterals_distinct readable.apart)

end Segment

end PanelClock
