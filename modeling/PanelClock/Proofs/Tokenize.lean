import Mathlib.Data.List.TakeWhile
import PanelClock.Pattern.Tokenize
import PanelClock.Proofs.Segment

/-!
# What reading a date pattern can give

The segments of a pattern are in normal form: literals have text and are never
neighbours, and runs have a length and a letter that survives reading
(`tokenize_normal`).  Writing goes the other way.  It puts a run of a dropped
letter between two runs of the same letter, so that the written row of segments
has distinct neighbours, spells out each segment, and quotes literals so that
their characters are read as text.  Reading the written pattern drops the
separators again and gives back segments in normal form (`tokenize_write`).

Together the segment lists in normal form are exactly those that some pattern is
read as.
-/

set_option autoImplicit false

namespace PanelClock

/-- A letter whose runs survive reading, said without the reader. -/
def PreferenceRuns.Allows (mode : PreferenceRuns) (letter : Char) : Prop :=
  letter.isAlpha ∧ letter ≠ 'l' ∧ (mode = .dropped → letter ∉ ['j', 'J', 'C'])

instance (mode : PreferenceRuns) : DecidablePred mode.Allows := fun letter =>
  inferInstanceAs (Decidable
    (letter.isAlpha ∧ letter ≠ 'l' ∧ (mode = .dropped → letter ∉ ['j', 'J', 'C'])))

instance {allowed : Char → Prop} [DecidablePred allowed] :
    DecidablePred (Segment.Shaped allowed)
  | .literal text => inferInstanceAs (Decidable (text ≠ []))
  | .field letter length => inferInstanceAs (Decidable (allowed letter ∧ 1 ≤ length))

/-- Segments in normal form: no literal is empty, no two literals are neighbours, and
every run has a length and a letter that survives reading. -/
structure Segment.Normal (mode : PreferenceRuns) (segments : List Segment) : Prop where
  shaped : ∀ segment ∈ segments, segment.Shaped mode.Allows
  apart : segments.IsChain Segment.Apart

instance (mode : PreferenceRuns) : DecidablePred (Segment.Normal mode) := fun segments =>
  decidable_of_iff ((∀ segment ∈ segments, segment.Shaped mode.Allows) ∧
    segments.IsChain Segment.Apart) ⟨fun both => ⟨both.1, both.2⟩, fun h => ⟨h.1, h.2⟩⟩

/-! ## Letters -/

theorem isFieldLetter_eq_isAlpha (c : Char) : isFieldLetter c = c.isAlpha := by
  have upper : c.isUpper = ('A'.val ≤ c.val && c.val ≤ 'Z'.val) := Bool.decide_and _ _
  show (c.isLower || ('A'.val ≤ c.val && c.val ≤ 'Z'.val)) = (c.isUpper || c.isLower)
  rw [upper, Bool.or_comm]

/-- A quote is no field letter. -/
theorem ne_quote_of_isAlpha {c : Char} (letter : c.isAlpha) : c ≠ '\'' := by
  rintro rfl
  exact absurd letter (by decide)

/-- The reader keeps the runs of exactly the allowed letters. -/
theorem PreferenceRuns.allows_iff {mode : PreferenceRuns} {letter : Char} :
    mode.Allows letter ↔ isFieldLetter letter ∧ mode.keeps letter := by
  cases mode <;>
    simp [Allows, keeps, isHourPreference, isFieldLetter_eq_isAlpha, and_assoc]

/-! ## Reading gives a normal form -/

/-- Letters are marked inside and outside quotes only where they are field letters. -/
theorem isFieldLetter_of_mem_patternMarks {glyphs : List Glyph} {c : Char}
    (member : .letter c ∈ (patternMarks glyphs).1 ∨ .letter c ∈ (patternMarks glyphs).2) :
    isFieldLetter c := by
  induction glyphs with
  | nil => simp [patternMarks] at member
  | cons glyph rest ih =>
      cases glyph with
      | quote => exact ih member.symm
      | plain d paired =>
          simp only [patternMarks, List.mem_cons, reduceCtorEq, false_or] at member
          rcases member with (here | later) | later
          · split at here
            · next letter =>
                cases here
                simp_all
            · cases here
          · exact ih (.inl later)
          · exact ih (.inr later)

/-- **Reading gives segments in normal form.** -/
theorem tokenize_normal (mode : PreferenceRuns) (pattern : Text) :
    Segment.Normal mode (tokenize mode pattern) := by
  refine ⟨Segment.joinLiterals_shaped fun segment member => ?_, Segment.joinLiterals_apart _⟩
  obtain ⟨grouped, kept⟩ := List.mem_filter.mp member
  have letters : ∀ c, .letter c ∈ (patternMarks (Glyph.ofPattern pattern)).1 → isFieldLetter c :=
    fun c letter => isFieldLetter_of_mem_patternMarks (.inl letter)
  have shape := Mark.segments_shape letters segment grouped
  cases segment with
  | literal text => exact shape
  | field letter length => exact ⟨PreferenceRuns.allows_iff.mpr ⟨shape.1, kept⟩, shape.2⟩

/-! ## Quoting -/

namespace Glyph

theorem ofPattern_quote {rest : Text} (single : rest.head? ≠ some '\'') :
    ofPattern ('\'' :: rest) = quote :: ofPattern rest := by
  cases rest with
  | nil => rfl
  | cons c rest =>
      have other : c ≠ '\'' := by simpa using single
      rw [ofPattern]
      simpa using other

theorem ofPattern_plain {c : Char} (other : c ≠ '\'') (rest : Text) :
    ofPattern (c :: rest) = plain c false :: ofPattern rest := by
  rw [ofPattern] <;> simp_all

/-- Doubled quotes are read as the text they stand for, whatever follows. -/
theorem ofPattern_doubleQuotes (text rest : Text) :
    ofPattern (doubleQuotes text ++ rest) =
      text.map (fun c => plain c (c = '\'')) ++ ofPattern rest := by
  induction text with
  | nil => rfl
  | cons c text ih =>
      by_cases quoted : c = '\''
      · subst quoted
        simp [doubleQuotes, ofPattern, ih]
      · simp [doubleQuotes, quoted, ofPattern_plain quoted, ih]

theorem head?_ne_quote {rest : Text} (single : ∀ later, rest = '\'' :: later → False) :
    rest.head? ≠ some '\'' := by
  intro found
  obtain ⟨later, same⟩ := List.head?_eq_some_iff.mp found
  exact single later same

/-- **Pairs of quotes are resolved piece by piece when none is cut in two.** -/
theorem ofPattern_append {first second : Text}
    (quotes : ¬ (first.getLast? = some '\'' ∧ second.head? = some '\'')) :
    ofPattern (first ++ second) = ofPattern first ++ ofPattern second := by
  fun_induction ofPattern first with
  | case1 => rfl
  | case2 rest ih =>
      have later := ih fun both =>
        quotes ⟨List.mem_getLast?_cons (List.mem_getLast?_cons both.1), both.2⟩
      simp [ofPattern, later]
  | case3 rest single ih =>
      have later := ih fun both => quotes ⟨List.mem_getLast?_cons both.1, both.2⟩
      have apart : (rest ++ second).head? ≠ some '\'' := by
        cases rest with
        | nil => exact fun found => quotes ⟨rfl, found⟩
        | cons c rest => simpa using head?_ne_quote single
      rw [List.cons_append, ofPattern_quote apart, later, List.cons_append]
  | case4 c rest double other ih =>
      have later := ih fun both => quotes ⟨List.mem_getLast?_cons both.1, both.2⟩
      rw [List.cons_append, ofPattern_plain other, later, List.cons_append]

end Glyph

/-- Inside quotes every character is text. -/
theorem patternMarks_inside (text : Text) (paired : Char → Bool) (glyphs : List Glyph) :
    (patternMarks (text.map (fun c => .plain c (paired c)) ++ glyphs)).2 =
      text.map .text ++ (patternMarks glyphs).2 := by
  induction text with
  | nil => rfl
  | cons c text ih => simp [patternMarks, ih]

/-- Outside quotes a row of doubled quotes is text. -/
theorem patternMarks_quotes {text : Text} (quotes : ∀ c ∈ text, c = '\'') (glyphs : List Glyph) :
    (patternMarks (text.map (fun c => .plain c (c = '\'')) ++ glyphs)).1 =
      text.map .text ++ (patternMarks glyphs).1 := by
  induction text with
  | nil => rfl
  | cons c text ih =>
      obtain ⟨here, later⟩ := List.forall_mem_cons.mp quotes
      simp [patternMarks, ih later, here]

/-- A written literal is read as its text when no quote follows it. -/
theorem patternMarks_writeLiteral {text rest : Text} (single : rest.head? ≠ some '\'') :
    (patternMarks (Glyph.ofPattern (writeLiteral text ++ rest))).1 =
      text.map .text ++ (patternMarks (Glyph.ofPattern rest)).1 := by
  have leading : ∀ c ∈ text.takeWhile (· = '\''), c = '\'' := fun c member => by
    simpa using List.mem_takeWhile_imp member
  have whole := List.takeWhile_append_dropWhile (p := fun c => decide (c = '\'')) (l := text)
  rw [writeLiteral, List.append_assoc, Glyph.ofPattern_doubleQuotes, patternMarks_quotes leading]
  cases quoted : text.dropWhile (· = '\'') with
  | nil =>
      rw [quoted, List.append_nil] at whole
      simp [whole]
  | cons c inner =>
      -- The quoted section opens in front of a character that is no quote.
      have plainFirst : c ≠ '\'' := by
        have fails := List.head?_dropWhile_not (fun c => decide (c = '\'')) text
        simpa [quoted] using fails
      have opened : (doubleQuotes (c :: inner) ++ ('\'' :: rest)).head? ≠ some '\'' := by
        simp [doubleQuotes, plainFirst]
      have inside : '\'' :: doubleQuotes (c :: inner) ++ ['\''] ++ rest =
          '\'' :: (doubleQuotes (c :: inner) ++ ('\'' :: rest)) := by simp
      simp only [List.isEmpty_cons, Bool.false_eq_true, if_false]
      rw [inside, Glyph.ofPattern_quote opened, Glyph.ofPattern_doubleQuotes,
        Glyph.ofPattern_quote single, patternMarks, patternMarks_inside, patternMarks,
        ← List.append_assoc, ← List.map_append, ← quoted, whole]

/-- A written run is read as its letters. -/
theorem patternMarks_specifier {letter : Char} (field : isFieldLetter letter) (length : Nat)
    (rest : Text) :
    (patternMarks (Glyph.ofPattern (Segment.specifier letter length ++ rest))).1 =
      List.replicate length (.letter letter) ++ (patternMarks (Glyph.ofPattern rest)).1 := by
  have other : letter ≠ '\'' := ne_quote_of_isAlpha (isFieldLetter_eq_isAlpha letter ▸ field)
  induction length with
  | zero => rfl
  | succ length ih =>
      simp only [Segment.specifier, List.replicate_succ, List.cons_append] at ih ⊢
      simp [Glyph.ofPattern_plain other, patternMarks, field, ih]

/-! ## Writing with separators -/

namespace Segment

/-- A segment as it is written, without regard to its neighbours. -/
def writeOne : Segment → Text
  | literal text => writeLiteral text
  | field letter length => specifier letter length

/-- What keeps a segment apart from the ones that follow it. -/
def separator : Segment → List Segment → List Segment
  | field letter _, field next _ :: _ => if letter = next then [field 'l' 1] else []
  | _, _ => []

/-- Segments with a dropped run between two neighbouring runs of the same letter. -/
def separated : List Segment → List Segment
  | [] => []
  | segment :: rest => segment :: separator segment rest ++ separated rest

theorem write_eq_flatMap (segments : List Segment) :
    write segments = (separated segments).flatMap writeOne := by
  induction segments with
  | nil => rfl
  | cons segment rest ih =>
      cases segment with
      | literal text => simp [write, separated, separator, writeOne, ih]
      | field letter length =>
          cases rest with
          | nil => simp [write, separated, separator, writeOne]
          | cons next others =>
              cases next with
              | literal text => simp_all [write, separated, separator, writeOne]
              | field next count =>
                  rw [write, separated, ih]
                  by_cases same : letter = next <;>
                    simp [separator, writeOne, same, specifier]

/-- Separators are runs of a letter that every reading drops. -/
theorem mem_separator {first segment : Segment} {rest : List Segment}
    (member : segment ∈ separator first rest) : segment = field 'l' 1 := by
  unfold separator at member
  split at member
  · split at member <;> simp_all
  · simp at member

/-- Separating keeps every segment in shape. -/
theorem separated_shaped {mode : PreferenceRuns} {segments : List Segment}
    (shaped : ∀ segment ∈ segments, segment.Shaped mode.Allows) :
    ∀ segment ∈ separated segments, segment.Shaped fun c => isFieldLetter c := by
  induction segments with
  | nil => simp [separated]
  | cons first rest ih =>
      obtain ⟨here, later⟩ := List.forall_mem_cons.mp shaped
      intro segment member
      rcases List.mem_append.mp member with head | tail
      · rcases List.mem_cons.mp head with rfl | between
        · cases segment with
          | literal text => exact here
          | field letter length => exact ⟨(PreferenceRuns.allows_iff.mp here.1).1, here.2⟩
        · rw [mem_separator between]
          exact .run (by decide) (Nat.le_refl 1)
      · exact ih later segment tail

/-- **Dropping what no reading keeps takes the separators out again.** -/
theorem filter_separated {mode : PreferenceRuns} {segments : List Segment}
    (shaped : ∀ segment ∈ segments, segment.Shaped mode.Allows) :
    (separated segments).filter mode.keepsSegment = segments := by
  induction segments with
  | nil => rfl
  | cons first rest ih =>
      obtain ⟨here, later⟩ := List.forall_mem_cons.mp shaped
      have kept : mode.keepsSegment first := by
        cases first with
        | literal text => rfl
        | field letter length => exact (PreferenceRuns.allows_iff.mp here.1).2
      have dropped : (separator first rest).filter mode.keepsSegment = [] := by
        refine List.filter_eq_nil_iff.mpr fun segment member => ?_
        rw [mem_separator member]
        simp [PreferenceRuns.keepsSegment, PreferenceRuns.keeps]
      rw [separated, List.filter_append, List.filter_cons_of_pos kept, dropped, ih later,
        List.singleton_append]

/-- **Separated segments have distinct neighbours.** -/
theorem separated_distinct {mode : PreferenceRuns} {segments : List Segment}
    (normal : Normal mode segments) : (separated segments).IsChain Distinct := by
  obtain ⟨shaped, apart⟩ := normal
  induction segments with
  | nil => exact .nil
  | cons first rest ih =>
      have tail := ih (List.forall_mem_cons.mp shaped).2 apart.tail
      cases rest with
      | nil =>
          have alone : separated [first] = [first] := by cases first <;> rfl
          rw [alone]
          exact .singleton first
      | cons second others =>
          have next : separated (second :: others) =
              second :: (separator second others ++ separated others) := rfl
          rw [next] at tail
          rw [separated, next]
          cases first with
          | literal text =>
              refine List.isChain_cons_cons.mpr ⟨?_, tail⟩
              cases second with
              | literal more => exact (List.isChain_cons_cons.mp apart).1 ⟨trivial, trivial⟩
              | field letter length => trivial
          | field letter length =>
              cases second with
              | literal text => exact List.isChain_cons_cons.mpr ⟨trivial, tail⟩
              | field other count =>
                  by_cases same : letter = other
                  · have survives : letter ≠ 'l' := (shaped _ List.mem_cons_self).1.2.1
                    simp only [separator, if_pos same, List.cons_append, List.nil_append]
                    exact List.isChain_cons_cons.mpr ⟨survives,
                      List.isChain_cons_cons.mpr ⟨fun l => survives (same.trans l.symm), tail⟩⟩
                  · simp only [separator, if_neg same, List.cons_append, List.nil_append]
                    exact List.isChain_cons_cons.mpr ⟨same, tail⟩

/-- A written row of segments does not start with a quote after a literal. -/
theorem head?_flatMap_writeOne_ne_quote {text : Text} {rest : List Segment}
    (shaped : ∀ segment ∈ rest, segment.Shaped fun c => isFieldLetter c)
    (distinct : (literal text :: rest).IsChain Distinct) :
    (rest.flatMap writeOne).head? ≠ some '\'' := by
  cases rest with
  | nil => simp
  | cons second others =>
      have shape := shaped second List.mem_cons_self
      cases second with
      | literal more => exact (List.isChain_cons_cons.mp distinct).1.elim
      | field letter length =>
          have other : letter ≠ '\'' :=
            ne_quote_of_isAlpha (isFieldLetter_eq_isAlpha letter ▸ shape.1)
          obtain ⟨before, rfl⟩ : ∃ before, length = before + 1 :=
            ⟨length - 1, by have := shape.2; omega⟩
          simpa [writeOne, specifier, List.replicate_succ] using other

/-- Segments with distinct neighbours are read as their own marks. -/
theorem patternMarks_flatMap_writeOne {segments : List Segment}
    (shaped : ∀ segment ∈ segments, segment.Shaped fun c => isFieldLetter c)
    (distinct : segments.IsChain Distinct) :
    (patternMarks (Glyph.ofPattern (segments.flatMap writeOne))).1 = segments.flatMap marks := by
  induction segments with
  | nil => rfl
  | cons segment rest ih =>
      obtain ⟨here, later⟩ := List.forall_mem_cons.mp shaped
      have tail := ih later distinct.tail
      rw [List.flatMap_cons, List.flatMap_cons, ← tail]
      cases segment with
      | literal text =>
          exact patternMarks_writeLiteral (head?_flatMap_writeOne_ne_quote later distinct)
      | field letter length => exact patternMarks_specifier here.1 length _

end Segment

/-! ## The image of reading -/

/-- **A written pattern is read as the segments it was written for.** -/
theorem tokenize_write {mode : PreferenceRuns} {segments : List Segment}
    (normal : Segment.Normal mode segments) :
    tokenize mode (Segment.write segments) = segments := by
  have shaped := Segment.separated_shaped normal.shaped
  have distinct := Segment.separated_distinct normal
  rw [tokenize, Segment.write_eq_flatMap, Segment.patternMarks_flatMap_writeOne shaped distinct,
    Mark.segments_flatMap_marks shaped distinct, Segment.filter_separated normal.shaped,
    Segment.joinLiterals_of_apart normal.apart]

/-- **Some pattern is read as given segments exactly when they are in normal form, and
the pattern written for them is one.** -/
theorem exists_tokenize_eq_iff_normal (mode : PreferenceRuns) (segments : List Segment) :
    ((∃ pattern, tokenize mode pattern = segments) ↔ Segment.Normal mode segments) ∧
      (Segment.Normal mode segments → tokenize mode (Segment.write segments) = segments) := by
  refine ⟨⟨?_, fun normal => ⟨Segment.write segments, tokenize_write normal⟩⟩, tokenize_write⟩
  rintro ⟨pattern, rfl⟩
  exact tokenize_normal mode pattern

/-- A literal that starts with a quote in front of two runs of one letter, and one that
is nothing but quotes. -/
theorem tokenize_write_quotes :
    Segment.Normal .dropped
        [.literal "'l'", .field 'y' 2, .field 'y' 1, .literal "''", .field 'd' 1] ∧
      tokenize .dropped (Segment.write
          [.literal "'l'", .field 'y' 2, .field 'y' 1, .literal "''", .field 'd' 1]) =
        [.literal "'l'", .field 'y' 2, .field 'y' 1, .literal "''", .field 'd' 1] := by
  refine ⟨by decide, (exists_tokenize_eq_iff_normal .dropped _).2 ?_⟩
  decide

/-- How such a list is written. -/
example : Segment.write [.literal "'l'", .field 'y' 2, .field 'y' 1, .literal "''", .field 'd' 1] =
    ("'''l'''yyly''''d" : Text) := by
  decide

end PanelClock
