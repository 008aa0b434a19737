import PanelClock.Proofs.Tokenize

/-!
# Reading a pattern piece by piece

Two patterns that are read one after the other give the segments of the whole, where a
literal at the end of the first and one at the start of the second are one literal
(`tokenize_append`).  Three things must not cross the cut: a quoted section that is open,
a pair of quotes, and a run of one letter.

Each stage of reading has its part.  Pairs of quotes are resolved piece by piece
(`Glyph.ofPattern_append`), marks are those of the pieces when the first leaves no quoted
section open (`patternMarks_append`), and grouping gives the segments of the pieces
(`Mark.segments_append`).  The last stage works on segments alone: joining literals after
segments were dropped does not care whether the literals at the cut were joined before
(`Segment.joinLiterals_filter_followedBy`).
-/

set_option autoImplicit false

namespace PanelClock

/-! ## Rows of segments -/

namespace Segment

/-- One row of segments followed by another: a literal at the end of the first and a
literal at the start of the second are one literal. -/
def followedBy : List Segment → List Segment → List Segment
  | [], second => second
  | [literal text], literal next :: others => literal (text ++ next) :: others
  | segment :: rest, second => segment :: followedBy rest second

@[simp] theorem nil_followedBy (second : List Segment) : followedBy [] second = second := rfl

@[simp] theorem literal_followedBy_literal (text next : Text) (others : List Segment) :
    followedBy [literal text] (literal next :: others) = literal (text ++ next) :: others := rfl

@[simp] theorem literal_followedBy_field (text : Text) (letter : Char) (length : Nat)
    (others : List Segment) :
    followedBy [literal text] (field letter length :: others) =
      literal text :: field letter length :: others := rfl

@[simp] theorem field_followedBy (letter : Char) (length : Nat) (rest second : List Segment) :
    followedBy (field letter length :: rest) second =
      field letter length :: followedBy rest second := by
  cases rest <;> rfl

@[simp] theorem cons_cons_followedBy (first next : Segment) (rest second : List Segment) :
    followedBy (first :: next :: rest) second = first :: followedBy (next :: rest) second := by
  cases first <;> rfl

@[simp] theorem followedBy_nil (first : List Segment) : followedBy first [] = first := by
  induction first with
  | nil => rfl
  | cons segment rest ih => rw [followedBy, ih]; simp

/-- What is put behind a row leaves its first segment, or makes a literal longer. -/
theorem exists_cons_followedBy (next : Segment) (rest second : List Segment) :
    ∃ head tail, followedBy (next :: rest) second = head :: tail ∧
      (head = next ∨ (head.IsLiteral ∧ next.IsLiteral)) := by
  cases rest with
  | cons other others => exact ⟨next, _, cons_cons_followedBy next other others second, .inl rfl⟩
  | nil =>
      cases next with
      | field letter length => exact ⟨_, _, field_followedBy letter length [] second, .inl rfl⟩
      | literal text =>
          cases second with
          | nil => exact ⟨_, _, followedBy_nil _, .inl rfl⟩
          | cons segment others =>
              cases segment with
              | field letter length => exact ⟨literal text, _, rfl, .inl rfl⟩
              | literal more => exact ⟨literal (text ++ more), _, rfl, .inr ⟨trivial, trivial⟩⟩

/-- A literal in front of two rows meets only the first, unless that is empty. -/
theorem literal_followedBy_assoc (text : Text) (second third : List Segment) :
    followedBy (followedBy [literal text] second) third =
      followedBy [literal text] (followedBy second third) := by
  cases second with
  | nil => rfl
  | cons segment others =>
      cases segment with
      | field letter length => simp
      | literal next =>
          cases others with
          | cons second rest => simp
          | nil =>
              cases third with
              | nil => rfl
              | cons segment others => cases segment <;> simp

/-- Rows can be put together in any order. -/
theorem followedBy_assoc (first second third : List Segment) :
    followedBy (followedBy first second) third = followedBy first (followedBy second third) := by
  induction first with
  | nil => rfl
  | cons segment rest ih =>
      cases rest with
      | cons next others =>
          obtain ⟨head, tail, grown, -⟩ := exists_cons_followedBy next others second
          rw [cons_cons_followedBy, cons_cons_followedBy, ← ih, grown, cons_cons_followedBy]
      | nil =>
          cases segment with
          | field letter length => simp
          | literal text => exact literal_followedBy_assoc text second third

/-! ### Joining literals -/

/-- Joining puts a segment in front of what is joined already. -/
theorem joinLiterals_cons (segment : Segment) (rest : List Segment) :
    joinLiterals (segment :: rest) = followedBy [segment] (joinLiterals rest) := by
  cases segment with
  | field letter length => rw [joinLiterals, field_followedBy, nil_followedBy]
  | literal text =>
      rw [joinLiterals]
      cases joinLiterals rest with
      | nil => rfl
      | cons next others => cases next <;> rfl

/-- **Joining a row of segments joins its parts.** -/
theorem joinLiterals_append (first second : List Segment) :
    joinLiterals (first ++ second) = followedBy (joinLiterals first) (joinLiterals second) := by
  induction first with
  | nil => rfl
  | cons segment rest ih =>
      rw [List.cons_append, joinLiterals_cons, ih, ← followedBy_assoc, ← joinLiterals_cons]

/-- Two literals at the start are joined whether or not they were one before. -/
theorem joinLiterals_literal_append (text next : Text) (rest : List Segment) :
    joinLiterals (literal (text ++ next) :: rest) =
      joinLiterals (literal text :: literal next :: rest) := by
  rw [joinLiterals_cons, joinLiterals_cons (literal text), joinLiterals_cons (literal next),
    ← followedBy_assoc]
  rfl

/-- **What joining gives after segments were dropped does not depend on whether the literals
at the cut were joined before.** -/
theorem joinLiterals_filter_followedBy (mode : PreferenceRuns) (first second : List Segment) :
    joinLiterals ((followedBy first second).filter mode.keepsSegment) =
      followedBy (joinLiterals (first.filter mode.keepsSegment))
        (joinLiterals (second.filter mode.keepsSegment)) := by
  rw [← joinLiterals_append]
  fun_induction followedBy first second with
  | case1 second => rfl
  | case2 text next others => exact joinLiterals_literal_append text next _
  | case3 segment rest second apart ih =>
      by_cases kept : mode.keepsSegment segment
      · rw [List.filter_cons_of_pos kept, List.filter_cons_of_pos kept, List.cons_append,
          joinLiterals_cons, joinLiterals_cons segment, ih]
      · rw [List.filter_cons_of_neg kept, List.filter_cons_of_neg kept, ih]

/-! ### Distinct neighbours -/

/-- Which segments may follow a literal does not depend on its text. -/
theorem Distinct.of_literal {text more : Text} {next : Segment}
    (distinct : (literal text).Distinct next) : (literal more).Distinct next := by
  cases next with
  | literal _ => exact distinct
  | field letter length => trivial

/-- Which segments a literal may follow does not depend on its text. -/
theorem Distinct.to_literal {segment next other : Segment} (distinct : segment.Distinct next)
    (was : next.IsLiteral) (becomes : other.IsLiteral) : segment.Distinct other := by
  cases next with
  | field letter length => exact was.elim
  | literal text =>
      cases other with
      | field letter length => exact becomes.elim
      | literal more => cases segment <;> exact distinct

/-- A segment in front of a row with distinct neighbours, when it is no run that goes on. -/
theorem isChain_singleton_followedBy {segment : Segment} {second : List Segment}
    (right : second.IsChain Distinct)
    (ends : ∀ letter length count, segment = field letter length →
      second.head? ≠ some (field letter count)) :
    (followedBy [segment] second).IsChain Distinct := by
  cases segment with
  | field letter length =>
      rw [field_followedBy, nil_followedBy]
      refine List.isChain_cons.mpr ⟨?_, right⟩
      intro next found
      cases next with
      | literal text => trivial
      | field other count =>
          rintro rfl
          exact ends letter length count rfl found
  | literal text =>
      cases second with
      | nil => exact .singleton _
      | cons next others =>
          cases next with
          | literal more => exact right.imp_head Distinct.of_literal
          | field letter length => exact List.isChain_cons_cons.mpr ⟨trivial, right⟩

/-- **Rows with distinct neighbours are put together to one when no run goes on across the
cut.** -/
theorem isChain_followedBy {first second : List Segment} (left : first.IsChain Distinct)
    (right : second.IsChain Distinct)
    (ends : ∀ letter length count, first.getLast? = some (field letter length) →
      second.head? ≠ some (field letter count)) :
    (followedBy first second).IsChain Distinct := by
  induction first with
  | nil => exact right
  | cons segment rest ih =>
      cases rest with
      | nil =>
          apply isChain_singleton_followedBy right
          rintro letter length count rfl
          exact ends letter length count rfl
      | cons next others =>
          -- The row after the segment starts as before, or with a literal that grew.
          obtain ⟨head, tail, grown, same⟩ := exists_cons_followedBy next others second
          have later := ih left.tail ends
          have here : segment.Distinct next := (List.isChain_cons_cons.mp left).1
          rw [cons_cons_followedBy]
          rw [grown] at later ⊢
          refine List.isChain_cons_cons.mpr ⟨?_, later⟩
          rcases same with rfl | ⟨grew, was⟩
          · exact here
          · exact here.to_literal was grew

theorem shaped_followedBy {allowed : Char → Prop} {first second : List Segment}
    (left : ∀ segment ∈ first, segment.Shaped allowed)
    (right : ∀ segment ∈ second, segment.Shaped allowed) :
    ∀ segment ∈ followedBy first second, segment.Shaped allowed := by
  fun_induction followedBy first second with
  | case1 second => exact right
  | case2 text next others =>
      obtain ⟨here, later⟩ := List.forall_mem_cons.mp right
      exact List.forall_mem_cons.mpr ⟨List.append_ne_nil_of_right_ne_nil text here, later⟩
  | case3 segment rest second apart ih =>
      obtain ⟨here, later⟩ := List.forall_mem_cons.mp left
      exact List.forall_mem_cons.mpr ⟨here, ih later right⟩

theorem flatMap_marks_followedBy (first second : List Segment) :
    (followedBy first second).flatMap marks = first.flatMap marks ++ second.flatMap marks := by
  fun_induction followedBy first second with
  | case1 second => rfl
  | case2 text next others => simp [marks]
  | case3 segment rest second apart ih => simp [ih]

end Segment

/-! ## Marks -/

namespace Mark

open Segment

/-- Segments whose marks, one after the other, are given marks, and of which no two
neighbours run into each other. -/
structure SpelledBy (marks : List Mark) (items : List Segment) : Prop where
  shaped : ∀ segment ∈ items, segment.Shaped fun _ => True
  distinct : items.IsChain Distinct
  spelled : items.flatMap Segment.marks = marks

namespace SpelledBy

variable {marks later : List Mark} {items others : List Segment}

/-- Grouping finds the segments that marks are spelled by. -/
theorem segments_eq (spelledBy : SpelledBy marks items) : segments marks = items := by
  rw [← spelledBy.spelled]
  exact segments_flatMap_marks spelledBy.shaped spelledBy.distinct

/-- Rows are spelled one after the other when no run goes on across the cut. -/
theorem append (first : SpelledBy marks items) (second : SpelledBy later others)
    (ends : ∀ letter length count, items.getLast? = some (.field letter length) →
      others.head? ≠ some (.field letter count)) :
    SpelledBy (marks ++ later) (followedBy items others) where
  shaped := shaped_followedBy first.shaped second.shaped
  distinct := isChain_followedBy first.distinct second.distinct ends
  spelled := by rw [flatMap_marks_followedBy, first.spelled, second.spelled]

theorem single_text (c : Char) : SpelledBy [.text c] [.literal [c]] :=
  ⟨by simp [Shaped], .singleton _, rfl⟩

theorem single_letter (c : Char) : SpelledBy [.letter c] [.field c 1] :=
  ⟨by simp [Shaped], .singleton _, rfl⟩

/-- One more letter in front of its run. -/
theorem letter_run {c : Char} {length : Nat}
    (spelledBy : SpelledBy marks (.field c length :: others)) :
    SpelledBy (.letter c :: marks) (.field c (length + 1) :: others) := by
  obtain ⟨shaped, distinct, spelled⟩ := spelledBy
  obtain ⟨-, later⟩ := List.forall_mem_cons.mp shaped
  refine ⟨List.forall_mem_cons.mpr ⟨.run trivial (Nat.le_add_left 1 length), later⟩, ?_, ?_⟩
  · refine distinct.imp_head ?_
    intro next apart
    cases next <;> exact apart
  · rw [← spelled]
    rfl

/-- A run at the end is spelled with its letter last. -/
theorem getLast?_eq (spelledBy : SpelledBy marks items) {letter : Char} {length : Nat}
    (last : items.getLast? = some (.field letter length)) :
    marks.getLast? = some (.letter letter) := by
  obtain ⟨shaped, -, rfl⟩ := spelledBy
  obtain ⟨before, rfl⟩ := List.getLast?_eq_some_iff.mp last
  obtain ⟨-, positive⟩ := shaped _ List.mem_concat_self
  obtain ⟨shorter, rfl⟩ := Nat.exists_eq_add_of_le' positive
  simp [Segment.marks, List.replicate_succ']

/-- A run at the start is spelled with its letter first. -/
theorem head?_eq (spelledBy : SpelledBy marks items) {letter : Char} {length : Nat}
    (first : items.head? = some (.field letter length)) :
    marks.head? = some (.letter letter) := by
  obtain ⟨shaped, -, rfl⟩ := spelledBy
  obtain ⟨rest, rfl⟩ := List.head?_eq_some_iff.mp first
  obtain ⟨-, positive⟩ := shaped _ List.mem_cons_self
  obtain ⟨shorter, rfl⟩ := Nat.exists_eq_add_of_le' positive
  simp [Segment.marks, List.replicate_succ]

end SpelledBy

/-- **All marks without a cut are spelled by some segments.** -/
theorem exists_spelledBy {marks : List Mark} (whole : cut ∉ marks) :
    ∃ items, SpelledBy marks items := by
  induction marks with
  | nil => exact ⟨[], by simp, .nil, rfl⟩
  | cons mark rest ih =>
      obtain ⟨items, spelledBy⟩ := ih fun member => whole (List.mem_cons_of_mem _ member)
      cases mark with
      | cut => exact absurd List.mem_cons_self whole
      | text c => exact ⟨_, (SpelledBy.single_text c).append spelledBy (by simp)⟩
      | letter c =>
          by_cases goesOn : ∃ count others, items = .field c count :: others
          · obtain ⟨count, others, rfl⟩ := goesOn
            exact ⟨_, spelledBy.letter_run⟩
          · refine ⟨_, (SpelledBy.single_letter c).append spelledBy ?_⟩
            rintro letter length count last found
            cases last
            obtain ⟨others, same⟩ := List.head?_eq_some_iff.mp found
            exact goesOn ⟨count, others, same⟩

/-- Marks without a cut are spelled by the segments that grouping gives. -/
theorem spelledBy_segments {marks : List Mark} (whole : cut ∉ marks) :
    SpelledBy marks (segments marks) := by
  obtain ⟨items, spelledBy⟩ := exists_spelledBy whole
  rw [spelledBy.segments_eq]
  exact spelledBy

/-- **Grouping gives the segments of two rows of marks, one after the other, when no run goes
on across the cut.** -/
theorem segments_append {marks later : List Mark} (first : cut ∉ marks) (second : cut ∉ later)
    (ends : ∀ c, marks.getLast? = some (.letter c) → later.head? ≠ some (.letter c)) :
    segments (marks ++ later) = followedBy (segments marks) (segments later) := by
  have left := spelledBy_segments first
  have right := spelledBy_segments second
  refine (left.append right ?_).segments_eq
  intro letter length count last found
  exact ends letter (left.getLast?_eq last) (right.head?_eq found)

end Mark

/-! ## Quoted sections -/

/-- Whether a quoted section is open after glyphs. -/
def Glyph.opened : List Glyph → Bool
  | [] => false
  | .quote :: rest => !opened rest
  | .plain _ _ :: rest => opened rest

/-- Whether a pattern leaves a quoted section open. -/
def leavesOpen (pattern : Text) : Bool := Glyph.opened (Glyph.ofPattern pattern)

/-! ## Marks of two patterns -/

/-- **The marks of two rows of glyphs**: a quoted section that the first leaves open makes the
second read the other way round. -/
theorem patternMarks_append (glyphs later : List Glyph) :
    patternMarks (glyphs ++ later) =
      if Glyph.opened glyphs then
        ((patternMarks glyphs).1 ++ (patternMarks later).2,
          (patternMarks glyphs).2 ++ (patternMarks later).1)
      else
        ((patternMarks glyphs).1 ++ (patternMarks later).1,
          (patternMarks glyphs).2 ++ (patternMarks later).2) := by
  induction glyphs with
  | nil => rfl
  | cons glyph rest ih =>
      cases glyph with
      | plain c paired =>
          rw [List.cons_append, patternMarks, ih, Glyph.opened]
          cases Glyph.opened rest <;> rfl
      | quote =>
          rw [List.cons_append, patternMarks, ih, Glyph.opened]
          cases Glyph.opened rest <;> rfl

/-- No mark of a pattern is a cut. -/
theorem cut_notMem_patternMarks (glyphs : List Glyph) :
    Mark.cut ∉ (patternMarks glyphs).1 ∧ Mark.cut ∉ (patternMarks glyphs).2 := by
  induction glyphs with
  | nil => exact ⟨List.not_mem_nil, List.not_mem_nil⟩
  | cons glyph rest ih =>
      cases glyph with
      | quote => exact ih.symm
      | plain c paired =>
          refine ⟨?_, ?_⟩
          · intro member
            rcases List.mem_cons.mp member with here | later
            · split at here <;> cases here
            · exact ih.1 later
          · intro member
            rcases List.mem_cons.mp member with here | later
            · cases here
            · exact ih.2 later

/-- Only a field letter is marked as a letter, and as itself. -/
theorem letter_of_mark_eq {c letter : Char}
    (same : (if !false && isFieldLetter c then Mark.letter c else .text c) = .letter letter) :
    c = letter ∧ isFieldLetter c := by
  by_cases field : isFieldLetter c
  · simp only [Bool.not_false, Bool.true_and, field, if_true] at same
    exact ⟨Mark.letter.inj same, field⟩
  · simp [field] at same

/-- What an opening quote is followed by is text: pairs of quotes are resolved already. -/
theorem patternMarks_opening {rest : Text} (single : rest.head? ≠ some '\'') :
    rest = [] ∨ ∃ c later,
      (patternMarks (Glyph.ofPattern ('\'' :: rest))).1 = .text c :: later := by
  rw [Glyph.ofPattern_quote single]
  cases rest with
  | nil => exact .inl rfl
  | cons c rest =>
      refine .inr ⟨c, (patternMarks (Glyph.ofPattern rest)).2, ?_⟩
      rw [Glyph.ofPattern_plain (by simpa using single)]
      rfl

/-- A field letter that a pattern starts with stands at its start. -/
theorem head?_of_letter {pattern : Text} {letter : Char}
    (first : (patternMarks (Glyph.ofPattern pattern)).1.head? = some (.letter letter)) :
    pattern.head? = some letter ∧ letter.isAlpha := by
  fun_cases Glyph.ofPattern pattern with
  | case1 => cases first
  | case2 rest => cases first
  | case3 rest single =>
      rcases patternMarks_opening (Glyph.head?_ne_quote single) with rfl | ⟨c, later, marks⟩
      · cases first
      · rw [marks] at first
        cases first
  | case4 c rest double other =>
      rw [Glyph.ofPattern_plain other, patternMarks] at first
      obtain ⟨rfl, field⟩ := letter_of_mark_eq (Option.some.inj first)
      exact ⟨rfl, isFieldLetter_eq_isAlpha c ▸ field⟩

/-- Only the empty pattern has no marks and leaves no quoted section open. -/
theorem eq_nil_of_marks_eq_nil {pattern : Text} (closed : leavesOpen pattern = false)
    (empty : (patternMarks (Glyph.ofPattern pattern)).1 = []) : pattern = [] := by
  fun_cases Glyph.ofPattern pattern with
  | case1 => rfl
  | case2 rest => cases empty
  | case3 rest single =>
      rcases patternMarks_opening (Glyph.head?_ne_quote single) with rfl | ⟨c, later, marks⟩
      · cases closed
      · rw [marks] at empty
        cases empty
  | case4 c rest double other =>
      rw [Glyph.ofPattern_plain other] at empty
      cases empty

theorem getLast?_text_cons (c letter : Char) (marks : List Mark) :
    (.text c :: marks).getLast? = some (.letter letter) ↔
      marks.getLast? = some (.letter letter) := by
  rw [List.getLast?_cons]
  cases marks.getLast? <;> simp

/-- **A field letter that a pattern ends with stands at its end**, where the end is outside
quotes: read from outside when no quoted section is left open, and from inside when one is. -/
theorem getLast?_of_letter {pattern : Text} {letter : Char} :
    (leavesOpen pattern = false →
      (patternMarks (Glyph.ofPattern pattern)).1.getLast? = some (.letter letter) →
        pattern.getLast? = some letter) ∧
    (leavesOpen pattern = true →
      (patternMarks (Glyph.ofPattern pattern)).2.getLast? = some (.letter letter) →
        pattern.getLast? = some letter) := by
  rw [leavesOpen]
  fun_induction Glyph.ofPattern pattern with
  | case1 => simp [patternMarks]
  | case2 rest ih =>
      rw [Glyph.opened, patternMarks]
      refine ⟨fun closed last => ?_, fun opened last => ?_⟩
      · exact List.mem_getLast?_cons (List.mem_getLast?_cons
          (ih.1 closed ((getLast?_text_cons _ _ _).mp last)))
      · exact List.mem_getLast?_cons (List.mem_getLast?_cons
          (ih.2 opened ((getLast?_text_cons _ _ _).mp last)))
  | case3 rest single ih =>
      rw [Glyph.opened, patternMarks]
      refine ⟨fun closed last => ?_, fun opened last => ?_⟩
      · exact List.mem_getLast?_cons (ih.2 (by simpa using closed) last)
      · exact List.mem_getLast?_cons (ih.1 (by simpa using opened) last)
  | case4 c rest double other ih =>
      rw [Glyph.opened, patternMarks]
      refine ⟨fun closed last => ?_, fun opened last => ?_⟩
      · -- The letter is the last mark when no mark follows, and then nothing follows it.
        by_cases empty : (patternMarks (Glyph.ofPattern rest)).1 = []
        · rw [empty] at last
          obtain ⟨rfl, -⟩ := letter_of_mark_eq (Option.some.inj last)
          rw [eq_nil_of_marks_eq_nil closed empty]
          rfl
        · rw [List.getLast?_cons_of_ne_nil empty] at last
          exact List.mem_getLast?_cons (ih.1 closed last)
      · exact List.mem_getLast?_cons (ih.2 opened ((getLast?_text_cons _ _ _).mp last))

/-! ## Segments of two patterns -/

/-- **Two patterns, one after the other, are read as the segments of the first and then those
of the second**, with a literal at the end of the first and one at the start of the second
made one.  The first leaves no quoted section open, and neither two quotes nor two equal
letters meet at the cut. -/
theorem tokenize_append (mode : PreferenceRuns) {first second : Text}
    (closed : leavesOpen first = false)
    (quotes : ¬ (first.getLast? = some '\'' ∧ second.head? = some '\''))
    (letters : ∀ c : Char, c.isAlpha → first.getLast? = some c → second.head? ≠ some c) :
    tokenize mode (first ++ second) =
      Segment.followedBy (tokenize mode first) (tokenize mode second) := by
  have marks : (patternMarks (Glyph.ofPattern (first ++ second))).1 =
      (patternMarks (Glyph.ofPattern first)).1 ++ (patternMarks (Glyph.ofPattern second)).1 := by
    rw [leavesOpen] at closed
    rw [Glyph.ofPattern_append quotes, patternMarks_append, closed]
    rfl
  have runs : ∀ c, (patternMarks (Glyph.ofPattern first)).1.getLast? = some (.letter c) →
      (patternMarks (Glyph.ofPattern second)).1.head? ≠ some (.letter c) := by
    intro c last found
    obtain ⟨head, letter⟩ := head?_of_letter found
    exact letters c letter (getLast?_of_letter.1 closed last) head
  rw [tokenize, marks, Mark.segments_append (cut_notMem_patternMarks _).1
    (cut_notMem_patternMarks _).1 runs, Segment.joinLiterals_filter_followedBy]
  rfl

/-- Quoted text and dropped runs on both sides of the cut. -/
theorem tokenize_append_dropped :
    leavesOpen "HH 'o''clock' l" = false ∧
      tokenize .dropped (("HH 'o''clock' l" : Text) ++ "j 'at'd") =
        [.field 'H' 2, .literal " o'clock  at", .field 'd' 1] := by
  have closed : leavesOpen "HH 'o''clock' l" = false := by decide
  have quotes : ¬ (("HH 'o''clock' l" : Text).getLast? = some '\'' ∧
      ("j 'at'd" : Text).head? = some '\'') := by decide
  have apart : ("HH 'o''clock' l" : Text).getLast? ≠ ("j 'at'd" : Text).head? := by decide
  have whole := tokenize_append .dropped closed quotes
    fun c _ last first => apart (last.trans first.symm)
  refine ⟨closed, whole.trans ?_⟩
  decide

end PanelClock
