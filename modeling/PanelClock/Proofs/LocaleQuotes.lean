import PanelClock.Proofs.LocaleMarks

/-!
# Quotes that meet in a written pattern of locale data

A literal is quoted when it is written only if it holds a field letter, and only then
are its own quotes doubled.  So quotes that were written for different reasons may stand
beside each other, and two that do are read as one quote of text.  Whether a row of
segments is read back depends on nothing else.

What has been written leaves a reader in one of four states (`QuoteState`), and each
segment leads from one to the next or spoils what is read.  A row keeps its quotes when it
leads from the state outside quotes to one in which a pattern may end
(`Segment.QuotesKept`).  Usually this says that no literal without letters holds a quote and
no two literals with letters are neighbours.  It also allows the chance case in which the
quotes of a literal without letters join the closing quote before it and the opening quote
after it, so that all three are read as one quoted section.

A written row is read as the marks of its segments from exactly the states in which it keeps
its quotes (`QuoteState.reads_iff`), one lemma for each kind of segment.  That quotes once
lost are not made up for later is a matter of counting: half of the quotes in front of a
text are read, and a row never starts with more than twice as many as it should show, and
one (`leadingQuotes_read_write`).
-/

set_option autoImplicit false

namespace PanelClock

/-! ## Rows that keep their quotes -/

/-- Where a reader stands after what has been written. -/
inductive QuoteState where
  /-- Outside quotes. -/
  | outside
  /-- Outside quotes, after a closing quote.  A quote of text would be paired with it. -/
  | closed
  /-- Inside quotes after all, because a quote of text was paired with the closing one. -/
  | held
  /-- Inside quotes, after a quote of text that an opening quote has to be paired with. -/
  | waiting
  deriving DecidableEq, Repr

namespace QuoteState

/-- Where a text that is written without quotes around it leads, if it is read as itself. -/
def afterText : QuoteState → Text → Option QuoteState
  | state, [] => some state
  | outside, c :: rest => if c = '\'' then none else afterText outside rest
  | closed, c :: rest => afterText (if c = '\'' then held else outside) rest
  | held, c :: rest => afterText (if c = '\'' then waiting else held) rest
  | waiting, _ :: _ => none

/-- Where a segment leads, if it is read as itself. -/
def after (state : QuoteState) : Segment → Option QuoteState
  | .literal text =>
      if text.any isLocaleLetter then
        if state = outside ∨ state = waiting then some closed else none
      else state.afterText text
  | .field _ _ => if state = outside ∨ state = closed then some outside else none

/-- From the state a row of segments leads to one in which a pattern may end. -/
def Keeps (state : QuoteState) : List Segment → Prop
  | [] => state = outside ∨ state = closed
  | segment :: rest => ∃ next, state.after segment = some next ∧ next.Keeps rest

instance decidableKeeps (state : QuoteState) : (segments : List Segment) →
    Decidable (state.Keeps segments)
  | [] => inferInstanceAs (Decidable (state = outside ∨ state = closed))
  | segment :: rest =>
      match leads : state.after segment with
      | none => isFalse fun ⟨_, same, _⟩ => nomatch leads.symm.trans same
      | some next =>
          have := decidableKeeps next rest
          decidable_of_iff (next.Keeps rest)
            ⟨fun keeps => ⟨next, leads, keeps⟩,
              fun ⟨_, same, keeps⟩ => Option.some.inj (leads.symm.trans same) ▸ keeps⟩

end QuoteState

/-- A row of segments whose quotes are read as they were written. -/
def Segment.QuotesKept (segments : List Segment) : Prop := QuoteState.outside.Keeps segments

instance : DecidablePred Segment.QuotesKept := QuoteState.outside.decidableKeeps

/-! ## Counting leading quotes -/

/-- The number of quotes of text that marks start with. -/
def leadingQuotes : List Mark → Nat
  | .text c :: rest => if c = '\'' then leadingQuotes rest + 1 else 0
  | _ => 0

@[simp] theorem leadingQuotes_nil : leadingQuotes [] = 0 := rfl

@[simp] theorem leadingQuotes_quote (rest : List Mark) :
    leadingQuotes (.text '\'' :: rest) = leadingQuotes rest + 1 := by
  simp [leadingQuotes]

theorem leadingQuotes_cons {mark : Mark} (other : mark ≠ .text '\'') (rest : List Mark) :
    leadingQuotes (mark :: rest) = 0 := by
  cases mark with
  | text c =>
      have different : c ≠ '\'' := fun same => other (same ▸ rfl)
      simp [leadingQuotes, different]
  | letter c => rfl
  | cut => rfl

/-- **Half of the quotes that a text starts with are read**, outside quotes and inside. -/
theorem leadingQuotes_read {text : Text} (noNull : '\x00' ∉ text) :
    leadingQuotes (outsideMarks text) = leadingQuotes (text.map .text) / 2 ∧
      ∀ marks, insideMarks? text = some marks →
        leadingQuotes marks = leadingQuotes (text.map .text) / 2 := by
  fun_induction Glyph.ofPattern text with
  | case1 => exact ⟨rfl, by simp⟩
  | case2 rest ih =>
      obtain ⟨outside, inside⟩ := ih (by simp_all)
      refine ⟨by simp [outside]; omega, fun marks found => ?_⟩
      obtain ⟨later, closed, rfl⟩ := Option.map_eq_some_iff.mp (insideMarks?_pair ▸ found)
      simp only [leadingQuotes_quote, inside later closed, List.map_cons]
      omega
  | case3 rest notPair ih =>
      obtain ⟨outside, inside⟩ := ih (by simp_all)
      have single : rest.head? ≠ some '\'' := by
        cases rest with
        | nil => simp
        | cons d rest => simpa using fun same : d = '\'' => notPair rest (same ▸ rfl)
      have none : leadingQuotes (rest.map .text) = 0 := by
        cases rest with
        | nil => rfl
        | cons d rest => exact leadingQuotes_cons (by simpa using single) _
      rw [none] at outside inside
      have one : leadingQuotes (('\'' :: rest).map .text) / 2 = 0 := by simp [none]
      rw [one, outsideMarks_quote single, insideMarks?_quote single]
      refine ⟨?_, fun marks found => Option.some.inj found ▸ outside⟩
      cases closed : insideMarks? rest with
      | none => rfl
      | some marks => exact inside marks closed
  | case4 c rest notPair other ih =>
      have different : c ≠ '\'' := fun same => other same
      have notNull : c ≠ '\x00' := by
        rintro rfl
        simp at noNull
      have mark : (if isLocaleLetter c then Mark.letter c else .text c) ≠ .text '\'' := by
        split <;> simp [different]
      have text : Mark.text c ≠ .text '\'' := by simpa using different
      rw [outsideMarks_cons different notNull, insideMarks?_cons different notNull,
        List.map_cons, leadingQuotes_cons mark, leadingQuotes_cons text]
      refine ⟨rfl, fun marks found => ?_⟩
      obtain ⟨later, -, rfl⟩ := Option.map_eq_some_iff.mp found
      exact leadingQuotes_cons text later

/-! ## Rows of segments as they are written -/

/-- A run is read as its letters. -/
theorem outsideMarks_specifier {letter : Char} (field : isLocaleLetter letter) (length : Nat)
    (rest : Text) :
    outsideMarks (Segment.specifier letter length ++ rest) =
      List.replicate length (.letter letter) ++ outsideMarks rest := by
  have notNull : letter ≠ '\x00' := by
    rintro rfl
    exact absurd field (by decide)
  induction length with
  | zero => rfl
  | succ length ih =>
      simp only [Segment.specifier, List.replicate_succ, List.cons_append] at ih ⊢
      rw [outsideMarks_cons (ne_quote_of_isLocaleLetter field) notNull, if_pos field, ih]

/-- A literal without letters is written as it is. -/
theorem writeLocaleLiteral_of_bare {text : Text} (bare : ¬ text.any isLocaleLetter) :
    writeLocaleLiteral text = text :=
  if_neg bare

/-- A literal with letters is written between quotes, its own quotes doubled. -/
theorem writeLocaleLiteral_of_lettered {text : Text} (lettered : text.any isLocaleLetter) :
    writeLocaleLiteral text = '\'' :: doubleQuotes text ++ ['\''] := by
  have doubled : text.flatMap (fun c => if c = '\'' then ['\'', '\''] else [c]) =
      doubleQuotes text := by
    clear lettered
    induction text with
    | nil => rfl
    | cons c text ih =>
        rw [List.flatMap_cons, ih, doubleQuotes]
        split <;> rfl
  rw [writeLocaleLiteral, if_pos lettered, doubled]

/-- A text with a letter holds something else than quotes. -/
theorem exists_ne_quote_of_lettered {text : Text} (lettered : text.any isLocaleLetter) :
    ∃ c ∈ text, c ≠ '\'' := by
  obtain ⟨c, member, letter⟩ := List.any_eq_true.mp lettered
  exact ⟨c, member, ne_quote_of_isLocaleLetter letter⟩

/-! ### Doubled quotes -/

section Doubled

variable {text : Text} (noNull : '\x00' ∉ text)

include noNull

/-- Inside quotes a text with doubled quotes is read as itself. -/
theorem insideMarks?_doubleQuotes (rest : Text) :
    insideMarks? (doubleQuotes text ++ rest) =
      (insideMarks? rest).map (text.map .text ++ ·) := by
  induction text with
  | nil => simp [doubleQuotes]
  | cons c text ih =>
      obtain ⟨notNull, later⟩ := List.ne_and_not_mem_of_not_mem_cons noNull
      by_cases quote : c = '\''
      · subst quote
        simp [doubleQuotes, ih later, Function.comp_def]
      · simp [doubleQuotes, quote, insideMarks?_cons quote (Ne.symm notNull), ih later,
          Function.comp_def]

/-- **Outside quotes the same text is not read as itself when it holds a letter.** -/
theorem outsideMarks_doubleQuotes_ne (lettered : text.any isLocaleLetter) (rest : Text)
    (marks : List Mark) : outsideMarks (doubleQuotes text ++ rest) ≠ text.map .text ++ marks := by
  induction text with
  | nil => simp at lettered
  | cons c text ih =>
      obtain ⟨notNull, later⟩ := List.ne_and_not_mem_of_not_mem_cons noNull
      by_cases quote : c = '\''
      · subst quote
        have letters : text.any isLocaleLetter := by simpa using lettered
        simpa [doubleQuotes] using ih later letters
      · rw [doubleQuotes, if_neg quote, List.cons_append,
          outsideMarks_cons quote (Ne.symm notNull)]
        by_cases letter : isLocaleLetter c
        · simp [letter]
        · have letters : text.any isLocaleLetter := by simpa [letter] using lettered
          simpa [letter] using ih later letters

variable (other : ∃ c ∈ text, c ≠ '\'')

include other

/-- After an opening quote the text is read as itself exactly as far as what follows is read
inside quotes.  The quotes that the text starts with come first, because the opening one is
paired with the first of them. -/
theorem outsideMarks_opened_iff (rest : Text) (marks : List Mark) :
    outsideMarks ('\'' :: (doubleQuotes text ++ rest)) = text.map .text ++ marks ↔
      insideMarks? rest = some marks := by
  induction text with
  | nil => simp at other
  | cons c text ih =>
      obtain ⟨notNull, later⟩ := List.ne_and_not_mem_of_not_mem_cons noNull
      by_cases quote : c = '\''
      · subst quote
        simpa [doubleQuotes] using ih later (by simpa using other)
      · rw [doubleQuotes, if_neg quote, List.cons_append,
          outsideMarks_quote (by simpa using quote), insideMarks?_cons quote (Ne.symm notNull),
          insideMarks?_doubleQuotes later]
        cases insideMarks? rest <;> simp

/-- A quote in front of the text, read inside quotes, closes the section. -/
theorem insideMarks?_reopened (rest : Text) :
    insideMarks? ('\'' :: (doubleQuotes text ++ rest)) =
      some (outsideMarks (doubleQuotes text ++ rest)) := by
  induction text with
  | nil => simp at other
  | cons c text ih =>
      obtain ⟨-, later⟩ := List.ne_and_not_mem_of_not_mem_cons noNull
      by_cases quote : c = '\''
      · subst quote
        simp [doubleQuotes, ih later (by simpa using other)]
      · rw [doubleQuotes, if_neg quote, List.cons_append,
          insideMarks?_quote (by simpa using quote)]

omit noNull

/-- A text that is not all quotes starts with as many as it does whatever follows. -/
theorem leadingQuotes_append (marks : List Mark) :
    leadingQuotes (text.map .text ++ marks) = leadingQuotes (text.map .text) := by
  induction text with
  | nil => simp at other
  | cons c text ih =>
      by_cases quote : c = '\''
      · subst quote
        simp [ih (by simpa using other)]
      · have mark : Mark.text c ≠ .text '\'' := by simpa using quote
        rw [List.map_cons, List.cons_append, leadingQuotes_cons mark, leadingQuotes_cons mark]

/-- Doubling its quotes doubles their number in front. -/
theorem leadingQuotes_doubleQuotes (rest : Text) :
    leadingQuotes ((doubleQuotes text ++ rest).map .text) =
      2 * leadingQuotes (text.map .text) := by
  induction text with
  | nil => simp at other
  | cons c text ih =>
      by_cases quote : c = '\''
      · subst quote
        have counted := ih (by simpa using other)
        simp only [doubleQuotes, if_true, List.cons_append, List.map_cons, leadingQuotes_quote,
          counted]
        omega
      · have mark : Mark.text c ≠ .text '\'' := by simpa using quote
        simp [doubleQuotes, quote, leadingQuotes_cons mark]

end Doubled

/-! ### Rows -/

/-- **A row starts with at most twice as many quotes as its marks, and one.** -/
theorem leadingQuotes_write {segments : List Segment}
    (legible : ∀ segment ∈ segments, segment.Legible) :
    leadingQuotes ((writeLocaleSegments segments).map .text) ≤
      2 * leadingQuotes (segments.flatMap Segment.marks) + 1 := by
  induction segments with
  | nil => simp [writeLocaleSegments]
  | cons segment rest ih =>
      obtain ⟨here, later⟩ := List.forall_mem_cons.mp legible
      have tail := ih later
      have split : writeLocaleSegments (segment :: rest) =
          writeLocaleSegment segment ++ writeLocaleSegments rest := rfl
      rw [split, List.flatMap_cons]
      cases segment with
      | field letter length =>
          obtain ⟨before, rfl⟩ : ∃ before, length = before + 1 :=
            ⟨length - 1, by have := here.2; omega⟩
          have mark : Mark.text letter ≠ .text '\'' := by
            simpa using ne_quote_of_isLocaleLetter here.1
          simp [writeLocaleSegment, Segment.specifier, List.replicate_succ,
            leadingQuotes_cons mark]
      | literal text =>
          by_cases lettered : text.any isLocaleLetter
          · have other := exists_ne_quote_of_lettered lettered
            rw [writeLocaleSegment, writeLocaleLiteral_of_lettered lettered, List.append_assoc,
              List.cons_append, List.map_cons, leadingQuotes_quote,
              leadingQuotes_doubleQuotes other, Segment.marks, leadingQuotes_append other]
          · rw [writeLocaleSegment, writeLocaleLiteral_of_bare lettered, Segment.marks,
              List.map_append]
            clear lettered here legible split
            induction text with
            | nil => simpa using tail
            | cons c text ih =>
                by_cases quote : c = '\''
                · subst quote
                  simp only [List.map_cons, List.cons_append, leadingQuotes_quote]
                  omega
                · have mark : Mark.text c ≠ .text '\'' := by simpa using quote
                  simp [leadingQuotes_cons mark]

/-- What is written is free of the character that is read as a quote. -/
theorem null_notMem_write {segments : List Segment}
    (legible : ∀ segment ∈ segments, segment.Legible) :
    '\x00' ∉ writeLocaleSegments segments := by
  intro member
  obtain ⟨segment, inSegments, written⟩ := List.mem_flatMap.mp member
  have here := legible segment inSegments
  cases segment with
  | field letter length =>
      have null : '\x00' = letter := List.eq_of_mem_replicate written
      exact absurd (null ▸ here.1) (by decide)
  | literal text =>
      rw [writeLocaleSegment, writeLocaleLiteral] at written
      split at written
      · simp only [List.mem_append, List.mem_cons, List.mem_flatMap, List.not_mem_nil,
          or_false] at written
        rcases written with (quote | ⟨c, inText, same⟩) | quote
        · exact absurd quote (by decide)
        · split at same
          · simp at same
          · exact here (List.mem_singleton.mp same ▸ inText)
        · exact absurd quote (by decide)
      · exact here written

/-- Reading a row gives no more quotes in front than its marks have. -/
theorem leadingQuotes_read_write {segments : List Segment}
    (legible : ∀ segment ∈ segments, segment.Legible) :
    leadingQuotes (outsideMarks (writeLocaleSegments segments)) ≤
        leadingQuotes (segments.flatMap Segment.marks) ∧
      ∀ marks, insideMarks? (writeLocaleSegments segments) = some marks →
        leadingQuotes marks ≤ leadingQuotes (segments.flatMap Segment.marks) := by
  obtain ⟨outside, inside⟩ := leadingQuotes_read (null_notMem_write legible)
  have bound := leadingQuotes_write legible
  refine ⟨by omega, fun marks read => ?_⟩
  have half := inside marks read
  omega

/-- **Outside quotes, a quote of text is lost in front of every row.** -/
theorem outsideMarks_quote_ne {segments : List Segment}
    (legible : ∀ segment ∈ segments, segment.Legible) :
    outsideMarks ('\'' :: writeLocaleSegments segments) ≠
      .text '\'' :: segments.flatMap Segment.marks := by
  -- A single quote opens a section, in which another character comes first.
  have single : ∀ (c : Char) (rest : Text) (marks : List Mark), c ≠ '\'' → c ≠ '\x00' →
      outsideMarks ('\'' :: c :: rest) ≠ .text '\'' :: marks := fun c rest marks other notNull => by
    rw [outsideMarks_quote (by simpa using other), insideMarks?_cons other notNull]
    cases insideMarks? rest <;> simp [other]
  induction segments with
  | nil => decide
  | cons segment rest ih =>
      obtain ⟨here, later⟩ := List.forall_mem_cons.mp legible
      rw [writeLocaleSegments, List.flatMap_cons, List.flatMap_cons]
      cases segment with
      | field letter length =>
          obtain ⟨before, rfl⟩ : ∃ before, length = before + 1 :=
            ⟨length - 1, by have := here.2; omega⟩
          have notNull : letter ≠ '\x00' := fun null => absurd (null ▸ here.1) (by decide)
          exact single letter _ _ (ne_quote_of_isLocaleLetter here.1) notNull
      | literal text =>
          by_cases lettered : text.any isLocaleLetter
          · rw [writeLocaleSegment, writeLocaleLiteral_of_lettered lettered, List.append_assoc,
              List.cons_append, outsideMarks_pair]
            intro same
            exact outsideMarks_doubleQuotes_ne here lettered _ _ (List.cons.inj same).2
          · rw [writeLocaleSegment, writeLocaleLiteral_of_bare lettered, Segment.marks]
            cases text with
            | nil => exact ih later
            | cons c text =>
                obtain ⟨notNull, noNull⟩ := List.ne_and_not_mem_of_not_mem_cons here
                by_cases quote : c = '\''
                · -- One quote is read where two are due, and what follows cannot make up for it.
                  subst quote
                  intro same
                  have bare : ¬ text.any isLocaleLetter := by simpa using lettered
                  have legible' : ∀ segment ∈ Segment.literal text :: rest, segment.Legible :=
                    List.forall_mem_cons.mpr ⟨noNull, later⟩
                  have row := (leadingQuotes_read_write legible').1
                  have whole : writeLocaleSegments (.literal text :: rest) =
                      text ++ writeLocaleSegments rest :=
                    congrArg (· ++ _) (writeLocaleLiteral_of_bare bare)
                  have lost : outsideMarks (writeLocaleSegments (.literal text :: rest)) =
                      .text '\'' :: (Segment.literal text :: rest).flatMap Segment.marks := by
                    rw [whole]
                    exact (List.cons.inj same).2
                  rw [lost, leadingQuotes_quote] at row
                  omega
                · exact single c _ _ quote (Ne.symm notNull)

/-! ## From state to state -/

namespace QuoteState

/-- The text ahead is read as the marks from the state.  A quote that may still be paired is
counted to the text ahead. -/
def Reads : QuoteState → Text → List Mark → Prop
  | outside, text, marks => outsideMarks text = marks
  | closed, text, marks => insideMarks? ('\'' :: text) = some marks
  | held, text, marks => insideMarks? text = some marks
  | waiting, text, marks => insideMarks? ('\'' :: text) = some (.text '\'' :: marks)

variable {rest : List Segment} (later : ∀ segment ∈ rest, segment.Legible)

include later

/-- **A text without letters is read as itself from exactly the states that it leads on
from.**  The induction is on the text, with one case for every state and for a quote or
another character. -/
theorem reads_bare_iff {text : Text} (bare : ¬ text.any isLocaleLetter) (noNull : '\x00' ∉ text)
    (state : QuoteState) :
    state.Reads (text ++ writeLocaleSegments rest)
        (text.map .text ++ rest.flatMap Segment.marks) ↔
      ∃ next, state.afterText text = some next ∧
        next.Reads (writeLocaleSegments rest) (rest.flatMap Segment.marks) := by
  induction text generalizing state with
  | nil => cases state <;> simp [afterText]
  | cons c text ih =>
      obtain ⟨notNull', noNull'⟩ := List.ne_and_not_mem_of_not_mem_cons noNull
      have notNull : c ≠ '\x00' := Ne.symm notNull'
      simp only [List.any_cons, Bool.or_eq_true, not_or] at bare
      have tail := ih bare.2 noNull'
      -- The rest of the text is the start of a row, too.
      have whole : writeLocaleSegments (.literal text :: rest) =
          text ++ writeLocaleSegments rest :=
        congrArg (· ++ _) (writeLocaleLiteral_of_bare bare.2)
      have spelled : (Segment.literal text :: rest).flatMap Segment.marks =
          text.map .text ++ rest.flatMap Segment.marks := rfl
      have legible : ∀ segment ∈ Segment.literal text :: rest, segment.Legible :=
        List.forall_mem_cons.mpr ⟨noNull', later⟩
      rw [List.map_cons, List.cons_append, List.cons_append]
      by_cases quote : c = '\''
      · subst quote
        cases state with
        | outside =>
            have lost := outsideMarks_quote_ne legible
            rw [whole, spelled] at lost
            simpa [Reads, afterText] using lost
        | closed => simpa [Reads, afterText] using tail held
        | held => exact tail waiting
        | waiting =>
            have few := (leadingQuotes_read_write legible).2
            rw [whole, spelled] at few
            simp only [Reads, afterText, insideMarks?_pair, reduceCtorEq, false_and, exists_false,
              iff_false]
            intro same
            obtain ⟨read, inside, equal⟩ := Option.map_eq_some_iff.mp same
            have bound := few read inside
            rw [(List.cons.inj equal).2, leadingQuotes_quote] at bound
            omega
      · have single : (c :: (text ++ writeLocaleSegments rest)).head? ≠ some '\'' := by
          simpa using quote
        cases state with
        | outside =>
            simpa [Reads, afterText, quote, outsideMarks_cons quote notNull, bare.1]
              using tail outside
        | closed =>
            simpa [Reads, afterText, quote, insideMarks?_quote single,
              outsideMarks_cons quote notNull, bare.1] using tail outside
        | held =>
            simpa [Reads, afterText, quote, insideMarks?_cons quote notNull] using tail held
        | waiting =>
            simp [Reads, afterText, insideMarks?_quote single, outsideMarks_cons quote notNull,
              bare.1, quote]

omit later

/-- A text with letters is read as itself exactly where its opening quote opens a section: outside
quotes, and where a quote of text waits for it. -/
theorem reads_lettered_iff {text : Text} (lettered : text.any isLocaleLetter)
    (noNull : '\x00' ∉ text) (state : QuoteState) (following : Text) (marks : List Mark) :
    state.Reads (writeLocaleLiteral text ++ following) (text.map .text ++ marks) ↔
      (state = outside ∨ state = waiting) ∧ closed.Reads following marks := by
  have other := exists_ne_quote_of_lettered lettered
  have written : writeLocaleLiteral text ++ following =
      '\'' :: (doubleQuotes text ++ '\'' :: following) := by
    simp [writeLocaleLiteral_of_lettered lettered]
  rw [written]
  cases state with
  | outside => simpa [Reads] using outsideMarks_opened_iff noNull other ('\'' :: following) marks
  | closed =>
      simp only [Reads, insideMarks?_pair, insideMarks?_doubleQuotes noNull, Option.map_map,
        reduceCtorEq, or_self, false_and, iff_false]
      intro same
      obtain ⟨read, -, equal⟩ := Option.map_eq_some_iff.mp same
      -- One quote more is read than the text starts with.
      have more := congrArg leadingQuotes equal
      simp [leadingQuotes_append other] at more
  | held =>
      simpa [Reads, insideMarks?_reopened noNull other]
        using outsideMarks_doubleQuotes_ne noNull lettered ('\'' :: following) marks
  | waiting =>
      simp only [Reads, insideMarks?_pair, insideMarks?_doubleQuotes noNull]
      cases insideMarks? ('\'' :: following) <;> simp

/-- A run is read as itself outside quotes. -/
theorem reads_field_iff {letter : Char} {length : Nat} (field : isLocaleLetter letter)
    (positive : 1 ≤ length) (state : QuoteState) (following : Text) (marks : List Mark) :
    state.Reads (Segment.specifier letter length ++ following)
        (List.replicate length (.letter letter) ++ marks) ↔
      (state = outside ∨ state = closed) ∧ outside.Reads following marks := by
  obtain ⟨before, rfl⟩ : ∃ before, length = before + 1 := ⟨length - 1, by omega⟩
  have other := ne_quote_of_isLocaleLetter field
  have notNull : letter ≠ '\x00' := fun null => absurd (null ▸ field) (by decide)
  have read := outsideMarks_specifier field (before + 1) following
  have single : (Segment.specifier letter (before + 1) ++ following).head? ≠ some '\'' := by
    simpa [Segment.specifier, List.replicate_succ] using other
  cases state with
  | outside => simp [Reads, read]
  | closed => simp [Reads, insideMarks?_quote single, read]
  | held =>
      simp only [Reads, Segment.specifier, List.replicate_succ, List.cons_append,
        insideMarks?_cons other notNull]
      cases insideMarks? (List.replicate before letter ++ following) <;> simp
  | waiting => simp [Reads, insideMarks?_quote single, read, List.replicate_succ]

/-- **A written row is read as the marks of its segments from exactly the states in which it
keeps its quotes.** -/
theorem reads_iff {segments : List Segment} (legible : ∀ segment ∈ segments, segment.Legible)
    (state : QuoteState) :
    state.Reads (writeLocaleSegments segments) (segments.flatMap Segment.marks) ↔
      state.Keeps segments := by
  induction segments generalizing state with
  | nil =>
      have closes : insideMarks? ['\''] = some [] := rfl
      cases state <;> simp [Reads, Keeps, writeLocaleSegments, closes]
  | cons segment rest ih =>
      obtain ⟨here, later⟩ := List.forall_mem_cons.mp legible
      have split : writeLocaleSegments (segment :: rest) =
          writeLocaleSegment segment ++ writeLocaleSegments rest := rfl
      rw [split, List.flatMap_cons]
      cases segment with
      | field letter length =>
          rw [writeLocaleSegment, Segment.marks, reads_field_iff here.1 here.2, ih later]
          simp [Keeps, after]
      | literal text =>
          rw [writeLocaleSegment, Segment.marks]
          by_cases lettered : text.any isLocaleLetter
          · rw [reads_lettered_iff lettered here, ih later]
            simp [Keeps, after, lettered]
          · rw [writeLocaleLiteral_of_bare lettered, reads_bare_iff later lettered here]
            simp only [ih later, Keeps, after, if_neg lettered]

end QuoteState

/-! ## Reading back -/

namespace Segment

/-- **A readable row that is written is read back, once neighbouring literals are joined, exactly
when it keeps its quotes.** -/
theorem Readable.joinLiterals_read_write_iff {segments : List Segment}
    (readable : Readable segments) :
    joinLiterals (readLocaleSegments (writeLocaleSegments segments)) = joinLiterals segments ↔
      QuotesKept segments := by
  have again := readable_read (writeLocaleSegments segments)
  rw [QuotesKept, ← QuoteState.reads_iff readable.legible, QuoteState.Reads]
  constructor
  · intro same
    rw [← flatMap_marks_readLocaleSegments, ← flatMap_marks_joinLiterals, same,
      flatMap_marks_joinLiterals]
  · intro reads
    calc joinLiterals (readLocaleSegments (writeLocaleSegments segments))
        = Mark.segments (outsideMarks (writeLocaleSegments segments)) := by
          rw [← again.segments_marks, flatMap_marks_readLocaleSegments]
      _ = Mark.segments (segments.flatMap marks) := by rw [reads]
      _ = joinLiterals segments := readable.segments_marks

end Segment

end PanelClock
