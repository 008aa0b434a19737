import PanelClock.Proofs.Concatenation

/-!
# Reading a pattern in one pass

`tokenize` works in stages: it resolves the quotes, groups the marks into segments, drops
the runs that do not survive, and joins the literals that have become neighbours.  The same
segments come out of a single pass over the pattern that holds back the literal text it has
read (`scan`).  Text is given out as a literal when a run that survives follows, or at the
end.  A run that is dropped does not end it: what comes after such a run is added to the
text that is held.

The pass is correct because of what it holds: at every point the segments still to come are
those of the rest of the pattern behind the held literal (`scan_eq_followedBy`).  How the
two ways of treating hour-preference runs compare is then a matter of segments alone:
dropping these runs from what was read with them, and joining literals again, is reading
without them (`tokenize_dropped_eq_joinLiterals`).
-/

set_option autoImplicit false

namespace PanelClock

namespace Segment

/-! ## Text that is held back -/

/-- The literal that held text becomes, none when no text is held. -/
def ofHeld (held : Text) : List Segment := if held.isEmpty then [] else [literal held]

/-- One more character is held. -/
theorem ofHeld_append_singleton (held : Text) (c : Char) :
    ofHeld (held ++ [c]) = followedBy (ofHeld held) [literal [c]] := by
  cases held <;> rfl

/-- A run ends the text that is held. -/
theorem ofHeld_followedBy_field (held : Text) (letter : Char) (length : Nat)
    (rest : List Segment) :
    followedBy (ofHeld held) (field letter length :: rest) =
      ofHeld held ++ field letter length :: rest := by
  cases held <;> rfl

end Segment

open Segment

/-! ## The pass -/

/-- Reads a pattern in one pass, inside or outside a quoted section, with the literal text
that is held back.  A run is as long as its letter is repeated. -/
def scan (mode : PreferenceRuns) (quoted : Bool) (held : Text) : Text → List Segment
  | [] => ofHeld held
  | '\'' :: '\'' :: rest => scan mode quoted (held ++ ['\'']) rest
  | '\'' :: rest => scan mode (!quoted) held rest
  | c :: rest =>
      if !quoted && isFieldLetter c then
        let length := (rest.takeWhile (· = c)).length + 1
        let later := rest.dropWhile (· = c)
        if mode.keeps c then ofHeld held ++ .field c length :: scan mode false [] later
        else scan mode false held later
      else scan mode quoted (held ++ [c]) rest
termination_by pattern => pattern.length
decreasing_by
  · exact Nat.lt_succ_of_lt (Nat.lt_succ_self _)
  · exact Nat.lt_succ_self _
  · exact Nat.lt_succ_of_le (List.dropWhile_suffix _).length_le
  · exact Nat.lt_succ_of_le (List.dropWhile_suffix _).length_le
  · exact Nat.lt_succ_self _

/-- The marks of a pattern that is read inside or outside a quoted section. -/
def marksFrom (quoted : Bool) (pattern : Text) : List Mark :=
  if quoted then (patternMarks (Glyph.ofPattern pattern)).2
  else (patternMarks (Glyph.ofPattern pattern)).1

/-- The segments that are read from marks. -/
def segmentsOfMarks (mode : PreferenceRuns) (marks : List Mark) : List Segment :=
  joinLiterals ((Mark.segments marks).filter mode.keepsSegment)

/-- A character of text is put in front of the literal that follows, or starts one. -/
theorem segmentsOfMarks_text (mode : PreferenceRuns) (c : Char) (marks : List Mark) :
    segmentsOfMarks mode (.text c :: marks) =
      followedBy [literal [c]] (segmentsOfMarks mode marks) := by
  unfold segmentsOfMarks
  rcases Mark.segments_text_cases c marks with starts | ⟨more, others, before, grows⟩
  · rw [starts, List.filter_cons_of_pos rfl, joinLiterals_cons]
  · rw [before, grows, List.filter_cons_of_pos rfl, List.filter_cons_of_pos rfl,
      ← joinLiterals_cons]
    exact joinLiterals_literal_append [c] more _

/-- A character of text is held, or is put in front of what follows. -/
theorem ofHeld_followedBy_text (mode : PreferenceRuns) (held : Text) (c : Char)
    (marks : List Mark) :
    followedBy (ofHeld (held ++ [c])) (segmentsOfMarks mode marks) =
      followedBy (ofHeld held) (segmentsOfMarks mode (.text c :: marks)) := by
  rw [ofHeld_append_singleton, followedBy_assoc, segmentsOfMarks_text]

/-- A run of a letter that does not go on after it is a segment when it survives, and
nothing when it does not. -/
theorem segmentsOfMarks_run (mode : PreferenceRuns) {letter : Char} {length : Nat}
    {marks : List Mark} (positive : 1 ≤ length) (ends : marks.head? ≠ some (.letter letter)) :
    segmentsOfMarks mode (List.replicate length (.letter letter) ++ marks) =
      if mode.keeps letter then .field letter length :: segmentsOfMarks mode marks
      else segmentsOfMarks mode marks := by
  unfold segmentsOfMarks
  rw [Mark.segments_letter_append positive ends, List.filter_cons]
  show joinLiterals (if mode.keeps letter then _ else _) = _
  split
  · rw [joinLiterals]
  · rfl

/-- A pattern that starts with a field letter starts with the marks of its run, and the marks
after it do not go on with the letter. -/
theorem marksFrom_run {c : Char} (field : isFieldLetter c) (rest : Text) :
    marksFrom false (c :: rest) =
        List.replicate ((rest.takeWhile (· = c)).length + 1) (.letter c) ++
          marksFrom false (rest.dropWhile (· = c)) ∧
      (marksFrom false (rest.dropWhile (· = c))).head? ≠ some (.letter c) := by
  have repeated : ∀ other ∈ rest.takeWhile (· = c), other = c := fun other member => by
    simpa using List.mem_takeWhile_imp member
  have split : c :: rest =
      specifier c ((rest.takeWhile (· = c)).length + 1) ++ rest.dropWhile (· = c) := by
    rw [specifier, List.replicate_succ, ← List.eq_replicate_of_mem repeated, List.cons_append,
      List.takeWhile_append_dropWhile]
  refine ⟨?_, fun goesOn => ?_⟩
  · conv_lhs => rw [split]
    exact patternMarks_specifier field _ _
  · have first := (head?_of_letter goesOn).1
    have stops := List.head?_dropWhile_not (fun other => decide (other = c)) rest
    rw [first] at stops
    simp at stops

/-- A pair of quotes is a character of text, inside and outside a quoted section. -/
theorem marksFrom_pair (quoted : Bool) (rest : Text) :
    marksFrom quoted ('\'' :: '\'' :: rest) = .text '\'' :: marksFrom quoted rest := by
  cases quoted <;> rfl

/-- A single quote opens or closes a quoted section. -/
theorem marksFrom_quote (quoted : Bool) {rest : Text} (single : rest.head? ≠ some '\'') :
    marksFrom quoted ('\'' :: rest) = marksFrom (!quoted) rest := by
  cases quoted <;> simp [marksFrom, Glyph.ofPattern_quote single, patternMarks]

/-- Any other character is text inside a quoted section, and outside when it is no letter. -/
theorem marksFrom_text {quoted : Bool} {c : Char} (other : c ≠ '\'')
    (text : ¬ (!quoted && isFieldLetter c)) (rest : Text) :
    marksFrom quoted (c :: rest) = .text c :: marksFrom quoted rest := by
  cases quoted <;> simp_all [marksFrom, Glyph.ofPattern_plain other, patternMarks]

/-- **What the pass has yet to give is the held literal in front of the rest of the
pattern.**  The induction is on the pass; a run that is dropped leaves the held text alone,
on the left as on the right. -/
theorem scan_eq_followedBy (mode : PreferenceRuns) (quoted : Bool) (held pattern : Text) :
    scan mode quoted held pattern =
      followedBy (ofHeld held) (segmentsOfMarks mode (marksFrom quoted pattern)) := by
  fun_induction scan mode quoted held pattern with
  | case1 quoted held =>
      have none : marksFrom quoted [] = [] := by cases quoted <;> rfl
      rw [none]
      exact (followedBy_nil _).symm
  | case2 quoted held rest ih => rw [ih, ofHeld_followedBy_text, marksFrom_pair]
  | case3 quoted held rest single ih =>
      rw [ih, marksFrom_quote quoted (Glyph.head?_ne_quote single)]
  | case4 quoted held c rest _ _ field length later kept ih =>
      obtain ⟨rfl, letter⟩ : quoted = false ∧ isFieldLetter c := by simpa using field
      obtain ⟨run, ends⟩ := marksFrom_run letter rest
      rw [run, segmentsOfMarks_run mode (Nat.le_add_left 1 _) ends, if_pos kept,
        ofHeld_followedBy_field, ih]
      rfl
  | case5 quoted held c rest _ _ field later dropped ih =>
      obtain ⟨rfl, letter⟩ : quoted = false ∧ isFieldLetter c := by simpa using field
      obtain ⟨run, ends⟩ := marksFrom_run letter rest
      rw [run, segmentsOfMarks_run mode (Nat.le_add_left 1 _) ends, if_neg dropped, ih]
  | case6 quoted held c rest _ other plain ih =>
      rw [ih, ofHeld_followedBy_text, marksFrom_text other plain]

/-- **Reading in stages is the pass from the start of the pattern.** -/
theorem tokenize_eq_scan (mode : PreferenceRuns) (pattern : Text) :
    tokenize mode pattern = scan mode false [] pattern :=
  (scan_eq_followedBy mode false [] pattern).symm

/-! ## Leaving out runs that were read -/

namespace Segment

/-- A run that asks for the hour cycle of a locale. -/
def IsPreference : Segment → Prop
  | literal _ => False
  | field letter _ => letter = 'j' ∨ letter = 'J' ∨ letter = 'C'

instance : DecidablePred IsPreference
  | literal _ => isFalse id
  | field letter _ => inferInstanceAs (Decidable (letter = 'j' ∨ letter = 'J' ∨ letter = 'C'))

/-- All literal text of a row of segments. -/
def literalText (segments : List Segment) : Text :=
  segments.flatMap fun
    | literal text => text
    | field _ _ => []

/-- Joining literals keeps their text. -/
theorem literalText_joinLiterals (segments : List Segment) :
    literalText (joinLiterals segments) = literalText segments := by
  fun_induction joinLiterals segments with
  | case1 => rfl
  | case2 letter length rest ih => exact ih
  | case3 text rest next others joined ih =>
      have later : literalText rest = next ++ literalText others := by rw [← ih, joined]; rfl
      show (text ++ next) ++ literalText others = text ++ literalText rest
      rw [later, List.append_assoc]
  | case4 text rest _ ih => exact congrArg (text ++ ·) ih

/-- Leaving out runs keeps the literal text. -/
theorem literalText_filter (segments : List Segment) :
    literalText (segments.filter (¬ ·.IsPreference)) = literalText segments := by
  induction segments with
  | nil => rfl
  | cons segment rest ih =>
      cases segment with
      | literal text => exact congrArg (text ++ ·) ih
      | field letter length =>
          rw [List.filter_cons]
          split <;> exact ih

/-- Leaving out the hour-preference runs leaves out these runs. -/
theorem runs_filter (segments : List Segment) :
    runs (segments.filter (¬ ·.IsPreference)) =
      (runs segments).filter fun run => run.1 ∉ ['j', 'J', 'C'] := by
  rw [runs, runs, List.filterMap_filter, List.filter_filterMap]
  refine List.filterMap_congr fun segment _ => ?_
  cases segment with
  | literal text => rfl
  | field letter length => simp [run?, IsPreference, Option.filter]

/-- **Joining literals before segments are dropped makes no difference to what joining them
afterwards gives.** -/
theorem joinLiterals_filter_joinLiterals (mode : PreferenceRuns) (segments : List Segment) :
    joinLiterals ((joinLiterals segments).filter mode.keepsSegment) =
      joinLiterals (segments.filter mode.keepsSegment) := by
  induction segments with
  | nil => rfl
  | cons segment rest ih =>
      rw [joinLiterals_cons, joinLiterals_filter_followedBy, ih, ← joinLiterals_append,
        ← List.filter_append, List.singleton_append]

end Segment

/-- Of the segments that are read with the hour-preference runs, those runs are what reading
without them leaves out. -/
theorem PreferenceRuns.keepsSegment_dropped {segment : Segment}
    (shape : segment.Shaped PreferenceRuns.kept.Allows) :
    PreferenceRuns.dropped.keepsSegment segment = decide (¬ segment.IsPreference) := by
  cases segment with
  | literal text => rfl
  | field letter length =>
      have survives : letter ≠ 'l' := shape.1.2.1
      simp [keepsSegment, keeps, isHourPreference, IsPreference, survives, Bool.or_assoc]

/-- **Reading without the hour-preference runs is reading with them, leaving them out and
joining the literals that become neighbours.** -/
theorem tokenize_dropped_eq_joinLiterals (pattern : Text) :
    tokenize .dropped pattern =
      joinLiterals ((tokenize .kept pattern).filter (¬ ·.IsPreference)) := by
  have narrower : ∀ segment : Segment,
      (PreferenceRuns.dropped.keepsSegment segment && PreferenceRuns.kept.keepsSegment segment) =
        PreferenceRuns.dropped.keepsSegment segment := by
    intro segment
    cases segment <;> simp +contextual [PreferenceRuns.keepsSegment, PreferenceRuns.keeps]
  calc tokenize .dropped pattern
      = joinLiterals ((tokenize .kept pattern).filter PreferenceRuns.dropped.keepsSegment) := by
        rw [tokenize, tokenize, joinLiterals_filter_joinLiterals, List.filter_filter]
        simp only [narrower]
    _ = joinLiterals ((tokenize .kept pattern).filter (¬ ·.IsPreference)) := by
        refine congrArg joinLiterals (List.filter_congr fun segment member => ?_)
        exact PreferenceRuns.keepsSegment_dropped ((tokenize_normal .kept pattern).shaped _ member)

/-- **Both ways of reading see the same text and the same runs of other letters.**  Reading
without the hour-preference runs is reading with them, leaving them out and joining the
literals that become neighbours; and either way is a single pass over the pattern. -/
theorem tokenize_modes_agree (pattern : Text) :
    tokenize .dropped pattern =
        joinLiterals ((tokenize .kept pattern).filter (¬ ·.IsPreference)) ∧
      literalText (tokenize .dropped pattern) = literalText (tokenize .kept pattern) ∧
      runs (tokenize .dropped pattern) =
        (runs (tokenize .kept pattern)).filter (fun run => run.1 ∉ ['j', 'J', 'C']) ∧
      ∀ mode, tokenize mode pattern = scan mode false [] pattern := by
  have merged := tokenize_dropped_eq_joinLiterals pattern
  refine ⟨merged, ?_, ?_, fun mode => tokenize_eq_scan mode pattern⟩
  · rw [merged, literalText_joinLiterals, literalText_filter]
  · rw [merged, runs_joinLiterals, runs_filter]

/-- Two dropped runs and a quoted section between literals, and a run that stays. -/
example : tokenize .kept "a jj'j'C,dlj" =
      [.field 'a' 1, .literal " ", .field 'j' 2, .literal "j", .field 'C' 1, .literal ",",
        .field 'd' 1, .field 'j' 1] ∧
    tokenize .dropped "a jj'j'C,dlj" =
      [.field 'a' 1, .literal " j,", .field 'd' 1] := by
  decide

end PanelClock
