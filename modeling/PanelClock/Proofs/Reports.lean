import Mathlib.Data.List.Forall2
import PanelClock.Diagnostic.Report
import PanelClock.Diagnostic.Cause

/-!
# Which reports keep to their lines

A full report is a headline and one line for each piece of context that a diagnostic
carries.  Lines that are joined with newlines are read back by splitting at newlines
exactly when none of them has a newline of its own (`Text.pieces_joinWith`,
`Text.newline_notMem_of_length`).

Message, pattern and hint are written with their control characters shown, and so stay on
their line whatever they are.  Formatter key, locale, time zone and address are written as
they are.  So a report keeps to its lines exactly when these four have no control character
(`Diagnostic.keepsLines_iff`).
-/

set_option autoImplicit false

namespace PanelClock

/-! ## Lines -/

namespace Text

theorem pieces_eq_splitOn (separator : Char) (text : Text) :
    pieces separator text = text.splitOn separator := by
  induction text with
  | nil => rfl
  | cons c rest ih =>
      rw [pieces, List.splitOn, List.splitOnP_cons_eq_if_modifyHead, ← List.splitOn, ← ih]
      by_cases here : c = separator
      · simp [here]
      · simp only [here, beq_eq_false_iff_ne.mpr here, if_false, Bool.false_eq_true]
        cases split : pieces separator rest with
        | nil =>
            rw [ih] at split
            exact absurd split (List.splitOnP_ne_nil _ _)
        | cons piece others => rfl

/-- Lines without newlines are read back. -/
theorem pieces_joinWith {lines : List Text} (nonempty : lines ≠ [])
    (single : ∀ line ∈ lines, '\n' ∉ line) : pieces '\n' (joinWith "\n" lines) = lines := by
  rw [pieces_eq_splitOn]
  exact List.splitOn_intercalate '\n' single nonempty

theorem length_pieces (separator : Char) (text : Text) :
    (pieces separator text).length = text.count separator + 1 := by
  induction text with
  | nil => rfl
  | cons c rest ih =>
      rw [pieces]
      by_cases here : c = separator
      · simp [here, ih]
      · rw [if_neg here, List.count_cons_of_ne here, ← ih]
        cases split : pieces separator rest with
        | nil => simp [split] at ih
        | cons piece others => rfl

/-- Joining puts a newline between any two lines. -/
theorem count_joinWith {lines : List Text} (nonempty : lines ≠ []) :
    (joinWith "\n" lines).count '\n' + 1 = lines.length + lines.flatten.count '\n' := by
  induction lines with
  | nil => exact absurd rfl nonempty
  | cons line rest ih =>
      cases rest with
      | nil =>
          simp [joinWith]
          omega
      | cons next others =>
          have later := ih (List.cons_ne_nil next others)
          have newline : List.count '\n' ("\n" : Text) = 1 := rfl
          rw [joinWith] at later ⊢
          rw [List.intercalate_cons_cons, List.count_append, List.count_append,
            List.flatten_cons, List.count_append, List.length_cons]
          omega

/-- Joined lines that fall into as many pieces as there are lines have no newline. -/
theorem newline_notMem_of_length {lines : List Text} (nonempty : lines ≠ [])
    (same : (pieces '\n' (joinWith "\n" lines)).length = lines.length) :
    ∀ line ∈ lines, '\n' ∉ line := by
  have count := count_joinWith nonempty
  rw [length_pieces] at same
  have absent : lines.flatten.count '\n' = 0 := by omega
  intro line member newline
  exact List.count_eq_zero.mp absent (List.mem_flatten_of_mem member newline)

end Text

/-! ## Control characters -/

/-- The characters that would end or disturb a line. -/
def disturbs (c : Char) : Bool := c ∈ ['\n', '\r', '\t', '\x1b']

/-- No character of a text would end or disturb a line. -/
def Text.Undisturbed (text : Text) : Prop := ∀ c ∈ text, ¬ disturbs c

instance : DecidablePred Text.Undisturbed := fun text =>
  List.decidableBAll (fun c => ¬ disturbs c) text

/-- A text with its control characters shown. -/
def Text.shownControls (text : Text) : Text := text.flatMap showControl

namespace Text

theorem Undisturbed.append {first second : Text} (left : Undisturbed first)
    (right : Undisturbed second) : Undisturbed (first ++ second) :=
  List.forall_mem_append.mpr ⟨left, right⟩

theorem Undisturbed.cons {c : Char} {text : Text} (here : ¬ disturbs c)
    (later : Undisturbed text) : Undisturbed (c :: text) :=
  List.forall_mem_cons.mpr ⟨here, later⟩

theorem Undisturbed.flatMap {write : Char → Text} {text : Text}
    (each : ∀ c ∈ text, Undisturbed (write c)) : Undisturbed (text.flatMap write) :=
  List.forall_mem_flatMap.mpr each

theorem showControl_eq_self {c : Char} (harmless : ¬ disturbs c) : showControl c = [c] := by
  simp only [disturbs, List.mem_cons, List.not_mem_nil, or_false, decide_eq_true_eq, not_or]
    at harmless
  simp [showControl, harmless]

theorem undisturbed_showControl (c : Char) : Undisturbed (showControl c) := by
  by_cases harmless : disturbs c
  · simp only [disturbs, List.mem_cons, List.not_mem_nil, or_false, decide_eq_true_eq] at harmless
    rcases harmless with rfl | rfl | rfl | rfl <;> decide
  · rw [showControl_eq_self harmless]
    simpa [Undisturbed] using harmless

/-- **A text with its control characters shown disturbs no line.** -/
theorem undisturbed_shownControls (text : Text) : Undisturbed text.shownControls :=
  .flatMap fun c _ => undisturbed_showControl c

theorem shownControls_eq_self {text : Text} (undisturbed : Undisturbed text) :
    text.shownControls = text := by
  induction text with
  | nil => rfl
  | cons c rest ih =>
      obtain ⟨here, later⟩ := List.forall_mem_cons.mp undisturbed
      have shown : shownControls (c :: rest) = showControl c ++ shownControls rest := rfl
      rw [shown, showControl_eq_self here, ih later]
      rfl

theorem shownControls_ne_nil {text : Text} (nonempty : text ≠ []) : text.shownControls ≠ [] := by
  obtain ⟨c, rest, rfl⟩ := List.exists_cons_of_ne_nil nonempty
  have some_here : showControl c ≠ [] := by
    unfold showControl
    repeat' split
    all_goals simp
  intro empty
  exact some_here (List.append_eq_nil_iff.mp empty).1

end Text

/-! ## Context -/

/-- The pieces of context, each with a line of its own in a report. -/
inductive ContextField where
  | formatter
  | pattern
  | locale
  | timeZone
  | help
  | note
  deriving DecidableEq, Repr

namespace ContextField

/-- All pieces of context, in the order of their lines. -/
def all : List ContextField := [formatter, pattern, locale, timeZone, help, note]

/-- What the line of a piece of context starts with. -/
def label (field : ContextField) : Text :=
  "  = " ++ match field with
    | formatter => "formatter: "
    | pattern => "pattern: "
    | locale => "locale: "
    | timeZone => "timezone: "
    | help => "help: "
    | note => "note: see "

/-- The content of a piece of context, where it is present.  A pattern may be empty. -/
def content? (diagnostic : Diagnostic) : ContextField → Option Text
  | formatter => diagnostic.formatterKey.filter (!·.isEmpty)
  | pattern => diagnostic.pattern
  | locale => diagnostic.locale.filter (!·.isEmpty)
  | timeZone => diagnostic.timeZone.filter (!·.isEmpty)
  | help => diagnostic.hint.filter (!·.isEmpty)
  | note => diagnostic.helpUrl.filter (!·.isEmpty)

/-- The content of a piece of context as its line shows it. -/
def write : ContextField → Text → Text
  | pattern, content => content.shownControls
  | help, content => content.shownControls
  | _, content => content

/-- The line of a piece of context, with a way to write contents; none when it is absent. -/
def lines (write : ContextField → Text → Text) (diagnostic : Diagnostic)
    (field : ContextField) : List Text :=
  (field.content? diagnostic).toList.map fun content => field.label ++ write field content

end ContextField

namespace Diagnostic

/-- The pieces of context that a diagnostic carries, in the order of their lines. -/
def context (diagnostic : Diagnostic) : List ContextField :=
  ContextField.all.filter fun field => (field.content? diagnostic).isSome

/-- What the headline of a report starts with. -/
def headlineLabel (diagnostic : Diagnostic) : Text :=
  (if diagnostic.severity = ("warning" : Text) then diagnostic.severity else "error") ++ "[" ++
    diagnostic.code.name ++ "]: "

/-- The headline and the lines of context, with a way to write contents. -/
def linesWith (write : ContextField → Text → Text) (diagnostic : Diagnostic) : List Text :=
  (diagnostic.headlineLabel ++ diagnostic.message.shownControls) ::
    ContextField.all.flatMap (ContextField.lines write diagnostic)

/-- The lines that a report is made of. -/
def reportLines (diagnostic : Diagnostic) : List Text :=
  diagnostic.linesWith ContextField.write

/-- The lines of a report in which the control characters of every content are shown. -/
def shownLines (diagnostic : Diagnostic) : List Text :=
  diagnostic.linesWith fun _ content => content.shownControls

end Diagnostic

/-! ## Reports -/

namespace Reporter

theorem clean_eq_shownControls (text : Text) : clean {} text = text.shownControls := rfl

theorem contextLine_eq (label : Text) (content : Option Text) :
    contextLine label content =
      (content.filter (!·.isEmpty)).toList.map fun text => "  = " ++ label ++ text := by
  cases content with
  | none => rfl
  | some text => cases text <;> rfl

/-- Showing the control characters of a content leaves it present. -/
theorem contextLine_clean (label : Text) (content : Option Text) :
    contextLine label ((content.filter (!·.isEmpty)).map (clean {})) =
      (content.filter (!·.isEmpty)).toList.map fun text =>
        "  = " ++ label ++ text.shownControls := by
  cases content with
  | none => rfl
  | some text =>
      cases text with
      | nil => rfl
      | cons c rest =>
          have present := Text.shownControls_ne_nil (List.cons_ne_nil c rest)
          exact if_neg (mt List.isEmpty_iff.mp present)

theorem fullLines_eq (diagnostic : Diagnostic) :
    fullLines {} diagnostic = diagnostic.reportLines := by
  have formatter : contextLine "formatter: " diagnostic.formatterKey =
      ContextField.lines ContextField.write diagnostic .formatter := contextLine_eq _ _
  have pattern : (diagnostic.pattern.toList.map fun pattern =>
      ("  = pattern: " : Text) ++ Text.shownControls pattern) =
        ContextField.lines ContextField.write diagnostic .pattern := rfl
  have locale : contextLine "locale: " diagnostic.locale =
      ContextField.lines ContextField.write diagnostic .locale := contextLine_eq _ _
  have timeZone : contextLine "timezone: " diagnostic.timeZone =
      ContextField.lines ContextField.write diagnostic .timeZone := contextLine_eq _ _
  have help : contextLine "help: " ((diagnostic.hint.filter (!·.isEmpty)).map (clean {})) =
      ContextField.lines ContextField.write diagnostic .help := contextLine_clean _ _
  have note : contextLine "note: see " diagnostic.helpUrl =
      ContextField.lines ContextField.write diagnostic .note := contextLine_eq _ _
  unfold fullLines
  rw [formatter, locale, timeZone, help, note]
  simp only [pattern, clean_eq_shownControls, Diagnostic.reportLines, Diagnostic.linesWith,
    Diagnostic.headlineLabel, ContextField.all, List.flatMap_cons, List.flatMap_nil,
    List.append_nil, List.cons_append, List.append_assoc]

end Reporter

/-! ## Keeping to the lines -/

namespace ContextField

theorem undisturbed_label (field : ContextField) : field.label.Undisturbed := by
  cases field <;> decide

/-- Each piece of context that is present has one line, which starts with its label. -/
theorem forall₂_label_lines (write : ContextField → Text → Text) (diagnostic : Diagnostic)
    (fields : List ContextField) :
    List.Forall₂ (fun field line => field.label <+: line)
      (fields.filter fun field => (field.content? diagnostic).isSome)
      (fields.flatMap (lines write diagnostic)) := by
  induction fields with
  | nil => exact .nil
  | cons field rest ih =>
      rw [List.flatMap_cons, lines, List.filter_cons]
      cases field.content? diagnostic with
      | none => simpa using ih
      | some content => exact .cons (List.prefix_append _ _) ih

theorem undisturbed_lines_iff {write : ContextField → Text → Text} {diagnostic : Diagnostic}
    {field : ContextField} :
    (∀ line ∈ field.lines write diagnostic, line.Undisturbed) ↔
      ∀ content ∈ field.content? diagnostic, (write field content).Undisturbed := by
  simp only [lines, List.mem_map, Option.mem_toList, forall_exists_index, and_imp,
    forall_apply_eq_imp_iff₂]
  refine forall₂_congr fun content _ => ?_
  exact ⟨fun whole c member => whole c (List.mem_append_right _ member),
    field.undisturbed_label.append⟩

/-- A content that disturbs no line as it is written is written with its control characters
shown. -/
theorem write_eq_shownControls {field : ContextField} {content : Text}
    (undisturbed : (field.write content).Undisturbed) :
    field.write content = content.shownControls := by
  cases field with
  | pattern => rfl
  | help => rfl
  | formatter => exact (Text.shownControls_eq_self undisturbed).symm
  | locale => exact (Text.shownControls_eq_self undisturbed).symm
  | timeZone => exact (Text.shownControls_eq_self undisturbed).symm
  | note => exact (Text.shownControls_eq_self undisturbed).symm

end ContextField

theorem DiagnosticCode.undisturbed_name (code : DiagnosticCode) : code.name.Undisturbed := by
  cases code <;> decide

namespace Diagnostic

theorem undisturbed_headlineLabel (diagnostic : Diagnostic) :
    diagnostic.headlineLabel.Undisturbed := by
  unfold headlineLabel
  refine .append (.append (.append ?_ (by decide)) diagnostic.code.undisturbed_name) (by decide)
  split
  · next warning =>
      rw [warning]
      decide
  · decide

/-- The lines of a report are undisturbed exactly when its contents are, as they are written. -/
theorem undisturbed_linesWith_iff {write : ContextField → Text → Text}
    {diagnostic : Diagnostic} :
    (∀ line ∈ diagnostic.linesWith write, line.Undisturbed) ↔
      ∀ field ∈ ContextField.all, ∀ content ∈ field.content? diagnostic,
        (write field content).Undisturbed := by
  have headline : (diagnostic.headlineLabel ++ diagnostic.message.shownControls).Undisturbed :=
    .append diagnostic.undisturbed_headlineLabel (Text.undisturbed_shownControls _)
  simp only [linesWith, List.forall_mem_cons, headline, true_and, List.forall_mem_flatMap,
    ContextField.undisturbed_lines_iff]

/-- The contents that a report writes as they are disturb no line. -/
def PlainContext (diagnostic : Diagnostic) : Prop :=
  ∀ content ∈ [diagnostic.formatterKey, diagnostic.locale, diagnostic.timeZone,
    diagnostic.helpUrl], ∀ text ∈ content, Text.Undisturbed text

theorem undisturbed_reportLines_iff {diagnostic : Diagnostic} :
    (∀ line ∈ diagnostic.reportLines, line.Undisturbed) ↔ diagnostic.PlainContext := by
  have present : ∀ content : Option Text,
      (∀ text ∈ content.filter (!·.isEmpty), text.Undisturbed) ↔
        ∀ text ∈ content, text.Undisturbed := by
    intro content
    cases content with
    | none => simp
    | some text => cases text <;> simp [Text.Undisturbed]
  rw [reportLines, undisturbed_linesWith_iff]
  simp only [PlainContext, ContextField.all, List.forall_mem_cons, List.not_mem_nil,
    false_implies, implies_true, true_and, and_true, ContextField.content?, ContextField.write,
    Text.undisturbed_shownControls, present]

/-- Where nothing disturbs a line, all control characters are shown: there are none where they
would not be. -/
theorem reportLines_eq_shownLines {diagnostic : Diagnostic}
    (undisturbed : ∀ line ∈ diagnostic.reportLines, line.Undisturbed) :
    diagnostic.reportLines = diagnostic.shownLines := by
  have contents := undisturbed_linesWith_iff.mp undisturbed
  refine congrArg (List.cons _) (List.flatMap_congr fun field member => ?_)
  refine List.map_congr_left fun content present => ?_
  rw [ContextField.write_eq_shownControls
    (contents field member content (Option.mem_toList.mp present))]

/-- A report keeps to its lines: split at newlines it is one headline and one line for each
piece of context that is present, in order and with its label, and no control character
disturbs a line. -/
def KeepsLines (diagnostic : Diagnostic) : Prop :=
  ∃ headline lines, Text.pieces '\n' diagnostic.fullReport = headline :: lines ∧
    diagnostic.headlineLabel <+: headline ∧
    List.Forall₂ (fun field line => field.label <+: line) diagnostic.context lines ∧
    ∀ line ∈ headline :: lines, line.Undisturbed

theorem fullReport_eq (diagnostic : Diagnostic) :
    diagnostic.fullReport = Text.joinWith "\n" diagnostic.reportLines :=
  congrArg (Text.joinWith "\n") (Reporter.fullLines_eq diagnostic)

theorem reportLines_ne_nil (diagnostic : Diagnostic) : diagnostic.reportLines ≠ [] :=
  List.cons_ne_nil _ _

/-- A report that keeps to its lines falls into the lines that it is made of. -/
theorem KeepsLines.pieces_eq {diagnostic : Diagnostic} (keeps : diagnostic.KeepsLines) :
    Text.pieces '\n' diagnostic.fullReport = diagnostic.reportLines := by
  obtain ⟨headline, lines, split, -, each, -⟩ := keeps
  have labelled := ContextField.forall₂_label_lines ContextField.write diagnostic ContextField.all
  have same : (Text.pieces '\n' diagnostic.fullReport).length =
      diagnostic.reportLines.length := by
    rw [split, List.length_cons, ← each.length_eq, context, labelled.length_eq]
    rfl
  rw [fullReport_eq] at same ⊢
  exact Text.pieces_joinWith diagnostic.reportLines_ne_nil
    (Text.newline_notMem_of_length diagnostic.reportLines_ne_nil same)

/-- **A report keeps to its lines exactly when the contents that are written as they are have
no control character.**  Then its lines are the headline with the message and a line for
each piece of context with its content, all with their control characters shown. -/
theorem keepsLines_iff (diagnostic : Diagnostic) :
    (diagnostic.KeepsLines ↔
      ∀ content ∈ [diagnostic.formatterKey, diagnostic.locale, diagnostic.timeZone,
        diagnostic.helpUrl], ∀ text ∈ content, text.Undisturbed) ∧
    (diagnostic.KeepsLines ↔
      Text.pieces '\n' diagnostic.fullReport = diagnostic.shownLines) := by
  have plain : diagnostic.KeepsLines → diagnostic.PlainContext := by
    intro keeps
    have split := keeps.pieces_eq
    obtain ⟨headline, lines, same, -, -, undisturbed⟩ := keeps
    rw [← undisturbed_reportLines_iff, ← split, same]
    exact undisturbed
  have shown : diagnostic.PlainContext →
      Text.pieces '\n' diagnostic.fullReport = diagnostic.shownLines := by
    intro plain
    have undisturbed := undisturbed_reportLines_iff.mpr plain
    rw [fullReport_eq, ← reportLines_eq_shownLines undisturbed]
    refine Text.pieces_joinWith diagnostic.reportLines_ne_nil ?_
    intro line member newline
    exact undisturbed line member '\n' newline (by decide)
  have keeps : Text.pieces '\n' diagnostic.fullReport = diagnostic.shownLines →
      diagnostic.KeepsLines := by
    intro split
    exact ⟨_, _, split, List.prefix_append _ _,
      ContextField.forall₂_label_lines _ diagnostic ContextField.all,
      undisturbed_linesWith_iff.mpr fun _ _ content _ => content.undisturbed_shownControls⟩
  exact ⟨⟨plain, fun context => keeps (shown context)⟩, ⟨fun lines => shown (plain lines), keeps⟩⟩

/-- A zone setting forges a line of its own. -/
theorem keepsLines_forged_zone :
    ¬ (Cause.timezoneUnknown "Mars\n  = note: see nothing").diagnostic.KeepsLines := by
  rintro ⟨headline, lines, split, -, each, -⟩
  have pieces : (headline :: lines).length = 4 := by
    rw [← split]
    decide +kernel
  have context : lines.length = 2 := by
    rw [← each.length_eq]
    decide +kernel
  rw [List.length_cons, context] at pieces
  cases pieces

end Diagnostic

end PanelClock
