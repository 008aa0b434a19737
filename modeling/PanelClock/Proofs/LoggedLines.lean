import PanelClock.Proofs.FailureLog
import PanelClock.Proofs.Reports

/-!
# Logged failures are single lines

The line that a clock logs for a failure holds texts from three writers: the pattern in
quotes, the diagnostic on one line with its control characters shown, or the diagnostic as
a JSON object.  None of the writers lets a character through that would end or disturb a
line.  For each of them this is a lemma on what it makes of one character
(`Text.undisturbed_quoteChar`, `Text.undisturbed_jsonChar`, `Text.undisturbed_showControl`),
and the texts follow piece by piece.

In a report on one line the message is cut before its control characters are shown.  So
each character that is kept is shown whole (`Shown`), and no escape sequence is cut in two
(`Clock.logged_failure_is_one_line`).
-/

set_option autoImplicit false

namespace PanelClock

namespace Text

/-! ## Texts in pieces -/

theorem Undisturbed.joinWith {separator : Text} {texts : List Text}
    (between : Undisturbed separator) (each : ∀ text ∈ texts, Undisturbed text) :
    Undisturbed (joinWith separator texts) := by
  rw [Text.joinWith]
  induction texts with
  | nil => exact List.forall_mem_nil _
  | cons text rest ih =>
      obtain ⟨here, later⟩ := List.forall_mem_cons.mp each
      cases rest with
      | nil => rwa [List.intercalate_singleton]
      | cons next others =>
          rw [List.intercalate_cons_cons]
          exact .append (here.append between) (ih later)

/-! ## Numerals -/

theorem not_disturbs_digitChar : ∀ digit < 16, ¬ disturbs (Nat.digitChar digit) := by decide

/-- The digits of a number disturb no line, in any base up to sixteen. -/
theorem undisturbed_toDigits {base : Nat} (large : 1 < base) (small : base ≤ 16) (n : Nat) :
    Undisturbed (Nat.toDigits base n) := by
  induction n using Nat.strongRecOn with
  | ind n ih =>
      rcases Nat.lt_or_ge n base with short | long
      · rw [Nat.toDigits_of_lt_base short]
        exact .cons (not_disturbs_digitChar n (by omega)) (List.forall_mem_nil _)
      · rw [Nat.toDigits_of_base_le large long]
        have smaller : n / base < n := Nat.div_lt_self (by omega) large
        have last : n % base < 16 := Nat.lt_of_lt_of_le (Nat.mod_lt _ (by omega)) small
        exact .append (ih _ smaller)
          (.cons (not_disturbs_digitChar _ last) (List.forall_mem_nil _))

theorem undisturbed_hexadecimal (width n : Nat) : Undisturbed (hexadecimal width n) := by
  refine .append ?_ (undisturbed_toDigits (by decide) (by decide) n)
  intro c member
  rw [List.eq_of_mem_replicate member]
  decide

/-! ## Quoted texts -/

/-- A printable character disturbs no line. -/
theorem not_disturbs_of_isPrintable {c : Char} (printable : isPrintable c) : ¬ disturbs c := by
  simp only [disturbs, List.mem_cons, List.not_mem_nil, or_false, decide_eq_true_eq]
  rintro (rfl | rfl | rfl | rfl) <;> exact absurd printable (by decide +kernel)

theorem undisturbed_quoteChar {quote : Char} (harmless : ¬ disturbs quote) (c : Char) :
    Undisturbed (quoteChar quote c) := by
  unfold quoteChar
  split
  · next marked =>
      have same : c = quote ∨ c = '\\' := by simpa using marked
      refine .cons (by decide) (.cons ?_ (List.forall_mem_nil _))
      rcases same with rfl | rfl
      · exact harmless
      · decide
  · repeat' split
    · decide
    · decide
    · decide
    · next printable => exact .cons (not_disturbs_of_isPrintable printable) (List.forall_mem_nil _)
    · exact .append (by decide) (undisturbed_hexadecimal _ _)
    · exact .append (by decide) (undisturbed_hexadecimal _ _)
    · exact .append (by decide) (undisturbed_hexadecimal _ _)

/-- **A quoted text disturbs no line.** -/
theorem undisturbed_quoted (text : Text) : Undisturbed text.quoted := by
  have quote : ¬ disturbs (quoteFor text) := by
    unfold quoteFor
    split <;> decide
  refine .cons quote (.append (.flatMap fun c _ => undisturbed_quoteChar quote c) ?_)
  exact .cons quote (List.forall_mem_nil _)

/-! ## JSON strings -/

theorem undisturbed_jsonChar (c : Char) : Undisturbed (jsonChar c) := by
  unfold jsonChar
  repeat' split
  iterate 7 decide
  · exact .append (by decide) (undisturbed_hexadecimal _ _)
  · next large =>
      refine .cons ?_ (List.forall_mem_nil _)
      simp only [disturbs, List.mem_cons, List.not_mem_nil, or_false, decide_eq_true_eq]
      rintro (rfl | rfl | rfl | rfl) <;> exact large (by decide)

/-- **A JSON string disturbs no line.** -/
theorem undisturbed_jsonString (text : Text) : Undisturbed text.jsonString := by
  have quote : ¬ disturbs '"' := by decide
  refine .cons quote (.append (.flatMap fun c _ => undisturbed_jsonChar c) ?_)
  exact .cons quote (List.forall_mem_nil _)

end Text

/-! ## Reports on one line -/

/-- How a report shows a character: by an escape sequence where it would end or disturb the
line, and as it is elsewhere. -/
inductive Shown : Char → Text → Prop where
  | newline : Shown '\n' "\\n"
  | carriageReturn : Shown '\r' "\\r"
  | tab : Shown '\t' "\\t"
  | escape : Shown '\x1b' "\\x1b"
  | plain {c : Char} (harmless : ¬ disturbs c) : Shown c [c]

theorem shown_showControl (c : Char) : Shown c (showControl c) := by
  by_cases harmless : disturbs c
  · simp only [disturbs, List.mem_cons, List.not_mem_nil, or_false, decide_eq_true_eq] at harmless
    rcases harmless with rfl | rfl | rfl | rfl
    · exact .newline
    · exact .carriageReturn
    · exact .tab
    · exact .escape
  · rw [Text.showControl_eq_self harmless]
    exact .plain harmless

/-- A text with its control characters shown is in pieces, one for each character. -/
theorem Text.exists_shown (text : Text) :
    ∃ pieces, List.Forall₂ Shown text pieces ∧ text.shownControls = pieces.flatten := by
  refine ⟨text.map showControl, ?_, List.flatMap_def⟩
  rw [List.forall₂_map_right_iff, List.forall₂_same]
  intro c _
  exact shown_showControl c

/-- Dots for what comes after the first hundred characters of a text, where there is more. -/
def Text.omission (text : Text) : Text := if 100 < text.length then "..." else []

theorem Text.undisturbed_omission (text : Text) : Undisturbed text.omission := by
  unfold omission
  split <;> decide

namespace Reporter

/-- A text is cut after the first hundred characters, and then only when it is longer. -/
theorem cut_eq {reporter : Reporter} (cuts : reporter.cuts = true)
    (place : reporter.maxLength = 100) (text : Text) :
    reporter.cut text = text.take 100 ++ text.omission := by
  unfold cut Text.upTo Text.omission
  rw [cuts, place, Bool.true_and]
  by_cases long : 100 < text.length
  · have longer : (100 : Int) < text.length := by omega
    simp [long, longer]
  · have shorter : ¬ (100 : Int) < text.length := by omega
    simp [long, shorter, List.take_of_length_le (Nat.le_of_not_lt long)]

/-- **A report on one line is the name of the code and the first hundred characters of the
message, each shown whole**, with dots when there are more. -/
theorem report_simple {reporter : Reporter} (simple : reporter.layout = .simple)
    (cuts : reporter.cuts = true) (place : reporter.maxLength = 100) (diagnostic : Diagnostic) :
    ∃ pieces, List.Forall₂ Shown (diagnostic.message.take 100) pieces ∧
      reporter.report diagnostic =
        diagnostic.code.name ++ ": " ++ pieces.flatten ++ diagnostic.message.omission := by
  obtain ⟨pieces, shown, same⟩ := Text.exists_shown (diagnostic.message.take 100)
  have cleaned : reporter.clean diagnostic.message =
      pieces.flatten ++ diagnostic.message.omission := by
    rw [clean, cut_eq cuts place, List.flatMap_append, ← same]
    exact congrArg _ (Text.shownControls_eq_self diagnostic.message.undisturbed_omission)
  refine ⟨pieces, shown, ?_⟩
  rw [report, simple, List.append_assoc _ pieces.flatten, ← cleaned]

/-- The values of a JSON object disturb no line. -/
theorem undisturbed_jsonEntries (reporter : Reporter) (diagnostic : Diagnostic) :
    ∀ entry ∈ reporter.jsonEntries diagnostic, entry.2.Undisturbed := by
  have present (key : Text) (content : Option Text) :
      ∀ entry ∈ content.toList.map fun text => (key, text.jsonString), entry.2.Undisturbed := by
    rw [List.forall_mem_map]
    intro text _
    exact text.undisturbed_jsonString
  have number : (numeral diagnostic.code.value).Undisturbed :=
    Text.undisturbed_toDigits (by decide) (by decide) _
  unfold jsonEntries
  simp only [List.forall_mem_append, List.forall_mem_cons]
  refine ⟨⟨⟨⟨⟨⟨?_, present _ _⟩, present _ _⟩, present _ _⟩, present _ _⟩, present _ _⟩,
    present _ _⟩
  exact ⟨Text.undisturbed_jsonString _, number, Text.undisturbed_jsonString _,
    Text.undisturbed_jsonString _, List.forall_mem_nil _⟩

/-- **A report on one line or as JSON disturbs no line**, whatever the diagnostic holds. -/
theorem undisturbed_report {reporter : Reporter} (oneLine : reporter.layout ≠ .full)
    (diagnostic : Diagnostic) : (reporter.report diagnostic).Undisturbed := by
  unfold report
  cases layout : reporter.layout with
  | full => exact absurd layout oneLine
  | simple =>
      exact .append (.append diagnostic.code.undisturbed_name (by decide))
        (Text.undisturbed_shownControls _)
  | json =>
      refine .append (.append (by decide) (.joinWith (by decide) ?_)) (by decide)
      rw [List.forall_mem_map]
      intro entry member
      exact .append (.append entry.1.undisturbed_jsonString (by decide))
        (reporter.undisturbed_jsonEntries diagnostic entry member)

end Reporter

/-! ## Lines of the log -/

namespace Clock

variable {φ : Type}

/-- The line of a failure quotes the pattern, so only its message could disturb it. -/
theorem undisturbed_failureLine (pattern : Text) {message : Text}
    (undisturbed : message.Undisturbed) : (failureLine pattern message).Undisturbed :=
  .append (.append (.append (by decide) pattern.undisturbed_quoted) (by decide)) undisturbed

/-- **A logged failure is one line.**  A tick in which rendering fails with a diagnostic logs
one line, unless the clock has logged the message before.  Where reports are on one line or as
JSON, neither a newline nor another control character disturbs that line, whatever the pattern
and the diagnostic hold.  Where they are on one line, the report is the name of the code and
the first hundred characters of the message, each shown whole, with dots exactly when the
message is longer. -/
theorem logged_failure_is_one_line (clock : Clock φ) (fallback : Text) (later : φ)
    (kind : ErrorKind) (diagnostic : Diagnostic) (oneLine : clock.layout ≠ .full) :
    let error : ClockError := ⟨kind, .diagnostic diagnostic⟩
    let report := clock.failureMessage error
    let line := failureLine clock.pattern report
    ((ClockStep.tick fallback (.error error) later).take clock).1.log =
        (if report ∈ clock.reported then [] else [line]) ∧
      line = "WARNING: Formatting " ++ clock.pattern.quoted ++ " failed: " ++ report ∧
      line.Undisturbed ∧ report.Undisturbed ∧
      (clock.layout = .simple →
        ∃ pieces, List.Forall₂ Shown (diagnostic.message.take 100) pieces ∧
          report =
            diagnostic.code.name ++ ": " ++ pieces.flatten ++ diagnostic.message.omission) := by
  intro error report line
  have undisturbed : report.Undisturbed := clock.reporter.undisturbed_report oneLine diagnostic
  refine ⟨?_, rfl, undisturbed_failureLine clock.pattern undisturbed, undisturbed, ?_⟩
  · obtain ⟨logged, -⟩ := (ClockStep.tick fallback (.error error) later).take_log clock
    rw [logged, ClockStep.unseen?, ClockStep.failure?]
    by_cases known : report ∈ clock.reported <;> simp [known, report, line, Option.filter]
  · intro simple
    exact Reporter.report_simple simple rfl rfl diagnostic

/-- A newline that is the last character kept is shown whole in front of the dots, and one in
the pattern is shown in its quotes. -/
theorem logged_failure_with_cut_newline :
    let letters : Text := List.replicate 99 'a'
    let diagnostic : Diagnostic := { code := .formattingFailed, message := letters ++ "\nb" }
    let clock : Clock Unit := { formatter := (), pattern := "H\nm" }
    let line : Text := "WARNING: Formatting 'H\\nm' failed: FORMATTING_FAILED: " ++ letters ++
      "\\n..."
    clock.layout ≠ .full ∧
      ((ClockStep.tick "" (.error ⟨.formatting, .diagnostic diagnostic⟩) ()).take clock).1.log =
        [line] ∧
      line.Undisturbed := by
  intro letters diagnostic clock line
  have oneLine : clock.layout ≠ .full := by decide
  obtain ⟨logged, -, undisturbed, -⟩ :=
    logged_failure_is_one_line clock "" () .formatting diagnostic oneLine
  have same : line = failureLine clock.pattern
      (clock.failureMessage ⟨.formatting, .diagnostic diagnostic⟩) := by decide +kernel
  rw [same]
  exact ⟨oneLine, logged, undisturbed⟩

end Clock

end PanelClock
