import PanelClock.Diagnostic.Basic
import PanelClock.Number.Numeral
import PanelClock.Text.JsonString

/-!
# Reports of diagnostics

A diagnostic is reported as a headline with one line per piece of context, as a single
line, or as a JSON object.  Reports may cut long contents.
-/

set_option autoImplicit false

namespace PanelClock

/-- The layouts of a report. -/
inductive ReportLayout where
  /-- A headline and one line per piece of context. -/
  | full
  /-- Code and message on one line. -/
  | simple
  | json
  deriving DecidableEq, Repr

/-- How diagnostics are reported. -/
structure Reporter where
  layout : ReportLayout := .full
  /-- Long contents are cut. -/
  cuts : Bool := false
  /-- The length from which contents are cut; a negative one counts from their end. -/
  maxLength : Int := 100
  deriving DecidableEq, Repr

/-- The characters up to a place; a negative place counts from the end. -/
def Text.upTo (place : Int) (text : Text) : Text :=
  if place < 0 then text.take (text.length - place.natAbs) else text.take place.toNat

/-- A control character as it is shown in a report. -/
def showControl (c : Char) : Text :=
  if c = '\n' then "\\n"
  else if c = '\r' then "\\r"
  else if c = '\t' then "\\t"
  else if c = '\x1b' then "\\x1b"
  else [c]

namespace Reporter

/-- Cuts contents that are too long. -/
def cut (reporter : Reporter) (text : Text) : Text :=
  if reporter.cuts && reporter.maxLength < text.length then
    text.upTo reporter.maxLength ++ "..."
  else text

/-- Contents as they stand on a line: cut, and without control characters that would end
or disturb the line. -/
def clean (reporter : Reporter) (text : Text) : Text := (reporter.cut text).flatMap showControl

/-- The line of a piece of context, none when it is absent or empty. -/
def contextLine (label : Text) (content : Option Text) : List Text :=
  match content with
  | none => []
  | some text => if text.isEmpty then [] else ["  = " ++ label ++ text]

/-- The lines of a full report. -/
def fullLines (reporter : Reporter) (diagnostic : Diagnostic) : List Text :=
  let severity : Text :=
    if diagnostic.severity = ("warning" : Text) then diagnostic.severity else "error"
  let headline :=
    severity ++ "[" ++ diagnostic.code.name ++ "]: " ++ reporter.clean diagnostic.message
  let patternLine := diagnostic.pattern.toList.map fun pattern =>
    "  = pattern: " ++ reporter.clean pattern
  headline :: contextLine "formatter: " diagnostic.formatterKey ++ patternLine
    ++ contextLine "locale: " diagnostic.locale ++ contextLine "timezone: " diagnostic.timeZone
    ++ contextLine "help: " ((diagnostic.hint.filter (!·.isEmpty)).map reporter.clean)
    ++ contextLine "note: see " diagnostic.helpUrl

/-- The entries of the JSON object of a diagnostic, with the values as JSON. -/
def jsonEntries (reporter : Reporter) (diagnostic : Diagnostic) : List (Text × Text) :=
  let present (key : Text) (content : Option Text) : List (Text × Text) :=
    content.toList.map fun text => (key, text.jsonString)
  let always : List (Text × Text) :=
    [("code", diagnostic.code.name.jsonString),
      ("code_value", numeral diagnostic.code.value),
      ("message", (reporter.cut diagnostic.message).jsonString),
      ("severity", diagnostic.severity.jsonString)]
  always ++ present "pattern" diagnostic.pattern ++ present "locale_code" diagnostic.locale
    ++ present "timezone" diagnostic.timeZone ++ present "formatter_key" diagnostic.formatterKey
    ++ present "help_url" diagnostic.helpUrl
    ++ present "hint" ((diagnostic.hint.filter (!·.isEmpty)).map reporter.cut)

/-- The report of a diagnostic. -/
def report (reporter : Reporter) (diagnostic : Diagnostic) : Text :=
  match reporter.layout with
  | .full => Text.joinWith "\n" (reporter.fullLines diagnostic)
  | .simple => diagnostic.code.name ++ ": " ++ reporter.clean diagnostic.message
  | .json =>
      "\x7b" ++ Text.joinWith ", " ((reporter.jsonEntries diagnostic).map fun entry =>
        entry.1.jsonString ++ ": " ++ entry.2) ++ "\x7d"

/-- The reports of several diagnostics with blank lines between them. -/
def reportAll (reporter : Reporter) (diagnostics : List Diagnostic) : Text :=
  Text.joinWith "\n\n" (diagnostics.map reporter.report)

end Reporter

/-- The full report of a diagnostic without cuts. -/
def Diagnostic.fullReport (diagnostic : Diagnostic) : Text := Reporter.report {} diagnostic

end PanelClock
