import PanelClock.Diagnostic.Cause
import PanelClock.Diagnostic.Report

/-!
# Errors

An error of the clock has a kind and carries a diagnostic or a plain message.  The kinds
form a small tree: a configuration error is a formatting error, and all are general.
-/

set_option autoImplicit false

namespace PanelClock

/-- The kinds of errors. -/
inductive ErrorKind where
  | general
  | formatting
  | configuration
  | formatterNotFound
  | discovery
  deriving DecidableEq, Repr

namespace ErrorKind

/-- The kinds of which an error of a kind is one, the most general first. -/
def ancestors : ErrorKind → List ErrorKind
  | general => [general]
  | formatting => [general, formatting]
  | configuration => [general, formatting, configuration]
  | formatterNotFound => [general, formatterNotFound]
  | discovery => [general, discovery]

end ErrorKind

/-- What an error carries. -/
inductive ErrorContent where
  | diagnostic (diagnostic : Diagnostic)
  | message (text : Text)
  deriving DecidableEq, Repr

/-- An error of the clock. -/
structure ClockError where
  kind : ErrorKind
  content : ErrorContent
  deriving DecidableEq, Repr

namespace ClockError

/-- The error of a kind with the diagnostic of a cause. -/
def ofCause (kind : ErrorKind) (cause : Cause) : ClockError := ⟨kind, .diagnostic cause.diagnostic⟩

/-- The diagnostic that an error carries. -/
def diagnostic? (error : ClockError) : Option Diagnostic :=
  match error.content with
  | .diagnostic diagnostic => some diagnostic
  | .message _ => none

/-- The message of an error: the full report of its diagnostic, or its plain message. -/
def message (error : ClockError) : Text :=
  match error.content with
  | .diagnostic diagnostic => diagnostic.fullReport
  | .message text => text

end ClockError

/-- Why a rendering gives no text or a setting selects nothing: an error of the clock, or something
else that goes past everyone who expects errors of the clock. -/
inductive Failure (ε : Type) where
  | reported (error : ClockError)
  | escaped (other : ε)
  deriving DecidableEq, Repr

/-- The failure of a setting that cannot be used. -/
def Failure.ofConfiguration {ε : Type} (cause : Cause) : Failure ε :=
  .reported (.ofCause .configuration cause)

/-- A failure with what is not an error of the clock told in other terms. -/
def Failure.map {ε δ : Type} (tell : ε → δ) : Failure ε → Failure δ
  | reported error => .reported error
  | escaped other => .escaped (tell other)

end PanelClock
