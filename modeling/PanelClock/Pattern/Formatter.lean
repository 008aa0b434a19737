import PanelClock.Diagnostic.Error
import PanelClock.Memo
import PanelClock.Pattern.Field
import PanelClock.Pattern.Skeleton
import PanelClock.System

/-!
# Pattern formatters

A formatter renders patterns for one locale and zone.  A pattern that starts with the
marker `#` prescribes its layout: literal text and field runs, each run rendered by its
form.  Any other pattern only says which fields should appear, and the locale lays them
out.  Renderers are compiled once and kept, also those of single fields.
-/

set_option autoImplicit false

namespace PanelClock

/-- The mark in front of a pattern that prescribes its layout. -/
def patternMarker : Char := '#'

/-- The locale and zone that patterns are rendered for. -/
structure RenderContext where
  locale : Locale
  zone : Zone
  /-- The weekday on which weeks of the year start, Monday being 0. -/
  firstWeekday : Int := 6

/-! ## Renderers -/

/-- A piece of a pattern that prescribes its layout. -/
inductive RenderPart where
  | literal (text : Text)
  | run (specifier : Text) (form : FieldForm)
  deriving DecidableEq, Repr

/-- A compiled pattern.  Patterns without a part share one renderer, and patterns of a
single run share the renderer of that run; all others have a renderer of their own. -/
inductive Renderer where
  | blank
  | single (part : RenderPart)
  /-- A pattern that is a single literal. -/
  | fixed (pattern text : Text)
  | row (pattern : Text) (parts : List RenderPart)
  /-- A pattern that the locale lays out. -/
  | layout (pattern : Text) (localePattern : LocalePattern)
  deriving DecidableEq, Repr

/-- The text of a part at an instant.  A literal does not look at the instant. -/
def RenderPart.text (system : System) (context : RenderContext) (instant : Instant) :
    RenderPart → Except Fault Text
  | literal text => .ok text
  | run _ form => do
      let time ← system.localTime context.zone instant
      return form.text context.locale.names context.zone time

/-- The text of a renderer at an instant. -/
def Renderer.text (system : System) (context : RenderContext) (instant : Instant) :
    Renderer → Except Fault Text
  | blank => .ok []
  | single part => part.text system context instant
  | fixed _ text => .ok text
  | row _ parts => (parts.mapM (RenderPart.text system context instant)).map List.flatten
  | layout _ localePattern => do
      let time ← system.localTime context.zone instant
      context.locale.names.patternText context.zone time localePattern

namespace RenderContext

/-! ## Compiling -/

/-- The form of a field run. -/
def fieldForm? (context : RenderContext) (letter : Char) (length : Nat) : Option FieldForm :=
  FieldForm.ofRun? context.firstWeekday context.zone.key?.isSome letter length

/-- The renderer of a run that is written as a specifier. -/
def runRenderer? (context : RenderContext) (specifier : Text) : Option Renderer :=
  match specifier with
  | [] => none
  | letter :: _ =>
      (context.fieldForm? letter specifier.length).map fun form => .single (.run specifier form)

/-- The parts of a row of segments; a run that is not rendered has none. -/
def compileParts (context : RenderContext) :
    List Segment → MemoTable Renderer → List RenderPart × MemoTable Renderer
  | [], fields => ([], fields)
  | .literal text :: rest, fields =>
      let (parts, fields) := compileParts context rest fields
      (.literal text :: parts, fields)
  | .field letter length :: rest, fields =>
      let (result, fields) :=
        fields.request (Segment.specifier letter length) fun specifier =>
          (.ok (context.runRenderer? specifier) : Except Fault (Option Renderer))
      let (parts, fields) := compileParts context rest fields
      match result with
      | .ok (some (.single part)) => (part :: parts, fields)
      | _ => (parts, fields)

/-- The renderer of parts. -/
def rendererOfParts (pattern : Text) : List RenderPart → Renderer
  | [] => .blank
  | [.literal text] => .fixed pattern text
  | [.run specifier form] => .single (.run specifier form)
  | parts => .row pattern parts

/-- The renderer of a pattern, none when the locale has no pattern with its fields. -/
def compile (context : RenderContext) (pattern : Text) (fields : MemoTable Renderer) :
    Except Fault (Option Renderer) × MemoTable Renderer :=
  match pattern with
  | '#' :: explicit =>
      let (parts, fields) := context.compileParts (tokenize .dropped explicit) fields
      (.ok (some (rendererOfParts pattern parts)), fields)
  | _ =>
      let names := context.locale.names
      let matched := names.matchPattern (buildSkeleton names pattern)
      (matched.map (·.map (.layout pattern ·)), fields)

/-- The error of a pattern without a renderer. -/
def noRendererError (context : RenderContext) (pattern : Text) : ClockError :=
  let skeleton :=
    if pattern.head? = some patternMarker then none
    else some (buildSkeleton context.locale.names pattern)
  .ofCause .formatting (.noRenderer pattern (some context.locale.code) skeleton)

/-- The error of a rendering that fails. -/
def faultError (context : RenderContext) (pattern : Text) (fault : Fault) : ClockError :=
  .ofCause .formatting
    (.formattingFailed pattern fault.message (some context.locale.code) (some context.zone.name))

end RenderContext

/-! ## The formatter -/

/-- A formatter with the renderers that it has compiled. -/
structure PatternFormatter where
  context : RenderContext
  memo : Memo Renderer := {}

namespace PatternFormatter

/-- A formatter that has compiled nothing. -/
def fresh (locale : Locale) (zone : Zone) : PatternFormatter := { context := ⟨locale, zone, 6⟩ }

/-- The renderer of a pattern, kept for later. -/
def renderer (formatter : PatternFormatter) (pattern : Text) :
    Except Fault (Option Renderer) × PatternFormatter :=
  let (result, memo) := formatter.memo.requestPattern pattern formatter.context.compile
  (result, { formatter with memo := memo })

/-- Renders a pattern at an instant. -/
def format (system : System) (formatter : PatternFormatter) (pattern : Text)
    (instant : Instant) : Except (Failure Fault) Text × PatternFormatter :=
  let context := formatter.context
  match formatter.renderer pattern with
  | (.error fault, later) => (.error (.escaped fault), later)
  | (.ok none, later) => (.error (.reported (context.noRendererError pattern)), later)
  | (.ok (some renderer), later) =>
      match renderer.text system context instant with
      | .ok text => (.ok text, later)
      | .error fault => (.error (.reported (context.faultError pattern fault)), later)

/-- The numbers of renderers, hits and misses. -/
def stats (formatter : PatternFormatter) : MemoStats := formatter.memo.stats

end PatternFormatter

end PanelClock
