import PanelClock.Proofs.SharedTable
import PanelClock.Proofs.Tokenize

/-!
# Keeping renderers and sharing formatters changes no answer

Renderers are kept for whole patterns and for single runs, and formatters are
shared under their settings.  What a pattern means is said here without any of
this: `RenderContext.meaning` compiles a pattern out of its segments, and
`RenderContext.segmentText` is the text of one segment.

A table is sound when every result in it is the one that its key means
(`MemoTable.Sound`).  A request on a sound table answers with the meaning of its
key and leaves a sound table, also when nothing is found and when the compilation
fails (`MemoTable.request_sound`).  So does every request on a formatter
(`PatternFormatter.Sound.handle`), and every step of a session
(`Session.Faithful.step`), in which shared formatters are used after the table has
dropped them.  Hence every answer is that of a formatter that has compiled nothing
(`answers_eq_fresh`).
-/

set_option autoImplicit false

namespace PanelClock

/-! ## Memo tables -/

namespace MemoTable

variable {α ε : Type}

/-- Every result that a table keeps is the one that its key means. -/
def Sound (meaning : Text → Except ε (Option α)) (table : MemoTable α) : Prop :=
  ∀ key result, table.find? key = some result → meaning key = .ok result

theorem sound_empty (meaning : Text → Except ε (Option α)) : Sound meaning {} := by
  intro key result found
  simp [find?] at found

/-- Counting a request keeps a table sound. -/
theorem Sound.miss {meaning : Text → Except ε (Option α)} {table : MemoTable α}
    (sound : Sound meaning table) : Sound meaning table.miss :=
  sound

/-- Keeping a result that its key means keeps a table sound. -/
theorem Sound.store {meaning : Text → Except ε (Option α)} {table : MemoTable α}
    (sound : Sound meaning table) {key : Text} {result : Option α}
    (means : meaning key = .ok result) : Sound meaning (table.store key result) := by
  intro other value found
  simp only [MemoTable.store, find?, List.lookup_cons] at found
  split at found
  · next same =>
      cases found
      rw [eq_of_beq same, means]
  · exact sound other value found

/-- **A request on a sound table answers with the meaning of its key and leaves a sound
table.** -/
theorem request_sound {meaning : Text → Except ε (Option α)} {table : MemoTable α}
    (sound : Sound meaning table) (key : Text) (compile : Text → Except ε (Option α))
    (compiles : compile key = meaning key) :
    (table.request key compile).1 = meaning key ∧
      Sound meaning (table.request key compile).2 := by
  unfold request
  cases found : table.find? key with
  | some result => exact ⟨(sound key result found).symm, sound⟩
  | none =>
      cases compiled : compile key with
      | ok result =>
          rw [compiled] at compiles
          exact ⟨compiles, sound.miss.store compiles.symm⟩
      | error fault =>
          rw [compiled] at compiles
          exact ⟨compiles, sound⟩

end MemoTable

/-! ## What a pattern means -/

namespace RenderContext

variable (context : RenderContext)

/-- The part of a segment, none for a run that is not rendered. -/
def part? : Segment → Option RenderPart
  | .literal text => some (.literal text)
  | .field letter length =>
      (context.fieldForm? letter length).map (.run (Segment.specifier letter length))

/-- The renderer of a pattern, compiled without anything that was kept. -/
def meaning (pattern : Text) : Except Fault (Option Renderer) :=
  match pattern with
  | '#' :: explicit =>
      .ok (some (rendererOfParts pattern ((tokenize .dropped explicit).filterMap context.part?)))
  | _ =>
      (context.locale.names.matchPattern (buildSkeleton context.locale.names pattern)).map
        (·.map (.layout pattern ·))

/-- The renderer of a run, compiled without anything that was kept. -/
def fieldMeaning (specifier : Text) : Except Fault (Option Renderer) :=
  .ok (context.runRenderer? specifier)

/-- The text of a segment at an instant: a literal stands for itself, and a run that has no
form has no text. -/
def segmentText (system : System) (instant : Instant) : Segment → Except Fault Text
  | .literal text => .ok text
  | .field letter length =>
      match context.fieldForm? letter length with
      | none => .ok []
      | some form => do
          let time ← system.localTime context.zone instant
          return form.text context.locale.names context.zone time

/-- The answer to a pattern at an instant, with nothing kept. -/
def answer (system : System) (pattern : Text) (instant : Instant) :
    Except (Failure Fault) Text :=
  match context.meaning pattern with
  | .error fault => .error (.escaped fault)
  | .ok none => .error (.reported (context.noRendererError pattern))
  | .ok (some renderer) =>
      match renderer.text system context instant with
      | .ok text => .ok text
      | .error fault => .error (.reported (context.faultError pattern fault))

variable {context}

/-- A run of some length is resolved by its letter and its length. -/
theorem runRenderer?_specifier (letter : Char) {length : Nat} (positive : 1 ≤ length) :
    context.runRenderer? (Segment.specifier letter length) =
      (context.fieldForm? letter length).map
        fun form => .single (.run (Segment.specifier letter length) form) := by
  obtain ⟨before, rfl⟩ : ∃ before, length = before + 1 := ⟨length - 1, by omega⟩
  simp [Segment.specifier, List.replicate_succ, runRenderer?]

/-- **Parts that are compiled with kept runs are the parts of the segments.**  The induction
is on the segments; the table of runs that the rest is compiled with is sound again. -/
theorem compileParts_sound {segments : List Segment} {fields : MemoTable Renderer}
    (positive : ∀ letter length, .field letter length ∈ segments → 1 ≤ length)
    (sound : fields.Sound context.fieldMeaning) :
    (context.compileParts segments fields).1 = segments.filterMap context.part? ∧
      (context.compileParts segments fields).2.Sound context.fieldMeaning := by
  induction segments generalizing fields with
  | nil => exact ⟨rfl, sound⟩
  | cons segment rest ih =>
      have later := fun letter length member =>
        positive letter length (List.mem_cons_of_mem _ member)
      cases segment with
      | literal text =>
          obtain ⟨parts, table⟩ := ih later sound
          rw [compileParts]
          exact ⟨by simp [part?, parts], table⟩
      | field letter length =>
          have here := positive letter length List.mem_cons_self
          obtain ⟨answered, kept⟩ := MemoTable.request_sound sound
            (Segment.specifier letter length)
            (fun specifier => .ok (context.runRenderer? specifier)) rfl
          obtain ⟨parts, table⟩ := ih later kept
          rw [fieldMeaning, runRenderer?_specifier letter here] at answered
          rw [compileParts]
          simp only [answered]
          cases form : context.fieldForm? letter length with
          | none =>
              refine ⟨?_, table⟩
              simpa [part?, form] using parts
          | some form' =>
              refine ⟨?_, table⟩
              simpa [part?, form] using parts

/-- **Compiling with kept runs gives what the pattern means.** -/
theorem compile_sound {fields : MemoTable Renderer} (sound : fields.Sound context.fieldMeaning)
    (pattern : Text) :
    (context.compile pattern fields).1 = context.meaning pattern ∧
      (context.compile pattern fields).2.Sound context.fieldMeaning := by
  unfold compile
  split
  · next explicit =>
      have positive : ∀ letter length, .field letter length ∈ tokenize .dropped explicit →
          1 ≤ length := fun letter length member =>
        ((tokenize_normal .dropped explicit).shaped _ member).2
      obtain ⟨parts, table⟩ := compileParts_sound positive sound
      exact ⟨by simp only [parts, meaning], table⟩
  · next other =>
      refine ⟨?_, sound⟩
      rw [meaning]
      exact other

/-! ## The text of an explicit pattern -/

/-- The renderer of parts gives their texts in a row, however many there are. -/
theorem text_rendererOfParts (system : System) (pattern : Text) (parts : List RenderPart)
    (instant : Instant) :
    (rendererOfParts pattern parts).text system context instant =
      (parts.mapM (RenderPart.text system context instant)).map List.flatten := by
  unfold rendererOfParts
  split
  · rfl
  · next text =>
      simp [Renderer.text, RenderPart.text, Except.map, pure, Except.pure, bind, Except.bind]
  · next specifier form =>
      simp only [Renderer.text, List.mapM_cons, List.mapM_nil]
      cases RenderPart.text system context instant (.run specifier form) <;>
        simp [Except.map, pure, Except.pure, bind, Except.bind]
  · rfl

/-- A segment without a part has an empty text, and any other has the text of its part. -/
theorem map_flatten_mapM_part? (system : System) (instant : Instant) (segments : List Segment) :
    ((segments.filterMap context.part?).mapM (RenderPart.text system context instant)).map
        List.flatten =
      (segments.mapM (context.segmentText system instant)).map List.flatten := by
  induction segments with
  | nil => rfl
  | cons segment rest ih =>
      rw [map_flatten_mapM_cons]
      cases segment with
      | literal text =>
          have part : context.part? (.literal text) = some (.literal text) := rfl
          rw [List.filterMap_cons_some part, map_flatten_mapM_cons, ih]
          rfl
      | field letter length =>
          cases form : context.fieldForm? letter length with
          | none =>
              have noPart : context.part? (.field letter length) = none := by simp [part?, form]
              rw [List.filterMap_cons_none noPart, ih, segmentText, form]
              cases (rest.mapM (context.segmentText system instant)).map List.flatten <;> rfl
          | some form' =>
              have part : context.part? (.field letter length) =
                  some (.run (Segment.specifier letter length) form') := by simp [part?, form]
              rw [List.filterMap_cons_some part, map_flatten_mapM_cons, ih, segmentText, form]
              rfl

/-- **The answer to an explicit pattern is the row of the texts of its segments.** -/
theorem answer_explicit (system : System) (explicit : Text) (instant : Instant) (text : Text) :
    context.answer system (patternMarker :: explicit) instant = .ok text ↔
      ((tokenize .dropped explicit).mapM (context.segmentText system instant)).map
        List.flatten = .ok text := by
  have means : context.meaning (patternMarker :: explicit) =
      .ok (some (rendererOfParts (patternMarker :: explicit)
        ((tokenize .dropped explicit).filterMap context.part?))) := rfl
  rw [answer, means]
  simp only [text_rendererOfParts, map_flatten_mapM_part?]
  cases ((tokenize .dropped explicit).mapM (context.segmentText system instant)).map
    List.flatten <;> simp

end RenderContext

/-! ## One formatter -/

/-- What can be asked of a formatter. -/
inductive FormatterRequest where
  | format (pattern : Text) (instant : Instant)
  | renderer (pattern : Text)
  | stats

namespace PatternFormatter

/-- The formatter after a request. -/
def handle (system : System) (formatter : PatternFormatter) : FormatterRequest → PatternFormatter
  | .format pattern instant => (formatter.format system pattern instant).2
  | .renderer pattern => (formatter.renderer pattern).2
  | .stats => formatter

/-- Everything that a formatter keeps is what it would compile. -/
structure Sound (formatter : PatternFormatter) : Prop where
  patterns : formatter.memo.patterns.Sound formatter.context.meaning
  fields : formatter.memo.fields.Sound formatter.context.fieldMeaning

theorem sound_empty (context : RenderContext) : Sound { context := context } :=
  ⟨MemoTable.sound_empty _, MemoTable.sound_empty _⟩

/-- **The renderer of a pattern is the one that the pattern means.** -/
theorem Sound.renderer {formatter : PatternFormatter} (sound : Sound formatter)
    (pattern : Text) :
    (formatter.renderer pattern).1 = formatter.context.meaning pattern ∧
      Sound (formatter.renderer pattern).2 ∧
      (formatter.renderer pattern).2.context = formatter.context := by
  obtain ⟨means, fields⟩ := RenderContext.compile_sound sound.fields pattern
  unfold PatternFormatter.renderer Memo.requestPattern
  cases found : formatter.memo.patterns.find? pattern with
  | some result =>
      exact ⟨(sound.patterns pattern result found).symm, ⟨sound.patterns, sound.fields⟩, rfl⟩
  | none =>
      cases compiled : formatter.context.compile pattern formatter.memo.fields with
      | mk result table =>
          rw [compiled] at means fields
          cases result with
          | ok result =>
              refine ⟨means, ⟨?_, fields⟩, rfl⟩
              exact sound.patterns.miss.store means.symm
          | error fault => exact ⟨means, ⟨sound.patterns, fields⟩, rfl⟩

/-- **A formatter answers as if it had kept nothing, and stays sound.** -/
theorem Sound.format {formatter : PatternFormatter} (sound : Sound formatter) (system : System)
    (pattern : Text) (instant : Instant) :
    (formatter.format system pattern instant).1 =
        formatter.context.answer system pattern instant ∧
      (formatter.format system pattern instant).2 = (formatter.renderer pattern).2 := by
  obtain ⟨means, -, -⟩ := sound.renderer pattern
  unfold PatternFormatter.format RenderContext.answer
  cases requested : formatter.renderer pattern with
  | mk result later =>
      rw [requested] at means
      rw [← means]
      cases result with
      | error fault => exact ⟨rfl, rfl⟩
      | ok result =>
          cases result with
          | none => exact ⟨rfl, rfl⟩
          | some renderer =>
              cases text : renderer.text system formatter.context instant with
              | ok text => simp only [text, and_self]
              | error fault => simp only [text, and_self]

/-- **No request unsettles a formatter.** -/
theorem Sound.handle {formatter : PatternFormatter} (sound : Sound formatter) (system : System)
    (request : FormatterRequest) :
    Sound (formatter.handle system request) ∧
      (formatter.handle system request).context = formatter.context := by
  cases request with
  | format pattern instant =>
      rw [PatternFormatter.handle, (sound.format system pattern instant).2]
      exact (sound.renderer pattern).2
  | renderer pattern => exact (sound.renderer pattern).2
  | stats => exact ⟨sound, rfl⟩

/-- A formatter after any requests, in order. -/
def afterRequests (system : System) (formatter : PatternFormatter)
    (requests : List FormatterRequest) : PatternFormatter :=
  requests.foldl (handle system) formatter

theorem Sound.afterRequests {formatter : PatternFormatter} (sound : Sound formatter)
    (system : System) (requests : List FormatterRequest) :
    Sound (formatter.afterRequests system requests) ∧
      (formatter.afterRequests system requests).context = formatter.context := by
  induction requests generalizing formatter with
  | nil => exact ⟨sound, rfl⟩
  | cons request requests ih =>
      obtain ⟨later, same⟩ := sound.handle system request
      obtain ⟨last, context⟩ := ih later
      exact ⟨last, context.trans same⟩

end PatternFormatter

/-! ## Shared formatters -/

/-- Settings that are shared under one word select one locale. -/
theorem System.resolveLocale_keyWord (system : System) (setting : Setting) :
    system.resolveLocale (some (SharedFormatters.keyWord setting)) =
      system.resolveLocale setting := by
  match setting with
  | none => rfl
  | some [] => rfl
  | some (c :: rest) => rfl

/-- Settings that are shared under one word select one zone, or fail alike. -/
theorem System.resolveZone_keyWord (system : System) (setting : Setting) :
    system.resolveZone (some (SharedFormatters.keyWord setting)) = system.resolveZone setting := by
  match setting with
  | none => rfl
  | some [] => rfl
  | some (c :: rest) => rfl

/-- A new formatter is made exactly when a locale and a zone are selected. -/
theorem System.freshFormatter_eq_ok_iff {system : System} {locale zone : Setting}
    {formatter : PatternFormatter} :
    system.freshFormatter locale zone = .ok formatter ↔
      ∃ chosen place, system.resolveLocale locale = .ok chosen ∧
        system.resolveZone zone = .ok place ∧ PatternFormatter.fresh chosen place = formatter := by
  unfold freshFormatter
  cases system.resolveLocale locale with
  | error cause => simp [Except.mapError, bind, Except.bind]
  | ok chosen =>
      cases system.resolveZone zone with
      | error failure => simp [Except.mapError, bind, Except.bind]
      | ok place => simp [Except.mapError, bind, Except.bind, pure, Except.pure]

/-- **Settings that are shared under one key select the same formatter.** -/
theorem System.freshFormatter_of_key {system : System} {locale zone locale' zone' : Setting}
    (same : SharedFormatters.key locale zone = SharedFormatters.key locale' zone') :
    system.freshFormatter locale zone = system.freshFormatter locale' zone' := by
  obtain ⟨locales, zones⟩ := Prod.mk.injEq _ _ _ _ ▸ same
  rw [freshFormatter, freshFormatter, ← system.resolveLocale_keyWord locale,
    ← system.resolveZone_keyWord zone, locales, zones, system.resolveLocale_keyWord,
    system.resolveZone_keyWord]

/-- The shared table with the formatters that callers hold, each with the key it was asked
for under.  Callers may go on using a formatter that the table has dropped. -/
structure Session where
  table : SharedFormatters := {}
  held : List (SharedKey × SharedFormatter) := []

/-- What callers do with shared formatters. -/
inductive SessionStep where
  /-- A formatter is asked for. -/
  | get (locale zone : Setting)
  /-- A pattern is rendered with the formatter for settings. -/
  | format (locale zone : Setting) (pattern : Text) (instant : Instant)
  /-- All shared formatters are dropped. -/
  | clear
  /-- Something is asked of the formatter with a number, where a caller holds it. -/
  | ask (number : Nat) (request : FormatterRequest)

namespace Session

/-- Puts back a formatter that has changed wherever it is held. -/
def putBack (held : List (SharedKey × SharedFormatter)) (shared : SharedFormatter) :
    List (SharedKey × SharedFormatter) :=
  held.map fun entry => if entry.2.number = shared.number then (entry.1, shared) else entry

/-- The session after a step. -/
def step (system : System) (session : Session) : SessionStep → Session
  | .get locale zone =>
      match session.table.get system locale zone with
      | (.ok shared, table) =>
          ⟨table, (SharedFormatters.key locale zone, shared) :: session.held⟩
      | (.error _, table) => ⟨table, session.held⟩
  | .format locale zone pattern instant =>
      match session.table.format system locale zone pattern instant with
      | (.ok (shared, _), table) =>
          ⟨table, (SharedFormatters.key locale zone, shared) :: putBack session.held shared⟩
      | (.error _, table) => ⟨table, session.held⟩
  | .clear => ⟨session.table.clear, session.held⟩
  | .ask number request =>
      match session.held.find? (·.2.number = number) with
      | none => session
      | some (_, shared) =>
          let later := { shared with formatter := shared.formatter.handle system request }
          ⟨session.table.update later, putBack session.held later⟩

/-- A session that starts without shared formatters, after steps in order. -/
def run (system : System) (steps : List SessionStep) : Session :=
  steps.foldl (step system) {}

/-- A shared formatter is sound, and every setting that is shared under its key selects its
locale and zone.  The contexts of all formatters that were built are given by number. -/
structure FaithfulEntry (system : System) (contexts : List RenderContext)
    (entry : SharedKey × SharedFormatter) : Prop where
  sound : entry.2.formatter.Sound
  context : contexts[entry.2.number]? = some entry.2.formatter.context
  settings : ∀ locale zone, SharedFormatters.key locale zone = entry.1 →
    system.freshFormatter locale zone = .ok { context := entry.2.formatter.context }

/-- What every step keeps: the formatters in the table and those held are faithful. -/
structure Faithful (system : System) (contexts : List RenderContext) (session : Session) :
    Prop where
  next : session.table.next = contexts.length
  table : ∀ entry ∈ session.table.entries, FaithfulEntry system contexts entry
  held : ∀ entry ∈ session.held, FaithfulEntry system contexts entry

namespace FaithfulEntry

variable {system : System} {contexts : List RenderContext}

/-- A formatter stays faithful when others are built. -/
theorem append {entry : SharedKey × SharedFormatter}
    (faithful : FaithfulEntry system contexts entry) (more : RenderContext) :
    FaithfulEntry system (contexts ++ [more]) entry := by
  refine ⟨faithful.sound, ?_, faithful.settings⟩
  obtain ⟨inside, -⟩ := List.getElem?_eq_some_iff.mp faithful.context
  rw [List.getElem?_append_left inside, faithful.context]

/-- A formatter that has changed takes the place of itself everywhere. -/
theorem replace {entries : List (SharedKey × SharedFormatter)} {key : SharedKey}
    {shared : SharedFormatter} (later : FaithfulEntry system contexts (key, shared))
    (faithful : ∀ entry ∈ entries, FaithfulEntry system contexts entry) :
    ∀ entry ∈ putBack entries shared, FaithfulEntry system contexts entry := by
  intro entry member
  obtain ⟨before, old, rfl⟩ := List.mem_map.mp member
  have same := faithful before old
  split
  · next number =>
      -- Numbers tell formatters apart, so both have the same context.
      have context : before.2.formatter.context = shared.formatter.context := by
        have both := same.context
        rw [number, later.context] at both
        exact (Option.some.inj both).symm
      exact ⟨later.sound, later.context, fun locale zone settings =>
        context ▸ same.settings locale zone settings⟩
  · exact same

/-- A request leaves a formatter faithful. -/
theorem handle {key : SharedKey} {shared : SharedFormatter}
    (faithful : FaithfulEntry system contexts (key, shared)) (request : FormatterRequest) :
    FaithfulEntry system contexts
      (key, { shared with formatter := shared.formatter.handle system request }) := by
  obtain ⟨sound, same⟩ := PatternFormatter.Sound.handle faithful.sound system request
  refine ⟨sound, ?_, fun locale zone settings => ?_⟩
  · exact faithful.context.trans (congrArg some same.symm)
  · rw [faithful.settings locale zone settings]
    exact congrArg (fun context => Except.ok (PatternFormatter.mk context {})) same.symm

end FaithfulEntry

namespace Faithful

variable {system : System} {contexts : List RenderContext}

/-- Entries that are moved to the end of the table are faithful. -/
theorem touch {entries : List (SharedKey × SharedFormatter)} {key : SharedKey}
    {shared : SharedFormatter} (here : FaithfulEntry system contexts (key, shared))
    (faithful : ∀ entry ∈ entries, FaithfulEntry system contexts entry) :
    ∀ entry ∈ SharedFormatters.touch entries key shared, FaithfulEntry system contexts entry := by
  intro entry member
  rcases List.mem_append.mp member with before | last
  · exact faithful entry (List.mem_filter.mp before).1
  · rw [List.mem_singleton.mp last]
    exact here

/-- **Asking for a formatter keeps a table faithful; what is obtained is faithful and
selected by the settings.**  One more context is recorded when a formatter is built. -/
theorem get {table : SharedFormatters} (next : table.next = contexts.length)
    (faithful : ∀ entry ∈ table.entries, FaithfulEntry system contexts entry)
    (locale zone : Setting) :
    ∃ more : List RenderContext,
      (table.get system locale zone).2.next = (contexts ++ more).length ∧
      (∀ entry ∈ (table.get system locale zone).2.entries,
        FaithfulEntry system (contexts ++ more) entry) ∧
      (∀ entry, FaithfulEntry system contexts entry →
        FaithfulEntry system (contexts ++ more) entry) ∧
      (∀ shared, (table.get system locale zone).1 = .ok shared →
        FaithfulEntry system (contexts ++ more) (SharedFormatters.key locale zone, shared)) ∧
      (∀ failure, (table.get system locale zone).1 = .error failure →
        system.freshFormatter locale zone = .error failure) := by
  rcases SharedFormatters.get_cases system table locale zone with
    ⟨shared, found, result⟩ | ⟨failure, -, failed, result⟩ | ⟨formatter, -, built, result⟩
  · have here : FaithfulEntry system contexts (SharedFormatters.key locale zone, shared) := by
      obtain ⟨before, after, split, -⟩ := List.lookup_eq_some_iff.mp found
      exact faithful _ (by simp [split])
    refine ⟨[], ?_⟩
    rw [result, List.append_nil]
    refine ⟨next, touch here faithful, fun _ same => same, fun other success => ?_,
      fun failure refused => ?_⟩
    · cases success
      exact here
    · cases refused
  · refine ⟨[], ?_⟩
    rw [result, List.append_nil]
    refine ⟨next, faithful, fun _ same => same, fun other success => ?_,
      fun other refused => ?_⟩
    · cases success
    · cases refused
      exact failed
  · -- The new formatter has the next number, and its context comes last.
    have fresh : formatter = { context := formatter.context } := by
      obtain ⟨chosen, place, -, -, rfl⟩ := System.freshFormatter_eq_ok_iff.mp built
      rfl
    have here : FaithfulEntry system (contexts ++ [formatter.context])
        (SharedFormatters.key locale zone, ⟨table.next, formatter⟩) := by
      refine ⟨?_, by simp [next], fun locale' zone' same => ?_⟩
      · rw [fresh]
        exact PatternFormatter.sound_empty _
      · rw [System.freshFormatter_of_key same, built, ← fresh]
    have kept : ∀ entry, FaithfulEntry system contexts entry →
        FaithfulEntry system (contexts ++ [formatter.context]) entry :=
      fun entry same => same.append formatter.context
    refine ⟨[formatter.context], ?_⟩
    rw [result]
    refine ⟨by simp [SharedFormatters.insert, next], fun entry member => ?_, kept,
      fun other success => ?_, fun failure refused => ?_⟩
    · refine touch here (fun entry member => kept entry (faithful entry member)) entry ?_
      simp only [SharedFormatters.insert] at member
      split at member
      · exact List.mem_of_mem_drop member
      · exact member
    · cases success
      exact here
    · cases refused

/-- **Every step of a session keeps it faithful.** -/
theorem step {session : Session} (faithful : Faithful system contexts session)
    (next : SessionStep) : ∃ contexts', Faithful system contexts' (session.step system next) := by
  cases next with
  | get locale zone =>
      obtain ⟨more, count, entries, kept, obtained, -⟩ :=
        get faithful.next faithful.table locale zone
      have held := fun entry member => kept entry (faithful.held entry member)
      refine ⟨contexts ++ more, ?_⟩
      rw [Session.step]
      cases asked : session.table.get system locale zone with
      | mk result table =>
          rw [asked] at count entries obtained
          cases result with
          | error failure => exact ⟨count, entries, held⟩
          | ok shared =>
              exact ⟨count, entries, List.forall_mem_cons.mpr ⟨obtained shared rfl, held⟩⟩
  | format locale zone pattern instant =>
      obtain ⟨more, count, entries, kept, obtained, -⟩ :=
        get faithful.next faithful.table locale zone
      have held := fun entry member => kept entry (faithful.held entry member)
      refine ⟨contexts ++ more, ?_⟩
      rw [Session.step, SharedFormatters.format]
      cases asked : session.table.get system locale zone with
      | mk result table =>
          rw [asked] at count entries obtained
          cases result with
          | error failure => exact ⟨count, entries, held⟩
          | ok shared =>
              have later := (obtained shared rfl).handle (.format pattern instant)
              exact ⟨count, later.replace entries,
                List.forall_mem_cons.mpr ⟨later, later.replace held⟩⟩
  | clear =>
      exact ⟨contexts, faithful.next, by simp [Session.step, SharedFormatters.clear],
        faithful.held⟩
  | ask number request =>
      refine ⟨contexts, ?_⟩
      rw [Session.step]
      split
      · exact faithful
      · next key shared found =>
          have later := (faithful.held _ (List.mem_of_find?_eq_some found)).handle request
          exact ⟨faithful.next, later.replace faithful.table, later.replace faithful.held⟩

end Faithful

/-- **Every session is faithful.** -/
theorem faithful_run (system : System) (steps : List SessionStep) :
    ∃ contexts, Faithful system contexts (run system steps) := by
  induction steps using List.reverseRecOn with
  | nil => exact ⟨[], rfl, by simp [run], by simp [run]⟩
  | append_singleton steps next ih =>
      obtain ⟨contexts, faithful⟩ := ih
      rw [run, List.foldl_append]
      exact faithful.step next

end Session

/-! ## No answer depends on what was kept -/

/-- A faithful formatter answers as a fresh one for settings that are shared under its
key. -/
theorem Session.FaithfulEntry.format_eq_fresh {system : System} {contexts : List RenderContext}
    {key : SharedKey} {shared : SharedFormatter}
    (faithful : FaithfulEntry system contexts (key, shared)) {locale zone : Setting}
    (settings : SharedFormatters.key locale zone = key) :
    ∃ fresh, system.freshFormatter locale zone = .ok fresh ∧ ∀ pattern instant,
      (shared.formatter.format system pattern instant).1 =
        (fresh.format system pattern instant).1 := by
  refine ⟨_, faithful.settings locale zone settings, fun pattern instant => ?_⟩
  rw [(faithful.sound.format system pattern instant).1,
    ((PatternFormatter.sound_empty _).format system pattern instant).1]

/-- The answer of the formatter for settings in a faithful table. -/
theorem Session.Faithful.format_eq_fresh {system : System} {contexts : List RenderContext}
    {session : Session} (faithful : Faithful system contexts session) (locale zone : Setting)
    (pattern : Text) (instant : Instant) :
    (session.table.format system locale zone pattern instant).1.map Prod.snd =
      (system.freshFormatter locale zone).map
        fun fresh => (fresh.format system pattern instant).1 := by
  obtain ⟨more, -, -, -, obtained, failed⟩ :=
    Faithful.get faithful.next faithful.table locale zone
  rw [SharedFormatters.format]
  cases asked : session.table.get system locale zone with
  | mk result table =>
      rw [asked] at obtained failed
      cases result with
      | error failure =>
          rw [failed failure rfl]
          rfl
      | ok shared =>
          obtain ⟨fresh, built, answers⟩ := (obtained shared rfl).format_eq_fresh rfl
          rw [built]
          exact congrArg Except.ok (answers pattern instant)

/-- **Keeping renderers and sharing formatters cannot be observed.**  After any requests a
formatter answers as one that has compiled nothing for the same locale, zone and first
weekday; after any session so does the formatter for any settings, which fails exactly
when they select none, and every formatter that a caller still holds.  An explicit
pattern has a text exactly when all its segments have one, and then it is the row of
these texts. -/
theorem answers_eq_fresh (system : System) :
    (∀ context requests pattern instant,
      ((PatternFormatter.afterRequests system { context := context } requests).format system
          pattern instant).1 =
        (PatternFormatter.format system { context := context } pattern instant).1) ∧
    (∀ steps locale zone pattern instant,
      ((Session.run system steps).table.format system locale zone pattern instant).1.map
          Prod.snd =
        (system.freshFormatter locale zone).map
          fun fresh => (fresh.format system pattern instant).1) ∧
    (∀ steps key shared locale zone, (key, shared) ∈ (Session.run system steps).held →
      SharedFormatters.key locale zone = key →
      ∃ fresh, system.freshFormatter locale zone = .ok fresh ∧ ∀ pattern instant,
        (shared.formatter.format system pattern instant).1 =
          (fresh.format system pattern instant).1) ∧
    (∀ context requests explicit instant text,
      ((PatternFormatter.afterRequests system { context := context } requests).format system
          (patternMarker :: explicit) instant).1 = .ok text ↔
        ((tokenize .dropped explicit).mapM (context.segmentText system instant)).map
          List.flatten = .ok text) := by
  have answers : ∀ (context : RenderContext) (requests : List FormatterRequest) pattern instant,
      ((PatternFormatter.afterRequests system { context := context } requests).format system
        pattern instant).1 = context.answer system pattern instant := by
    intro context requests pattern instant
    obtain ⟨sound, same⟩ := (PatternFormatter.sound_empty context).afterRequests system requests
    rw [(sound.format system pattern instant).1, same]
  refine ⟨fun context requests pattern instant => ?_,
    fun steps locale zone pattern instant => ?_,
    fun steps key shared locale zone held settings => ?_,
    fun context requests explicit instant text => ?_⟩
  · rw [answers, ((PatternFormatter.sound_empty context).format system pattern instant).1]
  · obtain ⟨contexts, faithful⟩ := Session.faithful_run system steps
    exact faithful.format_eq_fresh locale zone pattern instant
  · obtain ⟨contexts, faithful⟩ := Session.faithful_run system steps
    exact (faithful.held _ held).format_eq_fresh settings
  · rw [answers, RenderContext.answer_explicit]

/-- A formatter that was asked for without a locale, has compiled a pattern and was dropped
from the table answers as a fresh one for an empty locale. -/
theorem answers_eq_fresh_dropped :
    let session := Session.run .standard
      [.get none (some "UTC"), .ask 0 (.renderer "#HH:mm"), .clear]
    ∃ shared : SharedFormatter,
      (SharedFormatters.key none (some "UTC"), shared) ∈ session.held ∧
      session.table.entries = [] ∧ shared.formatter.stats.patterns = 1 ∧
      ∃ fresh, System.standard.freshFormatter (some []) (some "UTC") = .ok fresh ∧
        ∀ pattern instant, (shared.formatter.format .standard pattern instant).1 =
          (fresh.format .standard pattern instant).1 := by
  intro session
  have one : session.held.map (fun entry => (entry.1, entry.2.formatter.stats.patterns)) =
      [(SharedFormatters.key none (some "UTC"), 1)] := by decide +kernel
  obtain ⟨⟨key, shared⟩, held, same⟩ := List.map_eq_singleton_iff.mp one
  obtain ⟨keys, patterns⟩ := Prod.mk.inj same
  have member : (key, shared) ∈ session.held := by simp [held]
  refine ⟨shared, keys ▸ member, rfl, patterns, ?_⟩
  exact (answers_eq_fresh .standard).2.2.1 _ key shared (some []) (some "UTC") member keys.symm

end PanelClock
