import Mathlib.Algebra.BigOperators.Group.Finset.Basic
import Mathlib.Data.Finset.Union
import PanelClock.Proofs.Caching
import PanelClock.Proofs.MemoRuns

/-!
# What a formatter has counted

The memo of a formatter counts requests for patterns and for single runs.  A run of a
formatter makes its memo take the calls of `RenderContext.memoCall`, one for each pattern
that is asked for (`PatternFormatter.memo_afterRequests`), so the laws of memos say what it
has counted.  Where no compilation fails, every pattern is compiled the first time that it
is asked for and never again; so its runs are requested once.  The statistics are sums over
the set of the patterns asked for, and their order does not matter
(`PatternFormatter.stats_afterRequests`).
-/

set_option autoImplicit false

namespace PanelClock

/-! ## Memos without failures -/

namespace MemoRequest

variable {α ε : Type}

theorem calledAfter_subset (before requests : List (MemoRequest α ε)) :
    calledAfter before requests ⊆ requests := by
  induction requests generalizing before with
  | nil => exact List.nil_subset _
  | cons request rest ih =>
      have later := ih (before ++ [request])
      simp only [calledAfter]
      split
      · exact List.cons_subset_cons request later
      · exact List.subset_cons_of_subset request later

/-- Where every compilation returns, none that is called fails. -/
theorem failures_eq_zero {requests : List (MemoRequest α ε)}
    (returning : ∀ request ∈ requests, request.returns) : failures requests = 0 := by
  rw [failures, List.countP_eq_zero]
  intro request member
  simp [returning request (calledAfter_subset [] requests member)]

/-- Where every compilation returns, one returns for every key. -/
theorem keysReturned_eq {requests : List (MemoRequest α ε)}
    (returning : ∀ request ∈ requests, request.returns) :
    keysReturned requests = (requests.map key).toFinset := by
  rw [keysReturned, List.filter_eq_self.mpr returning]

end MemoRequest

/-- Where every compilation returns, there is a result for each key that was requested, and a
miss for each result. -/
theorem MemoTable.Counts.of_returns {α ε : Type} {requests : List (MemoRequest α ε)}
    {results hits misses : Nat} (counts : Counts requests results hits misses)
    (returning : ∀ request ∈ requests, request.returns) :
    results = (requests.map MemoRequest.key).toFinset.card ∧ misses = results := by
  refine ⟨?_, ?_⟩
  · rw [counts.keys, MemoRequest.keysReturned_eq returning]
  · rw [counts.failed, MemoRequest.failures_eq_zero returning, Nat.add_zero]

/-! ## The calls that a formatter makes -/

/-- The runs of a pattern that prescribes its layout, as they are written; any other pattern
has none. -/
def patternSpecifiers (pattern : Text) : List Text :=
  match pattern with
  | '#' :: explicit =>
      (Segment.runs (tokenize .dropped explicit)).map fun run => Segment.specifier run.1 run.2
  | _ => []

namespace RenderContext

variable {context : RenderContext}

/-- The requests that the compilation of a pattern makes for its runs. -/
def fieldRequests (context : RenderContext) (pattern : Text) :
    List (MemoRequest Renderer Fault) :=
  (patternSpecifiers pattern).map fun specifier => ⟨specifier, context.fieldMeaning⟩

/-- The call for a pattern that is asked for. -/
def memoCall (context : RenderContext) (pattern : Text) : MemoCall Renderer Fault :=
  .pattern ⟨pattern, context.meaning⟩ (context.fieldRequests pattern)

/-- Compiling segments requests their runs, in order. -/
theorem compileParts_fields (segments : List Segment) (fields : MemoTable Renderer) :
    (context.compileParts segments fields).2 =
      fields.afterRequests ((Segment.runs segments).map fun run =>
        (⟨Segment.specifier run.1 run.2, context.fieldMeaning⟩ : MemoRequest Renderer Fault)) := by
  induction segments generalizing fields with
  | nil => rfl
  | cons segment rest ih =>
      cases segment with
      | literal text => exact ih fields
      | field letter length =>
          rw [compileParts]
          dsimp only
          split <;> exact ih _

/-- **Compiling a pattern requests its runs and gives what the pattern means.** -/
theorem compile_eq {fields : MemoTable Renderer} (sound : fields.Sound context.fieldMeaning)
    (pattern : Text) :
    context.compile pattern fields =
      (context.meaning pattern, fields.afterRequests (context.fieldRequests pattern)) := by
  refine Prod.ext (compile_sound sound pattern).1 ?_
  rw [fieldRequests, compile.eq_def]
  split
  · next explicit =>
      rw [patternSpecifiers, List.map_map]
      exact compileParts_fields _ fields
  · next other =>
      rw [patternSpecifiers]
      · rfl
      · exact other

/-- The compilation of a run returns, be it that the run is not rendered. -/
theorem returns_of_mem_fieldRequests {pattern : Text} {request : MemoRequest Renderer Fault}
    (member : request ∈ context.fieldRequests pattern) : request.returns := by
  obtain ⟨specifier, -, rfl⟩ := List.mem_map.mp member
  exact MemoRequest.returns_of_ok rfl

/-- The requests made when patterns are asked for, in order. -/
def made (context : RenderContext) (asked : List Text) : MemoHistory Renderer Fault :=
  MemoHistory.ofCalls (asked.map context.memoCall)

theorem made_append_singleton (asked : List Text) (pattern : Text) :
    context.made (asked ++ [pattern]) = (context.made asked).add (context.memoCall pattern) := by
  rw [made, List.map_append, List.map_singleton, MemoHistory.ofCalls_append_singleton, made]

theorem made_patterns (asked : List Text) :
    (context.made asked).patterns =
      asked.map fun pattern => (⟨pattern, context.meaning⟩ : MemoRequest Renderer Fault) := by
  induction asked using List.reverseRecOn with
  | nil => rfl
  | append_singleton asked pattern ih =>
      rw [made_append_singleton, memoCall, MemoHistory.add, ih, List.map_append]
      rfl

theorem returns_of_mem_made_patterns {asked : List Text}
    (compiles : ∀ pattern ∈ asked, (context.meaning pattern).isOk) :
    ∀ request ∈ (context.made asked).patterns, request.returns := by
  intro request member
  rw [made_patterns] at member
  obtain ⟨pattern, here, rfl⟩ := List.mem_map.mp member
  exact compiles pattern here

theorem returns_of_mem_made_fields (asked : List Text) :
    ∀ request ∈ (context.made asked).fields, request.returns := by
  induction asked using List.reverseRecOn with
  | nil => simp [made, MemoHistory.ofCalls]
  | append_singleton asked pattern ih =>
      intro request member
      rw [made_append_singleton, memoCall, MemoHistory.add] at member
      rcases List.mem_append.mp member with before | now
      · exact ih request before
      · split at now
        · exact returns_of_mem_fieldRequests now
        · simp at now

/-- **The runs of a pattern are requested when it is asked for the first time.** -/
theorem made_fields_append_singleton {asked : List Text}
    (compiles : ∀ pattern ∈ asked, (context.meaning pattern).isOk) (pattern : Text) :
    (context.made (asked ++ [pattern])).fields =
      (context.made asked).fields ++
        (if pattern ∈ asked then [] else context.fieldRequests pattern) := by
  -- Since nothing fails, a pattern has a first result as soon as it was asked for.
  have asked_iff : (MemoRequest.first? pattern (context.made asked).patterns).isSome ↔
      pattern ∈ asked := by
    rw [MemoRequest.isSome_first?_iff,
      MemoRequest.keysReturned_eq (returns_of_mem_made_patterns compiles), made_patterns]
    simp
  rw [made_append_singleton, memoCall, MemoHistory.add]
  by_cases before : pattern ∈ asked
  · have found := asked_iff.mpr before
    simp [before, Option.isNone_eq_false_iff.mpr found]
  · have missing := mt asked_iff.mp before
    simp [before, Option.not_isSome_iff_eq_none.mp missing]

/-- **Each pattern that was asked for has its runs requested once.** -/
theorem length_made_fields {asked : List Text}
    (compiles : ∀ pattern ∈ asked, (context.meaning pattern).isOk) :
    (context.made asked).fields.length =
      ∑ pattern ∈ asked.toFinset, (patternSpecifiers pattern).length := by
  induction asked using List.reverseRecOn with
  | nil => rfl
  | append_singleton asked pattern ih =>
      obtain ⟨earlier, -⟩ := List.forall_mem_append.mp compiles
      have more : (asked ++ [pattern]).toFinset = insert pattern asked.toFinset := by
        ext other
        simp
      rw [made_fields_append_singleton earlier, List.length_append, ih earlier, more]
      by_cases before : pattern ∈ asked
      · rw [if_pos before, Finset.insert_eq_of_mem (List.mem_toFinset.mpr before)]
        rfl
      · rw [if_neg before, Finset.sum_insert (mt List.mem_toFinset.mp before), fieldRequests,
          List.length_map, Nat.add_comm]

/-- The runs requested are those of the patterns that were asked for. -/
theorem keys_made_fields {asked : List Text}
    (compiles : ∀ pattern ∈ asked, (context.meaning pattern).isOk) :
    ((context.made asked).fields.map MemoRequest.key).toFinset =
      asked.toFinset.biUnion fun pattern => (patternSpecifiers pattern).toFinset := by
  induction asked using List.reverseRecOn with
  | nil => rfl
  | append_singleton asked pattern ih =>
      obtain ⟨earlier, -⟩ := List.forall_mem_append.mp compiles
      have keys :
          (context.fieldRequests pattern).map MemoRequest.key = patternSpecifiers pattern := by
        simp [fieldRequests, Function.comp_def]
      rw [made_fields_append_singleton earlier, List.map_append, List.toFinset_append, ih earlier,
        List.toFinset_append, Finset.union_biUnion]
      by_cases before : pattern ∈ asked
      · rw [if_pos before]
        ext specifier
        simp only [List.map_nil, List.toFinset_nil, Finset.union_empty, Finset.mem_union,
          Finset.mem_biUnion, List.mem_toFinset, List.mem_singleton, exists_eq_left]
        exact ⟨.inl, fun both => both.elim id fun here => ⟨pattern, before, here⟩⟩
      · rw [if_neg before, keys]
        simp

end RenderContext

/-! ## What has been counted -/

/-- The pattern that a request asks for. -/
def FormatterRequest.pattern? : FormatterRequest → Option Text
  | .format pattern _ => some pattern
  | .renderer pattern => some pattern
  | .stats => none

/-- The patterns that requests ask for, in order. -/
def FormatterRequest.patterns (requests : List FormatterRequest) : List Text :=
  requests.filterMap pattern?

/-- What a memo answers depends on a compilation only where it would be called. -/
theorem Memo.requestPattern_congr {α ε : Type} {memo : Memo α} {key : Text}
    {compile compile' : Text → MemoTable α → Except ε (Option α) × MemoTable α}
    (same : compile key memo.fields = compile' key memo.fields) :
    memo.requestPattern key compile = memo.requestPattern key compile' := by
  simp only [requestPattern, same]

namespace PatternFormatter

/-- No compilation fails while requests are handled in order. -/
def Compiles (system : System) : PatternFormatter → List FormatterRequest → Prop
  | _, [] => True
  | formatter, request :: rest =>
      (∀ pattern, request.pattern? = some pattern → (formatter.renderer pattern).1.isOk) ∧
        Compiles system (formatter.handle system request) rest

/-- A formatter that is asked for a pattern makes one call on its memo. -/
theorem Sound.memo_renderer {formatter : PatternFormatter} (sound : Sound formatter)
    (pattern : Text) :
    (formatter.renderer pattern).2.memo =
      (formatter.memo.call (formatter.context.memoCall pattern)).2 := by
  have same : formatter.memo.requestPattern pattern formatter.context.compile =
      formatter.memo.requestPattern pattern fun key table =>
        (formatter.context.meaning key,
          table.afterRequests (formatter.context.fieldRequests pattern)) :=
    Memo.requestPattern_congr (RenderContext.compile_eq sound.fields pattern)
  rw [PatternFormatter.renderer, same]
  rfl

theorem Sound.memo_handle {formatter : PatternFormatter} (sound : Sound formatter)
    (system : System) (request : FormatterRequest) :
    (formatter.handle system request).memo =
      (request.pattern?.toList.map formatter.context.memoCall).foldl
        (fun memo next => (memo.call next).2) formatter.memo := by
  cases request with
  | format pattern instant =>
      rw [PatternFormatter.handle, (sound.format system pattern instant).2]
      exact sound.memo_renderer pattern
  | renderer pattern => exact sound.memo_renderer pattern
  | stats => rfl

/-- **The memo of a formatter takes one call for each pattern that is asked for.** -/
theorem Sound.memo_afterRequests {formatter : PatternFormatter} (sound : Sound formatter)
    (system : System) (requests : List FormatterRequest) :
    (formatter.afterRequests system requests).memo =
      ((FormatterRequest.patterns requests).map formatter.context.memoCall).foldl
        (fun memo next => (memo.call next).2) formatter.memo := by
  induction requests generalizing formatter with
  | nil => rfl
  | cons request rest ih =>
      obtain ⟨later, same⟩ := sound.handle system request
      have patterns : FormatterRequest.patterns (request :: rest) =
          request.pattern?.toList ++ FormatterRequest.patterns rest := by
        cases request <;> rfl
      rw [patterns, List.map_append, List.foldl_append, ← sound.memo_handle, ← same]
      exact ih later

/-- Nothing fails while requests are handled exactly when each pattern has a meaning. -/
theorem Sound.compiles_iff {formatter : PatternFormatter} (sound : Sound formatter)
    (system : System) (requests : List FormatterRequest) :
    Compiles system formatter requests ↔
      ∀ pattern ∈ FormatterRequest.patterns requests,
        (formatter.context.meaning pattern).isOk := by
  induction requests generalizing formatter with
  | nil => simp [Compiles, FormatterRequest.patterns]
  | cons request rest ih =>
      obtain ⟨later, same⟩ := sound.handle system request
      have means : ∀ pattern, (formatter.renderer pattern).1 = formatter.context.meaning pattern :=
        fun pattern => (sound.renderer pattern).1
      rw [Compiles, ih later, same]
      simp only [means]
      cases asked : request.pattern? <;> simp [FormatterRequest.patterns, asked]

/-- What the statistics of a formatter say about the patterns that it was asked for: how many
different ones there are and how often one was asked for, and the same for the runs of the
different patterns that prescribe their layout. -/
structure CountsPatterns (asked : List Text) (stats : MemoStats) : Prop where
  patterns : stats.patterns = asked.toFinset.card
  patternMisses : stats.patternMisses = asked.toFinset.card
  calls : stats.patternHits + stats.patternMisses = asked.length
  fields : stats.fields =
    (asked.toFinset.biUnion fun pattern => (patternSpecifiers pattern).toFinset).card
  fieldMisses : stats.fieldMisses =
    (asked.toFinset.biUnion fun pattern => (patternSpecifiers pattern).toFinset).card
  runs : stats.fieldHits + stats.fieldMisses =
    ∑ pattern ∈ asked.toFinset, (patternSpecifiers pattern).length

/-- The order of the patterns does not matter. -/
theorem CountsPatterns.eq_of_perm {asked others : List Text} {stats stats' : MemoStats}
    (counts : CountsPatterns asked stats) (counts' : CountsPatterns others stats')
    (permuted : others.Perm asked) : stats' = stats := by
  obtain ⟨patterns, patternMisses, calls, fields, fieldMisses, runs⟩ := counts
  obtain ⟨patterns', patternMisses', calls', fields', fieldMisses', runs'⟩ := counts'
  rw [List.toFinset_eq_of_perm _ _ permuted] at patterns' patternMisses' fields' fieldMisses' runs'
  have length := permuted.length_eq
  cases stats
  cases stats'
  simp only [MemoStats.mk.injEq] at *
  omega

theorem countsPatterns_afterRequests {system : System} {context : RenderContext}
    {requests : List FormatterRequest}
    (compiles : Compiles system { context := context } requests) :
    CountsPatterns (FormatterRequest.patterns requests)
      (afterRequests system { context := context } requests).stats := by
  have sound := sound_empty context
  have means := (sound.compiles_iff system requests).mp compiles
  -- From here on the requests matter only through the patterns that they ask for.
  generalize asked : FormatterRequest.patterns requests = patterns at means ⊢
  have tracks : Memo.Tracks (context.made patterns)
      (afterRequests system { context := context } requests).memo := by
    rw [sound.memo_afterRequests system requests, asked]
    exact Memo.tracks_after (patterns.map context.memoCall)
  have keys : (context.made patterns).patterns.map MemoRequest.key = patterns := by
    simp [RenderContext.made_patterns, Function.comp_def]
  have calls : (context.made patterns).patterns.length = patterns.length := by
    rw [RenderContext.made_patterns, List.length_map]
  obtain ⟨results, misses⟩ :=
    tracks.patterns.counts.of_returns (RenderContext.returns_of_mem_made_patterns means)
  obtain ⟨fieldResults, fieldMisses⟩ :=
    tracks.fields.counts.of_returns (RenderContext.returns_of_mem_made_fields patterns)
  rw [keys] at results
  rw [RenderContext.keys_made_fields means] at fieldResults
  exact {
    patterns := results
    patternMisses := misses.trans results
    calls := tracks.patterns.total.trans calls
    fields := fieldResults
    fieldMisses := fieldMisses.trans fieldResults
    runs := tracks.fields.total.trans (RenderContext.length_made_fields means) }

/-- **The statistics of a formatter depend only on which patterns it was asked for.**  As long
as no compilation fails, they count the different patterns and the calls, and the different
runs and all runs of the different patterns that prescribe their layout; whether renderings
fail and in which order patterns are asked for makes no difference. -/
theorem stats_afterRequests (system : System) (context : RenderContext)
    (requests : List FormatterRequest)
    (compiles : Compiles system { context := context } requests) :
    let asked := FormatterRequest.patterns requests
    let stats := (afterRequests system { context := context } requests).stats
    CountsPatterns asked stats ∧
      ∀ system' others, (FormatterRequest.patterns others).Perm asked →
        (afterRequests system' { context := context } others).stats = stats := by
  intro asked stats
  have counts : CountsPatterns asked stats := countsPatterns_afterRequests compiles
  refine ⟨counts, ?_⟩
  intro system' others permuted
  have sound := sound_empty context
  have compiles' : Compiles system' { context := context } others := by
    rw [sound.compiles_iff] at compiles ⊢
    intro pattern member
    exact compiles pattern (permuted.mem_iff.mp member)
  exact counts.eq_of_perm (countsPatterns_afterRequests compiles') permuted

/-- Three patterns with three different runs, one of them not rendered: one pattern is asked
for again, and one is a pattern that the locale lays out and whose rendering fails. -/
theorem stats_afterRequests_british : ∃ locale, Locale.read "en_GB" = .ok locale ∧
    let context : RenderContext := ⟨locale, .ofOffset 3600, 6⟩
    let late : Instant := .aware (.atOffset ⟨endOfTime - 1⟩ 0)
    let requests : List FormatterRequest :=
      [.format "#HH:mm" late, .renderer "#mm HH D", .format "y MMM d" late, .stats,
        .renderer "#HH:mm"]
    Compiles .standard { context := context } requests ∧
      (afterRequests .standard { context := context } requests).stats = ⟨3, 3, 1, 3, 2, 3⟩ ∧
      CountsPatterns (FormatterRequest.patterns requests)
        (afterRequests .standard { context := context } requests).stats ∧
      (afterRequests .standard { context := context } requests.reverse).stats =
        (afterRequests .standard { context := context } requests).stats := by
  have known : Locale.read "en_GB" =
      .ok ⟨{ language := "en", territory := some "GB" }, britishEnglish⟩ := rfl
  refine ⟨_, known, ?_⟩
  intro context late requests
  have compiles : Compiles .standard { context := context } requests := by
    rw [(sound_empty context).compiles_iff]
    decide +kernel
  have counted : (afterRequests .standard { context := context } requests).stats =
      ⟨3, 3, 1, 3, 2, 3⟩ := by decide +kernel
  obtain ⟨counts, permuted⟩ := stats_afterRequests .standard context requests compiles
  exact ⟨compiles, counted, counts, permuted .standard requests.reverse (by decide +kernel)⟩

end PatternFormatter

end PanelClock
