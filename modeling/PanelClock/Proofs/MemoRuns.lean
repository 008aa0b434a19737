import Mathlib.Data.Finset.Card
import Mathlib.Data.List.Induction
import PanelClock.Memo
import PanelClock.Proofs.Lookup

/-!
# A memo keeps the first result of every key

Patterns and fields are requested from a memo, each request with a compilation of its own.
A compilation may return a result, return that there is nothing to keep, or fail, and the
compilation of a pattern may request fields on its way.

What has to happen is said by the requests alone, those of patterns and those of fields
apart (`MemoHistory`).  A request calls its compilation as long as none for the same key has
returned before (`MemoRequest.called`), and what was returned first is the answer ever after
(`MemoRequest.first?`).  The invariant of a run is that each table finds the first results
and counts the requests and the calls (`MemoTable.Tracks`).  One request keeps it
(`MemoTable.Tracks.request`), hence every sequence of calls does (`Memo.tracks_after`).
-/

set_option autoImplicit false

namespace PanelClock

variable {α ε : Type}

/-! ## Requests -/

/-- A request for the result of a key, with the compilation that it brings along. -/
structure MemoRequest (α ε : Type) where
  key : Text
  compile : Text → Except ε (Option α)

namespace MemoRequest

/-- What the compilation of a request comes to when it is called. -/
def outcome (request : MemoRequest α ε) : Except ε (Option α) := request.compile request.key

/-- The compilation of a request returns, be it that there is nothing to keep. -/
def returns (request : MemoRequest α ε) : Bool := request.outcome.isOk

theorem returns_of_ok {request : MemoRequest α ε} {result : Option α}
    (outcome : request.outcome = .ok result) : request.returns = true := by
  simp only [returns, outcome, Except.isOk, Except.toBool]

theorem returns_of_error {request : MemoRequest α ε} {error : ε}
    (outcome : request.outcome = .error error) : request.returns = false := by
  simp only [returns, outcome, Except.isOk, Except.toBool]

/-- The result of the first request for a key whose compilation returns. -/
def first? (key : Text) (requests : List (MemoRequest α ε)) : Option (Option α) :=
  requests.findSome? fun request =>
    if request.key = key then request.outcome.toOption else none

/-- The keys for which a compilation returns. -/
def keysReturned (requests : List (MemoRequest α ε)) : Finset Text :=
  ((requests.filter returns).map key).toFinset

/-- The requests that call their compilation, when others were made before: those for keys
for which none has returned yet. -/
def calledAfter (before : List (MemoRequest α ε)) :
    List (MemoRequest α ε) → List (MemoRequest α ε)
  | [] => []
  | request :: rest =>
      let later := calledAfter (before ++ [request]) rest
      if (first? request.key before).isNone then request :: later else later

/-- The requests that call their compilation. -/
def called (requests : List (MemoRequest α ε)) : List (MemoRequest α ε) := calledAfter [] requests

/-- The number of compilations that are called and fail. -/
def failures (requests : List (MemoRequest α ε)) : Nat :=
  (called requests).countP fun request => !request.returns

theorem first?_append_singleton (key : Text) (requests : List (MemoRequest α ε))
    (request : MemoRequest α ε) :
    first? key (requests ++ [request]) =
      (first? key requests).or
        (if request.key = key then request.outcome.toOption else none) := by
  simp [first?, List.findSome?_append]

/-- A key has a first result exactly when a compilation returns for it. -/
theorem isSome_first?_iff {key : Text} {requests : List (MemoRequest α ε)} :
    (first? key requests).isSome ↔ key ∈ keysReturned requests := by
  have result : ∀ request : MemoRequest α ε,
      (if request.key = key then request.outcome.toOption else none).isSome ↔
        request.returns ∧ request.key = key := by
    intro request
    by_cases same : request.key = key
    · cases outcome : request.outcome with
      | ok result => simp [same, returns_of_ok outcome, Except.toOption]
      | error error => simp [same, returns_of_error outcome, Except.toOption]
    · simp [same]
  simp only [first?, List.findSome?_isSome_iff, result, keysReturned, List.mem_toFinset,
    List.mem_map, List.mem_filter, and_assoc]

theorem calledAfter_append_singleton (before requests : List (MemoRequest α ε))
    (request : MemoRequest α ε) :
    calledAfter before (requests ++ [request]) =
      calledAfter before requests ++
        (if (first? request.key (before ++ requests)).isNone then [request] else []) := by
  induction requests generalizing before with
  | nil => simp [calledAfter]
  | cons first rest ih =>
      simp only [List.cons_append, calledAfter, ih, List.append_assoc, List.nil_append]
      split <;> simp

theorem called_append_singleton (requests : List (MemoRequest α ε))
    (request : MemoRequest α ε) :
    called (requests ++ [request]) =
      called requests ++ (if (first? request.key requests).isNone then [request] else []) := by
  simpa [called] using calledAfter_append_singleton [] requests request

end MemoRequest

/-! ## Tables -/

namespace MemoTable

open MemoRequest

/-- The table after a compilation that was called.  Only what it returns is kept. -/
def compiled (table : MemoTable α) (key : Text) : Except ε (Option α) → MemoTable α
  | .ok result => table.miss.store key result
  | .error _ => table.miss

/-- The table after requests, in order. -/
def afterRequests (table : MemoTable α) (requests : List (MemoRequest α ε)) : MemoTable α :=
  requests.foldl (fun table request => (table.request request.key request.compile).2) table

/-- A request for a key that has a result is answered with it. -/
theorem request_of_found {table : MemoTable α} {key : Text} {result : Option α}
    (found : table.find? key = some result) (compile : Text → Except ε (Option α)) :
    table.request key compile = (.ok result, table.hit) := by
  simp only [request, found]

/-- Any other request is answered with what its compilation comes to. -/
theorem request_of_missing {table : MemoTable α} {key : Text} (missing : table.find? key = none)
    (compile : Text → Except ε (Option α)) :
    table.request key compile = (compile key, table.compiled key (compile key)) := by
  simp only [request, missing]
  cases compile key <;> rfl

/-- A table finds what requests have returned first, keeps no key twice, and counts the
requests and the compilations that they called. -/
structure Tracks (requests : List (MemoRequest α ε)) (table : MemoTable α) : Prop where
  found : ∀ key, table.find? key = first? key requests
  nodup : (table.entries.map Prod.fst).Nodup
  total : table.hits + table.misses = requests.length
  calls : table.misses = (called requests).length
  misses : table.misses = table.size + failures requests

namespace Tracks

theorem empty : Tracks (ε := ε) [] ({} : MemoTable α) :=
  ⟨fun _ => rfl, List.nodup_nil, rfl, rfl, rfl⟩

/-- A table has one entry for each key for which a compilation has returned. -/
theorem size_eq {requests : List (MemoRequest α ε)} {table : MemoTable α}
    (tracks : Tracks requests table) : table.size = (keysReturned requests).card := by
  have keys : (table.entries.map Prod.fst).toFinset = keysReturned requests := by
    ext key
    rw [List.mem_toFinset, ← isSome_lookup_iff_mem, ← isSome_first?_iff, ← tracks.found, find?]
  rw [← keys, List.toFinset_card_of_nodup tracks.nodup, List.length_map, size]

/-- **A request for a key with a first result is only counted.** -/
theorem hit {requests : List (MemoRequest α ε)} {table : MemoTable α}
    (tracks : Tracks requests table) {request : MemoRequest α ε} {result : Option α}
    (first : first? request.key requests = some result) :
    Tracks (requests ++ [request]) table.hit := by
  obtain ⟨found, nodup, total, calls, misses⟩ := tracks
  have same : called (requests ++ [request]) = called requests := by
    simp [called_append_singleton, first]
  refine ⟨fun key => ?_, nodup, ?_, ?_, ?_⟩
  · rw [first?_append_singleton]
    by_cases here : request.key = key
    · subst here
      rw [first, Option.some_or, ← first]
      exact found request.key
    · rw [if_neg here, Option.or_none]
      exact found key
  · simp only [MemoTable.hit, List.length_append, List.length_singleton]
    omega
  · rw [same]
    exact calls
  · rw [failures, same]
    exact misses

/-- **A request for any other key keeps what its compilation returns.** -/
theorem compiled {requests : List (MemoRequest α ε)} {table : MemoTable α}
    (tracks : Tracks requests table) {request : MemoRequest α ε}
    (none_yet : first? request.key requests = none) :
    Tracks (requests ++ [request]) (table.compiled request.key request.outcome) := by
  obtain ⟨found, nodup, total, calls, misses⟩ := tracks
  have more : called (requests ++ [request]) = called requests ++ [request] := by
    simp [called_append_singleton, none_yet]
  -- Without a first result the key has no entry, so one that is stored now is its only one.
  have missing : table.entries.lookup request.key = none := (found request.key).trans none_yet
  cases outcome : request.outcome with
  | ok result =>
      have returns : request.returns = true := returns_of_ok outcome
      refine ⟨fun key => ?_, ?_, ?_, ?_, ?_⟩
      · rw [first?_append_singleton, outcome, ← found key]
        simp only [MemoTable.compiled, store, find?, miss, lookup_cons_eq_ite]
        by_cases here : request.key = key
        · subst here
          simp [missing, Except.toOption]
        · simp [here]
      · exact List.nodup_cons.mpr ⟨lookup_eq_none_iff_notMem.mp missing, nodup⟩
      · simp only [MemoTable.compiled, store, miss, List.length_append, List.length_singleton]
        omega
      · simp [MemoTable.compiled, store, miss, more, calls]
      · simp only [MemoTable.compiled, store, miss, size, failures, more, List.countP_append,
          List.length_cons] at misses ⊢
        simp [returns]
        omega
  | error error =>
      have fails : request.returns = false := returns_of_error outcome
      refine ⟨fun key => ?_, nodup, ?_, ?_, ?_⟩
      · rw [first?_append_singleton, outcome, ← found key]
        simp [MemoTable.compiled, miss, find?, Except.toOption]
      · simp only [MemoTable.compiled, miss, List.length_append, List.length_singleton]
        omega
      · simp [MemoTable.compiled, miss, more, calls]
      · simp only [MemoTable.compiled, miss, size, failures, more, List.countP_append] at misses ⊢
        simp [fails]
        omega

/-- **Every request keeps a table in step with the requests made.** -/
theorem request {requests : List (MemoRequest α ε)} {table : MemoTable α}
    (tracks : Tracks requests table) (next : MemoRequest α ε) :
    Tracks (requests ++ [next]) (table.request next.key next.compile).2 := by
  cases first : first? next.key requests with
  | some result =>
      rw [request_of_found ((tracks.found next.key).trans first)]
      exact tracks.hit first
  | none =>
      rw [request_of_missing ((tracks.found next.key).trans first)]
      exact tracks.compiled first

theorem afterRequests {requests : List (MemoRequest α ε)} {table : MemoTable α}
    (tracks : Tracks requests table) (more : List (MemoRequest α ε)) :
    Tracks (requests ++ more) (table.afterRequests more) := by
  induction more generalizing requests table with
  | nil => simpa [MemoTable.afterRequests] using tracks
  | cons next more ih => simpa [MemoTable.afterRequests] using ih (tracks.request next)

end Tracks

/-- What the numbers of results, hits and misses of a table say about the requests made. -/
structure Counts (requests : List (MemoRequest α ε)) (results hits misses : Nat) : Prop where
  /-- Each request is a hit or a miss. -/
  total : hits + misses = requests.length
  /-- The misses are the calls of compilations. -/
  calls : misses = (called requests).length
  /-- There is one result for each key for which a compilation has returned. -/
  keys : results = (keysReturned requests).card
  /-- The misses without a result are the compilations that failed. -/
  failed : misses = results + failures requests

theorem Tracks.counts {requests : List (MemoRequest α ε)} {table : MemoTable α}
    (tracks : Tracks requests table) : Counts requests table.size table.hits table.misses :=
  ⟨tracks.total, tracks.calls, tracks.size_eq, tracks.misses⟩

end MemoTable

/-! ## Calls on a memo -/

/-- A call on a memo. -/
inductive MemoCall (α ε : Type) where
  /-- A pattern is requested.  When its compilation is called, it requests fields first. -/
  | pattern (request : MemoRequest α ε) (fields : List (MemoRequest α ε))
  | field (request : MemoRequest α ε)
  | clear
  | stats
  | contains (pattern : Text)
  | size

/-- The answer to a call on a memo. -/
inductive MemoAnswer (α ε : Type) where
  | result (outcome : Except ε (Option α))
  | stats (stats : MemoStats)
  | holds (answer : Bool)
  | count (number : Nat)
  | done

/-- The requests made of a memo since it was last cleared. -/
structure MemoHistory (α ε : Type) where
  patterns : List (MemoRequest α ε) := []
  fields : List (MemoRequest α ε) := []

namespace MemoHistory

open MemoRequest

/-- The requests made after a call.  Those of the compilation of a pattern are made when no
compilation has returned for the pattern before. -/
def add (made : MemoHistory α ε) : MemoCall α ε → MemoHistory α ε
  | .pattern request fields =>
      ⟨made.patterns ++ [request],
        made.fields ++ (if (first? request.key made.patterns).isNone then fields else [])⟩
  | .field request => { made with fields := made.fields ++ [request] }
  | .clear => {}
  | .stats | .contains _ | .size => made

/-- The requests that calls make of a memo, in order. -/
def ofCalls (calls : List (MemoCall α ε)) : MemoHistory α ε := calls.foldl add {}

theorem ofCalls_append_singleton (calls : List (MemoCall α ε)) (next : MemoCall α ε) :
    ofCalls (calls ++ [next]) = (ofCalls calls).add next := by
  simp [ofCalls]

end MemoHistory

namespace Memo

open MemoRequest

/-- The answer to a call, and the memo after it. -/
def call (memo : Memo α) : MemoCall α ε → MemoAnswer α ε × Memo α
  | .pattern request fields =>
      let (outcome, later) := memo.requestPattern request.key fun key table =>
        (request.compile key, table.afterRequests fields)
      (.result outcome, later)
  | .field request =>
      let (outcome, later) := memo.requestField request.key request.compile
      (.result outcome, later)
  | .clear => (.done, memo.clear)
  | .stats => (.stats memo.stats, memo)
  | .contains pattern => (.holds (memo.contains pattern), memo)
  | .size => (.count memo.size, memo)

/-- A new memo after calls, in order. -/
def after (calls : List (MemoCall α ε)) : Memo α :=
  calls.foldl (fun memo next => (memo.call next).2) {}

theorem after_append_singleton (calls : List (MemoCall α ε)) (next : MemoCall α ε) :
    after (calls ++ [next]) = ((after calls).call next).2 := by
  simp [after]

/-- A pattern that has a result is answered with it. -/
theorem requestPattern_of_found {memo : Memo α} {key : Text} {result : Option α}
    (found : memo.patterns.find? key = some result)
    (compile : Text → MemoTable α → Except ε (Option α) × MemoTable α) :
    memo.requestPattern key compile =
      (.ok result, { memo with patterns := memo.patterns.hit }) := by
  simp only [requestPattern, found]

/-- Any other pattern is answered with what its compilation comes to, which leaves its table
of fields behind. -/
theorem requestPattern_of_missing {memo : Memo α} {key : Text}
    (missing : memo.patterns.find? key = none)
    (compile : Text → MemoTable α → Except ε (Option α) × MemoTable α) :
    memo.requestPattern key compile =
      ((compile key memo.fields).1,
        ⟨memo.patterns.compiled key (compile key memo.fields).1, (compile key memo.fields).2⟩) := by
  simp only [requestPattern, missing]
  split <;> simp_all [MemoTable.compiled]

/-- Both tables of a memo are in step with the requests made. -/
structure Tracks (made : MemoHistory α ε) (memo : Memo α) : Prop where
  patterns : memo.patterns.Tracks made.patterns
  fields : memo.fields.Tracks made.fields

/-- **What a call does to a memo that is in step with the requests made.**  A pattern for
which a compilation has returned, and likewise a field, is answered with the first result,
whatever the compilation would be; any other is answered with what its compilation comes
to. -/
theorem Tracks.call_eq {made : MemoHistory α ε} {memo : Memo α} (tracks : Tracks made memo) :
    (∀ (request : MemoRequest α ε) fields, memo.call (.pattern request fields) =
      match first? request.key made.patterns with
      | some result => (.result (.ok result), { memo with patterns := memo.patterns.hit })
      | none => (.result request.outcome,
          ⟨memo.patterns.compiled request.key request.outcome,
            memo.fields.afterRequests fields⟩)) ∧
    (∀ request : MemoRequest α ε, memo.call (.field request) =
      match first? request.key made.fields with
      | some result => (.result (.ok result), { memo with fields := memo.fields.hit })
      | none => (.result request.outcome,
          { memo with fields := memo.fields.compiled request.key request.outcome })) := by
  constructor
  · intro request fields
    rw [call]
    cases first : first? request.key made.patterns with
    | some result =>
        rw [requestPattern_of_found ((tracks.patterns.found request.key).trans first)]
    | none =>
        rw [requestPattern_of_missing ((tracks.patterns.found request.key).trans first)]
        rfl
  · intro request
    rw [call, requestField]
    cases first : first? request.key made.fields with
    | some result =>
        rw [MemoTable.request_of_found ((tracks.fields.found request.key).trans first)]
    | none =>
        rw [MemoTable.request_of_missing ((tracks.fields.found request.key).trans first)]
        rfl

/-- **Every call keeps a memo in step with the requests made.** -/
theorem Tracks.call {made : MemoHistory α ε} {memo : Memo α} (tracks : Tracks made memo)
    (next : MemoCall α ε) : Tracks (made.add next) (memo.call next).2 := by
  obtain ⟨pattern, field⟩ := tracks.call_eq
  cases next with
  | pattern request fields =>
      rw [pattern, MemoHistory.add]
      cases first : first? request.key made.patterns with
      | some result =>
          simp only [Option.isNone_some, Bool.false_eq_true, if_false, List.append_nil]
          exact ⟨tracks.patterns.hit first, tracks.fields⟩
      | none =>
          simp only [Option.isNone_none, if_true]
          exact ⟨tracks.patterns.compiled first, tracks.fields.afterRequests fields⟩
  | field request =>
      rw [Memo.call, requestField]
      exact ⟨tracks.patterns, tracks.fields.request request⟩
  | clear =>
      -- A cleared memo is like a new one, and the history starts again.
      exact ⟨.empty, .empty⟩
  | stats => exact tracks
  | contains pattern => exact tracks
  | size => exact tracks

/-- **After any calls a memo is in step with the requests made.** -/
theorem tracks_after (calls : List (MemoCall α ε)) :
    Tracks (MemoHistory.ofCalls calls) (after calls) := by
  induction calls using List.reverseRecOn with
  | nil => exact ⟨.empty, .empty⟩
  | append_singleton calls next ih =>
      rw [MemoHistory.ofCalls_append_singleton, after_append_singleton]
      exact ih.call next

/-- **A memo is a pair of write-once maps with exact counters.**  After any calls, a request
calls its compilation exactly when none for the same key has returned since the memo was
last cleared.  It is answered with what the compilation comes to, which is kept when it is a
result, or with the first result, whatever the compilation would be.  Patterns and fields
are counted apart: the requests, the calls, the keys with a result and the failures.  Only
patterns are contained and make up the size. -/
theorem after_writeOnce (calls : List (MemoCall α ε)) :
    let memo := after calls
    let made := MemoHistory.ofCalls calls
    (∀ (request : MemoRequest α ε) fields, memo.call (.pattern request fields) =
      match first? request.key made.patterns with
      | some result => (.result (.ok result), { memo with patterns := memo.patterns.hit })
      | none => (.result request.outcome,
          ⟨memo.patterns.compiled request.key request.outcome,
            memo.fields.afterRequests fields⟩)) ∧
    (∀ request : MemoRequest α ε, memo.call (.field request) =
      match first? request.key made.fields with
      | some result => (.result (.ok result), { memo with fields := memo.fields.hit })
      | none => (.result request.outcome,
          { memo with fields := memo.fields.compiled request.key request.outcome })) ∧
    MemoTable.Counts made.patterns memo.stats.patterns memo.stats.patternHits
      memo.stats.patternMisses ∧
    MemoTable.Counts made.fields memo.stats.fields memo.stats.fieldHits
      memo.stats.fieldMisses ∧
    (∀ key, memo.contains key ↔ key ∈ keysReturned made.patterns) ∧
    memo.size = (keysReturned made.patterns).card := by
  intro memo made
  have tracks : Tracks made memo := tracks_after calls
  obtain ⟨pattern, field⟩ := tracks.call_eq
  refine ⟨pattern, field, tracks.patterns.counts, tracks.fields.counts, ?_,
    tracks.patterns.size_eq⟩
  intro key
  rw [← isSome_first?_iff, ← tracks.patterns.found key]
  rfl

end Memo

end PanelClock
