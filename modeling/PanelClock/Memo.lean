import PanelClock.Text.Basic

/-!
# Memo tables

A memo table keeps the result of the first compilation of each key.  A result may be
that there is nothing to keep, which is kept as well; a compilation that fails leaves
the table as it is.  Requests are counted as hits and misses.
-/

set_option autoImplicit false

namespace PanelClock

/-- A table of results with counters. -/
structure MemoTable (α : Type) where
  /-- The result for each key, the latest first. -/
  entries : List (Text × Option α) := []
  hits : Nat := 0
  misses : Nat := 0
  deriving DecidableEq, Repr

namespace MemoTable

variable {α : Type}

/-- The result for a key. -/
def find? (table : MemoTable α) (key : Text) : Option (Option α) := table.entries.lookup key

/-- The key has a result. -/
def contains (table : MemoTable α) (key : Text) : Bool := (table.find? key).isSome

/-- The number of keys with a result. -/
def size (table : MemoTable α) : Nat := table.entries.length

/-- Counts a request that found a result. -/
def hit (table : MemoTable α) : MemoTable α := { table with hits := table.hits + 1 }

/-- Counts a request that found none. -/
def miss (table : MemoTable α) : MemoTable α := { table with misses := table.misses + 1 }

/-- Keeps the result for a key. -/
def store (table : MemoTable α) (key : Text) (result : Option α) : MemoTable α :=
  { table with entries := (key, result) :: table.entries }

/-- The result for a key, compiled when there is none yet. -/
def request {ε : Type} (table : MemoTable α) (key : Text)
    (compile : Text → Except ε (Option α)) : Except ε (Option α) × MemoTable α :=
  match table.find? key with
  | some result => (.ok result, table.hit)
  | none =>
      match compile key with
      | .ok result => (.ok result, table.miss.store key result)
      | .error error => (.error error, table.miss)

end MemoTable

/-- The numbers of results, hits and misses of both tables of a memo. -/
structure MemoStats where
  patterns : Nat
  fields : Nat
  patternHits : Nat
  patternMisses : Nat
  fieldHits : Nat
  fieldMisses : Nat
  deriving DecidableEq, Repr

/-- A memo of whole patterns and of single fields. -/
structure Memo (α : Type) where
  patterns : MemoTable α := {}
  fields : MemoTable α := {}
  deriving DecidableEq, Repr

namespace Memo

variable {α : Type}

/-- The result for a field, compiled when there is none yet. -/
def requestField {ε : Type} (memo : Memo α) (key : Text)
    (compile : Text → Except ε (Option α)) : Except ε (Option α) × Memo α :=
  let (result, fields) := memo.fields.request key compile
  (result, { memo with fields := fields })

/-- The result for a pattern, compiled when there is none yet.  The compilation may
request fields and hands on the table of fields. -/
def requestPattern {ε : Type} (memo : Memo α) (key : Text)
    (compile : Text → MemoTable α → Except ε (Option α) × MemoTable α) :
    Except ε (Option α) × Memo α :=
  match memo.patterns.find? key with
  | some result => (.ok result, { memo with patterns := memo.patterns.hit })
  | none =>
      match compile key memo.fields with
      | (.ok result, fields) => (.ok result, ⟨memo.patterns.miss.store key result, fields⟩)
      | (.error error, fields) => (.error error, ⟨memo.patterns.miss, fields⟩)

/-- A memo has a result for a pattern. -/
def contains (memo : Memo α) (pattern : Text) : Bool := memo.patterns.contains pattern

/-- The number of patterns with a result. -/
def size (memo : Memo α) : Nat := memo.patterns.size

/-- Drops all results and counts anew. -/
def clear (_ : Memo α) : Memo α := {}

/-- The numbers of results, hits and misses. -/
def stats (memo : Memo α) : MemoStats where
  patterns := memo.patterns.size
  fields := memo.fields.size
  patternHits := memo.patterns.hits
  patternMisses := memo.patterns.misses
  fieldHits := memo.fields.hits
  fieldMisses := memo.fields.misses

end Memo

end PanelClock
