import Mathlib.Data.Finset.Card
import Mathlib.Data.List.Nodup
import PanelClock.Pattern.Shared
import PanelClock.Proofs.Lookup

/-!
# The shared table forgets the formatter that was not asked for the longest

A run of calls asks for formatters, some of which do not exist, and drops all of
them now and then.  The environment may change from call to call.  What each call
brought about is kept as a list of events, the latest first.

The specification is the *recency list* of the events: every key obtained since
all formatters were last dropped, once, the latest first, with the formatter that
was obtained under it.  It is never cut.  The invariant of a run is that the table
holds the first 64 entries of the recency list in reverse
(`SharedFormatters.tracks_run`).  A key stands in the recency list behind exactly
the other keys that were obtained after it, so that a formatter is found again
exactly when there are fewer than 64 of those (`SharedFormatters.get_latest_iff`).
-/

set_option autoImplicit false

namespace PanelClock

namespace SharedFormatters

/-! ## What asking for a formatter can do -/

/-- The table with a new formatter, the first entry dropped when there are too many. -/
def insert (table : SharedFormatters) (key : SharedKey) (formatter : PatternFormatter) :
    SharedFormatters :=
  let entries := touch table.entries key ⟨table.next, formatter⟩
  ⟨if capacity < entries.length then entries.drop 1 else entries, table.next + 1⟩

/-- **Asking for a formatter finds it and moves it to the end, or fails and changes
nothing, or builds a new one with the next number.** -/
theorem get_cases (system : System) (table : SharedFormatters) (locale zone : Setting) :
    (∃ shared, table.entries.lookup (key locale zone) = some shared ∧
      table.get system locale zone =
        (.ok shared, { table with entries := touch table.entries (key locale zone) shared })) ∨
    (∃ failure, table.entries.lookup (key locale zone) = none ∧
      system.freshFormatter locale zone = .error failure ∧
      table.get system locale zone = (.error failure, table)) ∨
    (∃ formatter, table.entries.lookup (key locale zone) = none ∧
      system.freshFormatter locale zone = .ok formatter ∧
      table.get system locale zone =
        (.ok ⟨table.next, formatter⟩, table.insert (key locale zone) formatter)) := by
  cases found : table.entries.lookup (key locale zone) with
  | some shared =>
      refine .inl ⟨shared, rfl, ?_⟩
      rw [get, found]
  | none =>
      cases built : system.freshFormatter locale zone with
      | error failure =>
          refine .inr (.inl ⟨failure, rfl, rfl, ?_⟩)
          simp only [get, found, built]
      | ok formatter =>
          refine .inr (.inr ⟨formatter, rfl, rfl, ?_⟩)
          simp only [get, found, built, insert]

/-! ## Runs -/

/-- A call on the shared table. -/
inductive Call where
  /-- A formatter is asked for, in the environment as it is then. -/
  | get (system : System) (locale zone : Setting)
  /-- All formatters are dropped. -/
  | clear

/-- What a call brings about. -/
inductive Event where
  | obtained (key : SharedKey) (shared : SharedFormatter)
  | refused (failure : Failure Fault)
  | cleared

/-- What a call brings about, and the table after it. -/
def call (table : SharedFormatters) : Call → Event × SharedFormatters
  | .get system locale zone =>
      match table.get system locale zone with
      | (.ok shared, later) => (.obtained (key locale zone) shared, later)
      | (.error failure, later) => (.refused failure, later)
  | .clear => (.cleared, table.clear)

/-- The events of a run that starts without shared formatters, the latest first, and the
table at its end. -/
def run (calls : List Call) : List Event × SharedFormatters :=
  calls.foldl
    (fun state next =>
      let (event, table) := state.2.call next
      (event :: state.1, table))
    ([], {})

theorem run_append_singleton (calls : List Call) (next : Call) :
    run (calls ++ [next]) =
      (((run calls).2.call next).1 :: (run calls).1, ((run calls).2.call next).2) := by
  simp [run]

/-- The keys that were obtained in events. -/
def keysObtained : List Event → List SharedKey
  | [] => []
  | .obtained key _ :: before => key :: keysObtained before
  | _ :: before => keysObtained before

/-- A formatter is the one of the latest event that obtained a key, and the events after
that one are given. -/
def Latest (key : SharedKey) (events : List Event) (shared : SharedFormatter)
    (since : List Event) : Prop :=
  ∃ before, events = since ++ .obtained key shared :: before ∧ key ∉ keysObtained since

/-! ## The recency list -/

/-- Every key obtained since all formatters were last dropped, the latest first, with the
formatter that was obtained under it. -/
def recent : List Event → List (SharedKey × SharedFormatter)
  | [] => []
  | .obtained key shared :: before => (key, shared) :: (recent before).filter (·.1 ≠ key)
  | .refused _ :: before => recent before
  | .cleared :: _ => []

/-- No key stands in the recency list twice. -/
theorem recent_nodup (events : List Event) : ((recent events).map Prod.fst).Nodup := by
  induction events with
  | nil => exact List.nodup_nil
  | cons event before ih =>
      cases event with
      | obtained key shared =>
          refine List.nodup_cons.mpr ⟨by simp, ?_⟩
          exact ih.sublist (List.Sublist.map _ List.filter_sublist)
      | refused failure => exact ih
      | cleared => exact List.nodup_nil

/-- Until formatters are dropped, the keys of the recency list are those obtained. -/
theorem mem_recent_keys_iff {events : List Event} (kept : .cleared ∉ events) (key : SharedKey) :
    key ∈ (recent events).map Prod.fst ↔ key ∈ keysObtained events := by
  induction events with
  | nil => rfl
  | cons event before ih =>
      have later := ih fun member => kept (List.mem_cons_of_mem _ member)
      cases event with
      | obtained other shared =>
          by_cases same : key = other
          · simp [recent, keysObtained, same]
          · simp only [List.mem_map] at later
            simp [recent, keysObtained, same, ← later]
      | refused failure => exact later
      | cleared => exact absurd List.mem_cons_self kept

/-- Until formatters are dropped, the recency list has one entry for each key obtained. -/
theorem length_recent {events : List Event} (kept : .cleared ∉ events) :
    (recent events).length = (keysObtained events).toFinset.card := by
  have same : ((recent events).map Prod.fst).toFinset = (keysObtained events).toFinset := by
    ext key
    simpa using mem_recent_keys_iff kept key
  rw [← same, List.toFinset_card_of_nodup (recent_nodup events), List.length_map]

/-- Later events stand in front, and push out the keys that they obtain. -/
theorem recent_append {since before : List Event} (kept : .cleared ∉ since) :
    recent (since ++ before) =
      recent since ++ (recent before).filter (·.1 ∉ keysObtained since) := by
  induction since with
  | nil => simp [recent, keysObtained]
  | cons event since ih =>
      have later := ih fun member => kept (List.mem_cons_of_mem _ member)
      cases event with
      | obtained key shared =>
          simp only [List.cons_append, recent, keysObtained, later, List.filter_append,
            List.filter_filter]
          congr 3
          ext entry
          simp [not_or]
      | refused failure => exact later
      | cleared => exact absurd List.mem_cons_self kept

/-- **A key stands in the recency list behind the keys obtained after it.** -/
theorem recent_of_latest {key : SharedKey} {events since : List Event} {shared : SharedFormatter}
    (latest : Latest key events shared since) (kept : .cleared ∉ since) :
    ∃ older, recent events = recent since ++ (key, shared) :: older := by
  obtain ⟨before, rfl, fresh⟩ := latest
  rw [recent_append kept, recent, List.filter_cons_of_pos (by simpa using fresh)]
  exact ⟨_, rfl⟩

/-- An entry of the recency list was obtained last, and nothing was dropped since. -/
theorem latest_of_mem_recent {key : SharedKey} {events : List Event} {shared : SharedFormatter}
    (member : (key, shared) ∈ recent events) :
    ∃ since, Latest key events shared since ∧ .cleared ∉ since := by
  induction events with
  | nil => simp [recent] at member
  | cons event before ih =>
      cases event with
      | obtained other value =>
          rcases List.mem_cons.mp member with here | later
          · cases here
            exact ⟨[], ⟨before, rfl, List.not_mem_nil⟩, List.not_mem_nil⟩
          · obtain ⟨earlier, different⟩ := List.mem_filter.mp later
            obtain ⟨since, ⟨rest, rfl, fresh⟩, kept⟩ := ih earlier
            refine ⟨.obtained other value :: since, ⟨rest, rfl, ?_⟩, by simpa using kept⟩
            simpa [keysObtained, fresh] using different
      | refused failure =>
          obtain ⟨since, ⟨rest, rfl, fresh⟩, kept⟩ := ih member
          exact ⟨.refused failure :: since, ⟨rest, rfl, fresh⟩, by simpa using kept⟩
      | cleared => simp [recent] at member

/-! ## The table holds the start of the recency list -/

/-- Nothing is taken out for a key that no entry has. -/
theorem filter_ne_eq_self {entries : List (SharedKey × SharedFormatter)} {key : SharedKey}
    (absent : key ∉ entries.map Prod.fst) : entries.filter (·.1 ≠ key) = entries := by
  refine List.filter_eq_self.mpr fun entry member => ?_
  have different : entry.1 ≠ key := fun equal =>
    absent (equal ▸ List.mem_map_of_mem (f := Prod.fst) member)
  simpa using different

/-- Taking out a key before or after a cut is the same to one entry less. -/
theorem take_filter_ne {entries : List (SharedKey × SharedFormatter)}
    (nodup : (entries.map Prod.fst).Nodup) (key : SharedKey) (size : Nat) :
    ((entries.take (size + 1)).filter (·.1 ≠ key)).take size =
      (entries.filter (·.1 ≠ key)).take size := by
  induction entries generalizing size with
  | nil => rfl
  | cons entry entries ih =>
      obtain ⟨fresh, later⟩ := List.nodup_cons.mp nodup
      by_cases same : entry.1 = key
      · -- The key is gone from the rest, of which nothing is taken out.
        subst same
        have freshTake : entry.1 ∉ (entries.take size).map Prod.fst := fun member =>
          fresh (List.Sublist.subset (List.Sublist.map _ (List.take_sublist _ _)) member)
        rw [List.take_succ_cons, List.filter_cons_of_neg (by simp),
          List.filter_cons_of_neg (by simp), filter_ne_eq_self fresh,
          filter_ne_eq_self freshTake, List.take_take, Nat.min_self]
      · rw [List.take_succ_cons, List.filter_cons_of_pos (by simpa using same),
          List.filter_cons_of_pos (by simpa using same)]
        cases size with
        | zero => rfl
        | succ size => rw [List.take_succ_cons, List.take_succ_cons, ih later]

/-- What a run keeps: the table holds the first entries of the recency list in reverse, and
every number given out so far is smaller than the next one. -/
structure Tracks (events : List Event) (table : SharedFormatters) : Prop where
  entries : table.entries = ((recent events).take capacity).reverse
  numbers : ∀ key shared, .obtained key shared ∈ events → shared.number < table.next

namespace Tracks

variable {events : List Event} {table : SharedFormatters}

/-- The table finds exactly what stands in the first entries of the recency list. -/
theorem lookup_eq_some_iff (tracks : Tracks events table) {key : SharedKey}
    {shared : SharedFormatter} :
    table.entries.lookup key = some shared ↔ (key, shared) ∈ (recent events).take capacity := by
  have nodup : (((recent events).take capacity).reverse.map Prod.fst).Nodup := by
    rw [List.map_reverse, List.nodup_reverse]
    exact (recent_nodup events).sublist (List.Sublist.map _ (List.take_sublist _ _))
  rw [tracks.entries, lookup_eq_some_iff_mem nodup, List.mem_reverse]

theorem lookup_eq_none_iff (tracks : Tracks events table) {key : SharedKey} :
    table.entries.lookup key = none ↔ key ∉ ((recent events).take capacity).map Prod.fst := by
  rw [tracks.entries, List.lookup_eq_none_iff]
  simp only [List.mem_reverse, bne_iff_ne, ne_eq, List.mem_map, not_exists, not_and]
  exact ⟨fun none entry member equal => none entry member equal.symm,
    fun none entry member equal => none entry member equal.symm⟩

/-- The table never holds more formatters than it has room for. -/
theorem length_le (tracks : Tracks events table) : table.entries.length ≤ capacity := by
  rw [tracks.entries, List.length_reverse]
  exact List.length_take_le _ _

/-- What the table holds besides a key, which is the start of the recency list without it. -/
theorem filter_entries (tracks : Tracks events table) (key : SharedKey) :
    table.entries.filter (·.1 ≠ key) =
      (((recent events).take capacity).filter (·.1 ≠ key)).reverse := by
  rw [tracks.entries, List.filter_reverse]

/-- A formatter that is found moves to the end. -/
theorem found (tracks : Tracks events table) {key : SharedKey} {shared : SharedFormatter}
    (present : table.entries.lookup key = some shared) :
    Tracks (.obtained key shared :: events)
      { table with entries := touch table.entries key shared } := by
  have member := tracks.lookup_eq_some_iff.mp present
  refine ⟨?_, ?_⟩
  · -- One entry is taken out of at most 64, so the cut after 63 takes away nothing.
    have shorter : (((recent events).take capacity).filter (·.1 ≠ key)).length < capacity :=
      Nat.lt_of_lt_of_le
        (List.length_filter_lt_length_iff_exists.mpr ⟨_, member, by simp⟩)
        (List.length_take_le _ _)
    have cut := take_filter_ne (recent_nodup events) key (capacity - 1)
    rw [List.take_of_length_le (by exact Nat.le_sub_one_of_lt shorter)] at cut
    show touch table.entries key shared =
      ((recent (.obtained key shared :: events)).take capacity).reverse
    rw [touch, tracks.filter_entries]
    show _ = ((_ :: (recent events).filter (·.1 ≠ key)).take (capacity - 1 + 1)).reverse
    rw [List.take_succ_cons, List.reverse_cons, ← cut]
    rfl
  · intro other value obtained
    rcases List.mem_cons.mp obtained with here | before
    · cases here
      obtain ⟨since, ⟨rest, equal, _⟩, _⟩ := latest_of_mem_recent (List.mem_of_mem_take member)
      exact tracks.numbers key shared (by simp [equal])
    · exact tracks.numbers other value before

/-- A new formatter comes last, and the first one goes when there are too many. -/
theorem inserted (tracks : Tracks events table) {key : SharedKey} (formatter : PatternFormatter)
    (absent : table.entries.lookup key = none) :
    Tracks (.obtained key ⟨table.next, formatter⟩ :: events) (table.insert key formatter) := by
  have whole : ((recent events).take capacity).filter (·.1 ≠ key) =
      (recent events).take capacity :=
    filter_ne_eq_self (tracks.lookup_eq_none_iff.mp absent)
  refine ⟨?_, ?_⟩
  · have cut := take_filter_ne (recent_nodup events) key (capacity - 1)
    have taken : (((recent events).take (capacity - 1 + 1)).filter (·.1 ≠ key)) =
        (recent events).take capacity := whole
    rw [taken, List.take_take, Nat.min_eq_left (Nat.sub_le _ _)] at cut
    show (if capacity < (touch table.entries key ⟨table.next, formatter⟩).length then _ else _) =
      ((_ :: (recent events).filter (·.1 ≠ key)).take (capacity - 1 + 1)).reverse
    rw [touch, tracks.filter_entries, whole, List.take_succ_cons, List.reverse_cons, ← cut]
    generalize kept : (recent events).take capacity = entries
    have bound : entries.length ≤ capacity := kept ▸ List.length_take_le _ _
    have start : (recent events).take (capacity - 1) = entries.take (capacity - 1) := by
      rw [← kept, List.take_take, Nat.min_eq_left (Nat.sub_le _ _)]
    rw [start]
    by_cases full : entries.length = capacity
    · -- The table is full: the entry that is dropped is the last of those kept so far.
      have nonempty : entries.reverse ≠ [] := by
        rw [ne_eq, List.reverse_eq_nil_iff, ← List.length_eq_zero_iff, full]
        decide
      rw [if_pos (by simp [full]), List.drop_one, List.tail_append_of_ne_nil nonempty,
        List.tail_reverse, List.dropLast_eq_take, full]
    · rw [if_neg (by simp; omega), List.take_of_length_le (by omega)]
  · intro other value obtained
    show value.number < table.next + 1
    rcases List.mem_cons.mp obtained with here | before
    · cases here
      exact Nat.lt_succ_self _
    · exact Nat.lt_succ_of_lt (tracks.numbers other value before)

/-- **One call keeps the invariant.** -/
theorem call (tracks : Tracks events table) (next : Call) :
    Tracks ((table.call next).1 :: events) (table.call next).2 := by
  cases next with
  | clear =>
      refine ⟨rfl, fun key shared obtained => ?_⟩
      rcases List.mem_cons.mp obtained with here | before
      · cases here
      · exact tracks.numbers key shared before
  | get system locale zone =>
      rcases get_cases system table locale zone with
        ⟨shared, present, result⟩ | ⟨failure, _, _, result⟩ | ⟨formatter, absent, _, result⟩
      · rw [SharedFormatters.call, result]
        exact tracks.found present
      · rw [SharedFormatters.call, result]
        refine ⟨tracks.entries, fun key shared obtained => ?_⟩
        rcases List.mem_cons.mp obtained with here | before
        · cases here
        · exact tracks.numbers key shared before
      · rw [SharedFormatters.call, result]
        exact tracks.inserted formatter absent

end Tracks

/-- **After every run the table holds the first entries of the recency list.** -/
theorem tracks_run (calls : List Call) : Tracks (run calls).1 (run calls).2 := by
  induction calls using List.reverseRecOn with
  | nil => exact ⟨rfl, by simp [run]⟩
  | append_singleton calls next ih =>
      rw [run_append_singleton]
      exact ih.call next

/-- A key is among the first entries of the recency list exactly when it was obtained, and
since then nothing was dropped and fewer other keys were obtained than there is room for. -/
theorem mem_take_recent_iff {events : List Event} {key : SharedKey} {size : Nat} :
    key ∈ ((recent events).take size).map Prod.fst ↔
      ∃ shared since, Latest key events shared since ∧ .cleared ∉ since ∧
        (keysObtained since).toFinset.card < size := by
  constructor
  · intro member
    obtain ⟨⟨_, shared⟩, taken, rfl⟩ := List.mem_map.mp member
    obtain ⟨since, latest, kept⟩ := latest_of_mem_recent (List.mem_of_mem_take taken)
    refine ⟨shared, since, latest, kept, ?_⟩
    obtain ⟨older, split⟩ := recent_of_latest latest kept
    rw [← length_recent kept]
    by_contra far
    -- Beyond the cut the key would stand in the list a second time.
    have nodup := recent_nodup events
    rw [split, List.take_append_of_le_length (Nat.le_of_not_lt far)] at taken
    rw [split, List.map_append, List.map_cons] at nodup
    exact (List.nodup_append.mp nodup).2.2 _
      (List.mem_map_of_mem (List.mem_of_mem_take taken)) _ List.mem_cons_self rfl
  · rintro ⟨shared, since, latest, kept, near⟩
    obtain ⟨older, split⟩ := recent_of_latest latest kept
    rw [← length_recent kept] at near
    rw [split]
    refine List.mem_map_of_mem (f := Prod.fst) (a := (key, shared)) ?_
    rw [List.take_append, List.take_of_length_le (Nat.le_of_lt near)]
    obtain ⟨more, room⟩ : ∃ more, size - (recent since).length = more + 1 :=
      ⟨size - (recent since).length - 1, by omega⟩
    rw [room, List.take_succ_cons]
    exact List.mem_append_right _ List.mem_cons_self

/-- **The shared table keeps exactly the 64 keys that were obtained last.**  A formatter
that is obtained is the one of the latest earlier success under its key if and only if
there is one, nothing was dropped since, and at most 63 other keys were obtained in
between.  There are never more than 64 formatters, and a failure changes nothing. -/
theorem get_latest_iff (calls : List Call) (system : System) (locale zone : Setting) :
    (∀ shared, ((run calls).2.get system locale zone).1 = .ok shared →
      ((∃ earlier since, Latest (key locale zone) (run calls).1 earlier since ∧
          earlier.number = shared.number) ↔
        ∃ earlier since, Latest (key locale zone) (run calls).1 earlier since ∧
          .cleared ∉ since ∧ (keysObtained since).toFinset.card ≤ 63)) ∧
    (run calls).2.entries.length ≤ 64 ∧
    (∀ failure, ((run calls).2.get system locale zone).1 = .error failure →
      ((run calls).2.get system locale zone).2 = (run calls).2) := by
  have tracks := tracks_run calls
  have near : key locale zone ∈ ((recent (run calls).1).take capacity).map Prod.fst ↔
      ∃ earlier since, Latest (key locale zone) (run calls).1 earlier since ∧
        .cleared ∉ since ∧ (keysObtained since).toFinset.card ≤ 63 := by
    rw [mem_take_recent_iff]
    simp only [capacity, Nat.lt_succ_iff]
  refine ⟨fun shared success => ?_, tracks.length_le, fun failure failed => ?_⟩
  · rw [← near]
    rcases get_cases system (run calls).2 locale zone with
      ⟨found, present, result⟩ | ⟨failure, _, _, result⟩ | ⟨formatter, absent, _, result⟩
    · -- What is found was obtained last under its key.
      rw [result] at success
      cases success
      have member := tracks.lookup_eq_some_iff.mp present
      obtain ⟨since, latest, _⟩ := latest_of_mem_recent (List.mem_of_mem_take member)
      exact ⟨fun _ => List.mem_map_of_mem (f := Prod.fst) member,
        fun _ => ⟨shared, since, latest, rfl⟩⟩
    · rw [result] at success
      cases success
    · -- What is built has a number that no earlier one has.
      rw [result] at success
      cases success
      constructor
      · rintro ⟨earlier, since, ⟨before, events, _⟩, same⟩
        have smaller := tracks.numbers (key locale zone) earlier (by simp [events])
        exact absurd same (Nat.ne_of_lt smaller)
      · exact fun member => absurd member (tracks.lookup_eq_none_iff.mp absent)
  · rcases get_cases system (run calls).2 locale zone with
      ⟨found, _, result⟩ | ⟨_, _, _, result⟩ | ⟨formatter, _, _, result⟩
    · rw [result] at failed
      cases failed
    · rw [result]
    · rw [result] at failed
      cases failed

/-- Nothing, an empty text and the word for the default ask for one formatter, which is
found again after another one was obtained and one was refused. -/
theorem get_latest_default :
    let calls : List Call := [.get .standard none (some "UTC"),
      .get .standard (some []) (some "+01:00"), .get .standard none (some "nowhere")]
    ∃ shared, ((run calls).2.get .standard (some "default") (some "UTC")).1 = .ok shared ∧
      shared.number = 0 ∧
      ((∃ earlier since, Latest ("default", "UTC") (run calls).1 earlier since ∧
          earlier.number = shared.number) ↔
        ∃ earlier since, Latest ("default", "UTC") (run calls).1 earlier since ∧
          .cleared ∉ since ∧ (keysObtained since).toFinset.card ≤ 63) := by
  intro calls
  have number : (((run calls).2.get .standard (some "default") (some "UTC")).1.map
      SharedFormatter.number).toOption = some 0 := by decide +kernel
  cases asked : ((run calls).2.get .standard (some "default") (some "UTC")).1 with
  | error failure =>
      rw [asked] at number
      cases number
  | ok shared =>
      rw [asked] at number
      refine ⟨shared, rfl, Option.some.inj number, ?_⟩
      exact (get_latest_iff calls .standard (some "default") (some "UTC")).1 shared asked

end SharedFormatters

end PanelClock
