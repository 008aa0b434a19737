import PanelClock.Proofs.LoadAccounts

/-!
# Queries of a registry

A registry keeps a table of explicit registrations, a table of what the last load made
known, and whether a load has succeeded.  Each query reads these in its own way.  This
module shows that they are views of one map: the keys of what is known.

What makes the views agree is that no key is known twice (`RegistryRun.Distinct`).  Every
step keeps this where the built-in tables have no key twice (`RegistryRun.Distinct.take`).
Then looking up finds exactly the members, and sorting puts the keys in strictly ascending
order (`Registry.sortedKeys_strict`).

Before the first successful load nothing is known, whatever has been registered, and the
queries that need a load are refused (`RegistryRun.queries_are_views`).
-/

set_option autoImplicit false

namespace PanelClock

variable {κ : Type}

/-! ## Keys in order -/

/-- A text precedes another one exactly when it is less in the order by characters, which
compare by their code points. -/
theorem Text.precedes_iff_lt (first second : Text) :
    first.precedes second = true ↔ first < second := by
  induction first generalizing second with
  | nil => cases second <;> simp [precedes]
  | cons c rest ih =>
      cases second with
      | nil => simp [precedes]
      | cons d others =>
          rw [precedes, List.cons_lt_cons_iff]
          by_cases same : c = d
          · subst same
            rw [if_pos rfl, ih others]
            simp only [Char.lt_irrefl, true_and, false_or]
          · rw [if_neg same]
            simp [same, Char.lt_def]

namespace Registry

/-- Of sorted entries no later one has a key that is less. -/
theorem sortEntries_ascending (entries : List (Text × κ)) :
    (sortEntries entries).Pairwise fun first second => ¬second.1 < first.1 := by
  have order (first second : Text × κ) :
      (!second.1.precedes first.1) = true ↔ ¬second.1 < first.1 := by
    rw [Bool.not_eq_true', ← Bool.not_eq_true, Text.precedes_iff_lt]
  have sorted : (sortEntries entries).Pairwise fun first second =>
      (!second.1.precedes first.1) = true := by
    apply List.pairwise_mergeSort
    · intro first second third
      rw [order, order, order, List.not_lt, List.not_lt, List.not_lt]
      exact List.le_trans
    · intro first second
      rw [Bool.or_eq_true, order, order, List.not_lt, List.not_lt]
      exact List.le_total _ _
  refine sorted.imp ?_
  intro first second ordered
  exact (order first second).mp ordered

theorem mem_sortedKeys_iff {entries : List (Text × κ)} {key : Text} :
    key ∈ sortedKeys entries ↔ (entries.lookup key).isSome := by
  rw [isSome_lookup_iff_mem, (sortedKeys_perm entries).mem_iff]

/-- **Keys that are distinct are strictly ascending once they are sorted.** -/
theorem sortedKeys_strict {entries : List (Text × κ)}
    (distinct : (entries.map Prod.fst).Nodup) : (sortedKeys entries).Pairwise (· < ·) := by
  have ascending : (sortedKeys entries).Pairwise fun first second => ¬second < first :=
    List.pairwise_map.mpr (sortEntries_ascending entries)
  have apart : (sortedKeys entries).Nodup := (sortedKeys_perm entries).nodup_iff.mpr distinct
  refine (ascending.and apart).imp ?_
  rintro first second ⟨ordered, different⟩
  exact (List.le_iff_lt_or_eq.mp (List.not_lt.mp ordered)).resolve_right different

/-! ## Queries that go through other queries -/

section Queries

variable (profileOf : κ → Profile) (registry : Registry κ)

theorem help_eq_map (key : Text) :
    registry.help profileOf key =
      (registry.get key).map fun variant => (profileOf variant).help := by
  unfold help
  cases registry.get key <;> rfl

theorem describe_eq_map (key : Text) :
    registry.describe profileOf key = (registry.get key).map fun variant =>
      { toProfile := profileOf variant, key := key } := by
  unfold describe
  cases registry.get key <;> rfl

/-- A line of the listing, as an entry gives it. -/
def listingOf (entry : Text × κ) : VariantListing :=
  ⟨entry.1, (profileOf entry.2).label, (profileOf entry.2).description⟩

theorem listings_eq_map :
    registry.listings profileOf = registry.known.map fun entries =>
      ((sortEntries entries).filter (!isHidden ·.1)).map (listingOf profileOf) := by
  unfold listings visible
  cases registry.known <;> rfl

end Queries

/-! ## Views of a registry that is loaded -/

section Loaded

variable {registry : Registry κ} (loaded : registry.loaded = true)

include loaded

theorem contains_iff_mem_sortedKeys (key : Text) :
    registry.contains key = true ↔ key ∈ sortedKeys registry.formatters := by
  rw [mem_sortedKeys_iff, contains, loaded, Bool.true_and]

/-- The queries for a listed key give its variant and what its profile tells of it. -/
theorem queries_of_mem (profileOf : κ → Profile) {key : Text}
    (member : key ∈ sortedKeys registry.formatters) :
    ∃ variant, registry.get key = .ok variant ∧
      registry.help profileOf key = .ok (profileOf variant).help ∧
      registry.describe profileOf key = .ok { toProfile := profileOf variant, key := key } := by
  obtain ⟨variant, found⟩ := Option.isSome_iff_exists.mp (mem_sortedKeys_iff.mp member)
  have answer : registry.get key = .ok variant := by rw [get_eq loaded, found]
  exact ⟨variant, answer, by rw [help_eq_map, answer]; rfl, by rw [describe_eq_map, answer]; rfl⟩

/-- The queries for a key that is not listed are refused. -/
theorem queries_of_not_mem (profileOf : κ → Profile) {key : Text}
    (absent : key ∉ sortedKeys registry.formatters) :
    let missing : ClockError := .ofCause .formatterNotFound (.formatterNotFound key)
    registry.get key = .error missing ∧ registry.help profileOf key = .error missing ∧
      registry.describe profileOf key = .error missing := by
  intro missing
  rw [mem_sortedKeys_iff, Option.not_isSome_iff_eq_none] at absent
  have answer : registry.get key = .error missing := by rw [get_eq loaded, absent]
  exact ⟨answer, by rw [help_eq_map, answer]; rfl, by rw [describe_eq_map, answer]; rfl⟩

/-- **The listing has a line for each key that is not hidden**, with what the description of
the key tells, where no key is known twice. -/
theorem listings_of_distinct (profileOf : κ → Profile)
    (distinct : (registry.formatters.map Prod.fst).Nodup) :
    ∃ listed, registry.listings profileOf = .ok listed ∧
      listed.map (·.key) = (sortedKeys registry.formatters).filter (!isHidden ·) ∧
      ∀ entry ∈ listed, ∃ descriptor, registry.describe profileOf entry.key = .ok descriptor ∧
        entry.label = descriptor.label ∧ entry.description = descriptor.description := by
  refine ⟨_, by rw [listings_eq_map, known_eq_ok loaded]; rfl, ?_, ?_⟩
  · rw [sortedKeys, List.filter_map, List.map_map]
    rfl
  · intro listing member
    obtain ⟨entry, among, rfl⟩ := List.mem_map.mp member
    have known : entry ∈ registry.formatters :=
      (sortEntries_perm _).mem_iff.mp (List.mem_of_mem_filter among)
    have found : registry.formatters.lookup entry.1 = some entry.2 :=
      (lookup_eq_some_iff_mem distinct).mpr known
    refine ⟨{ toProfile := profileOf entry.2, key := entry.1 }, ?_, rfl, rfl⟩
    rw [listingOf, describe_eq_map, get_eq loaded, found]
    rfl

end Loaded

/-! ## A registry that is not loaded -/

/-- The queries that need a load are refused before there is one. -/
theorem queries_of_not_loaded (profileOf : κ → Profile) {registry : Registry κ}
    (unloaded : registry.loaded = false) :
    let refusal : ClockError := .ofCause .discovery .registryNotLoaded
    registry.listings profileOf = .error refusal ∧ registry.keys = .error refusal ∧
      ∀ key, registry.contains key = false ∧ registry.get key = .error refusal ∧
        registry.help profileOf key = .error refusal ∧
        registry.describe profileOf key = .error refusal := by
  intro refusal
  have known : registry.known = .error refusal := by
    rw [Registry.known, unloaded]
    rfl
  have answer (key : Text) : registry.get key = .error refusal := by
    rw [get, known]
    rfl
  refine ⟨by rw [listings_eq_map, known]; rfl, by rw [keys, known]; rfl, fun key => ?_⟩
  refine ⟨by rw [contains, unloaded, Bool.false_and], answer key, ?_, ?_⟩
  · rw [help_eq_map, answer]
    rfl
  · rw [describe_eq_map, answer]
    rfl

end Registry

/-! ## Over a run -/

namespace RegistryRun

/-- No key stands twice in the built-in table of a load that waits, and none in what is
known. -/
structure Distinct (run : RegistryRun κ) : Prop where
  waiting : ∀ sources ∈ run.waiting, (sources.builtins.map Prod.fst).Nodup
  known : (run.registry.formatters.map Prod.fst).Nodup

/-- A registration is known under a key that was free, or not at all. -/
theorem Distinct.register {run : RegistryRun κ} (distinct : Distinct run) (key : Text)
    (outcome : LoadOutcome κ) : Distinct (run.register key outcome) := by
  unfold RegistryRun.register
  cases result : run.registry.register key outcome with
  | error fault => exact distinct
  | ok later =>
      obtain ⟨variant, rfl, -, unknown, rfl⟩ :=
        (run.registry.register_eq_ok_iff key outcome later).mp result
      refine ⟨distinct.waiting, ?_⟩
      dsimp only
      split
      · rw [List.map_append, List.map_singleton, ← List.concat_eq_append]
        exact distinct.known.concat (lookup_eq_none_iff_notMem.mp unknown)
      · exact distinct.known

/-- A load makes each key known once. -/
theorem Distinct.finish {run : RegistryRun κ} (distinct : Distinct run)
    {sources : VariantSources κ} (table : (sources.builtins.map Prod.fst).Nodup) :
    Distinct (run.finish sources) := by
  unfold RegistryRun.finish
  refine ⟨distinct.waiting, ?_⟩
  dsimp only
  rcases run.registry.finishLoad_cases sources.discover.1 with
    ⟨error, -, same⟩ | ⟨found, discovered, -, changed⟩
  · rw [same]
    exact distinct.known
  · rw [changed]
    have once := VariantSources.discover_division table discovered [] (List.Subset.refl _)
    exact Registry.override_nodup run.registry.explicit once.1

/-- **Every step keeps keys distinct**, where a load that starts has a built-in table without
a key that stands twice. -/
theorem Distinct.take {run : RegistryRun κ} (distinct : Distinct run) {step : RegistryStep κ}
    (table : ∀ sources, step = .start sources → (sources.builtins.map Prod.fst).Nodup) :
    Distinct (run.take step) := by
  cases step with
  | register key outcome => exact distinct.register key outcome
  | start sources =>
      refine ⟨List.forall_mem_append.mpr ⟨distinct.waiting, ?_⟩, distinct.known⟩
      rw [List.forall_mem_singleton]
      exact table sources rfl
  | finish place =>
      rw [RegistryRun.take]
      split
      · next sources waits =>
          have rest : Distinct { run with waiting := run.waiting.eraseIdx place } :=
            ⟨fun other member => distinct.waiting other (List.mem_of_mem_eraseIdx member),
              distinct.known⟩
          exact rest.finish (distinct.waiting sources (List.mem_of_getElem? waits))
      · exact distinct

theorem distinct_after {steps : List (RegistryStep κ)}
    (tables : ∀ sources, .start sources ∈ steps → (sources.builtins.map Prod.fst).Nodup) :
    Distinct (after steps) := by
  induction steps using List.reverseRecOn with
  | nil => exact ⟨nofun, List.nodup_nil⟩
  | append_singleton steps step ih =>
      rw [after_append]
      refine (ih fun sources member => tables sources (List.mem_append_left _ member)).take ?_
      rintro sources rfl
      exact tables sources (List.mem_append_right _ List.mem_cons_self)

/-- Before the first successful load nothing is known. -/
theorem Agrees.formatters_eq_nil {run : RegistryRun κ} (agrees : Agrees run)
    (never : run.loads = []) : run.registry.formatters = [] := by
  rw [eq_nil_iff_lookup_eq_none]
  intro key
  rw [agrees.known, never]
  rfl

/-- **All queries are views of one map.**  After any registrations and loads, where the
built-in tables have no key twice: before the first successful load the queries that need one
are refused, no key is contained and there are no variants, whatever has been registered.
After it the keys are listed in strictly ascending order and are as many as there are
variants.  A key is listed exactly when it is contained, and exactly when its variant is
found; then its help and its description are those of the variant, and otherwise all three
are refused as not found.  The listing has the keys that do not start with an underscore, in
the same order, with the labels and the descriptions of their descriptors. -/
theorem queries_are_views (profileOf : κ → Profile) (steps : List (RegistryStep κ))
    (tables : ∀ sources, .start sources ∈ steps → (sources.builtins.map Prod.fst).Nodup) :
    let run := after steps
    let registry := run.registry
    let unloaded : ClockError := .ofCause .discovery .registryNotLoaded
    let missing (key : Text) : ClockError := .ofCause .formatterNotFound (.formatterNotFound key)
    (run.loads = [] →
      registry.listings profileOf = .error unloaded ∧ registry.keys = .error unloaded ∧
        (∀ key, registry.contains key = false ∧ registry.get key = .error unloaded ∧
          registry.help profileOf key = .error unloaded ∧
          registry.describe profileOf key = .error unloaded) ∧
        registry.size = 0) ∧
      (run.loads ≠ [] → ∃ keys listed,
        registry.keys = .ok keys ∧ keys.Pairwise (· < ·) ∧ keys.length = registry.size ∧
          (∀ key, registry.contains key = true ↔ key ∈ keys) ∧
          (∀ key ∈ keys, ∃ variant, registry.get key = .ok variant ∧
            registry.help profileOf key = .ok (profileOf variant).help ∧
            registry.describe profileOf key =
              .ok { toProfile := profileOf variant, key := key }) ∧
          (∀ key ∉ keys, registry.get key = .error (missing key) ∧
            registry.help profileOf key = .error (missing key) ∧
            registry.describe profileOf key = .error (missing key)) ∧
          registry.listings profileOf = .ok listed ∧
          listed.map (·.key) = keys.filter (·.head? ≠ some '_') ∧
          ∀ entry ∈ listed, ∃ descriptor, registry.describe profileOf entry.key = .ok descriptor ∧
            entry.label = descriptor.label ∧ entry.description = descriptor.description) := by
  intro run registry unloaded missing
  have agrees : Agrees run := agrees_after steps
  have distinct : Distinct run := distinct_after tables
  constructor
  · intro never
    have flag : registry.loaded = false := by
      rw [agrees.loaded, never]
      rfl
    obtain ⟨listings, keys, queries⟩ := Registry.queries_of_not_loaded profileOf flag
    refine ⟨listings, keys, queries, ?_⟩
    rw [Registry.size, agrees.formatters_eq_nil never]
    rfl
  · intro some_load
    have loaded : registry.loaded = true := by
      rw [agrees.loaded, Option.isSome_iff_ne_none]
      exact mt List.getLast?_eq_none_iff.mp some_load
    obtain ⟨listed, listings, visible, described⟩ :=
      Registry.listings_of_distinct loaded profileOf distinct.known
    refine ⟨Registry.sortedKeys registry.formatters, listed, Registry.keys_eq_ok loaded,
      Registry.sortedKeys_strict distinct.known, ?_, Registry.contains_iff_mem_sortedKeys loaded,
      fun key member => Registry.queries_of_mem loaded profileOf member,
      fun key absent => Registry.queries_of_not_mem loaded profileOf absent, listings, ?_,
      described⟩
    · rw [(Registry.sortedKeys_perm registry.formatters).length_eq, List.length_map]
      rfl
    · rw [visible]
      simp [Registry.isHidden]

/-- A plugin is hidden, and a variant that is registered before the load and one that is
registered after it are listed: the listing has five of six keys. -/
theorem queries_are_views_hidden_plugin :
    let sources : VariantSources Variant :=
      { builtinVariants with plugins := .listed [("_trial", .formatter .recording)] }
    let steps : List (RegistryStep Variant) :=
      [ .register "10_early" (.formatter .upper), .start sources, .finish 0,
        .register "00_late" (.formatter .upper) ]
    let registry := (after steps).registry
    (∀ other, .start other ∈ steps → (other.builtins.map Prod.fst).Nodup) ∧
      (after steps).loads ≠ [] ∧ registry.size = 6 ∧
      ∃ keys listed, registry.keys = .ok keys ∧ keys.Pairwise (· < ·) ∧ ("_trial" : Text) ∈ keys ∧
        registry.listings Variant.profile = .ok listed ∧
        listed.map (·.key) = keys.filter (·.head? ≠ some '_') := by
  intro sources steps registry
  have tables : ∀ other, .start other ∈ steps → (other.builtins.map Prod.fst).Nodup := by
    intro other member
    have same : other = sources := by simpa [steps] using member
    rw [same]
    decide +kernel
  have loads : (after steps).loads ≠ [] := by decide +kernel
  have trial : registry.contains "_trial" = true := by decide +kernel
  obtain ⟨keys, listed, sorted, ascending, -, contained, -, -, listings, visible, -⟩ :=
    (queries_are_views Variant.profile steps tables).2 loads
  exact ⟨tables, loads, by decide +kernel, keys, listed, sorted, ascending,
    (contained _).mp trial, listings, visible⟩

end RegistryRun

end PanelClock
