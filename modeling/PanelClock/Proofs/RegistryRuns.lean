import Mathlib.Data.List.Induction
import PanelClock.Proofs.Lookup
import PanelClock.Registry

/-!
# What a registry holds after a run

A load of a registry takes time: it goes to its sources, waits for what they give, and
only then changes the registry.  In between other loads and registrations may come.  A
run is a row of such steps (`RegistryStep`), and it remembers which registrations and
which loads have succeeded (`RegistryRun`).

What the registry should hold is said from these alone.  A variant is registered, or
else it is the first one under its key that the built-in table gives, or else the first
one that the plugins give (`VariantSources.variantOf?`).  Looking up in what was
discovered and in what explicit registrations were put over agrees with that
(`lookup_discoverBuiltins`, `lookup_discoverPlugins`, `Registry.lookup_override`).

Every step keeps the registry in agreement with what has succeeded
(`RegistryRun.Agrees.take`).  Hence every query is answered from the registrations and
the sources of the last successful load, and no registration is lost
(`RegistryRun.get_after`).
-/

set_option autoImplicit false

namespace PanelClock

variable {κ : Type}

/-! ## What sources give -/

/-- The variant that loading a class gives. -/
def LoadOutcome.variant? : LoadOutcome κ → Option κ
  | .formatter variant => some variant
  | _ => none

/-- The first variant that entries give under a key. -/
def firstVariant? (key : Text) (entries : List (Text × LoadOutcome κ)) : Option κ :=
  entries.findSome? fun entry => if entry.1 = key then entry.2.variant? else none

namespace VariantSources

/-- The variant that sources give under a key: that of the built-in table, else that of the
plugins. -/
def variantOf? (sources : VariantSources κ) (key : Text) : Option κ :=
  (firstVariant? key sources.builtins).or
    (match sources.plugins with
    | .listed plugins => firstVariant? key plugins
    | .failed _ => none)

theorem firstVariant?_cons (key : Text) (entry : Text × LoadOutcome κ)
    (rest : List (Text × LoadOutcome κ)) :
    firstVariant? key (entry :: rest) =
      (if entry.1 = key then entry.2.variant? else none).or (firstVariant? key rest) := by
  rw [firstVariant?, List.findSome?_cons]
  cases (if entry.1 = key then entry.2.variant? else none) <;> rfl

/-- **What is discovered of the built-in table is the first variant under each key.** -/
theorem lookup_discoverBuiltins (key : Text) (entries : List (Text × LoadOutcome κ)) :
    (discoverBuiltins entries).1.lookup key = firstVariant? key entries := by
  induction entries with
  | nil => rfl
  | cons entry rest ih =>
      obtain ⟨other, outcome⟩ := entry
      rw [firstVariant?_cons, ← ih, discoverBuiltins]
      cases outcome with
      | formatter variant =>
          rw [lookup_cons_eq_ite]
          split <;> rfl
      | other shown => simp [LoadOutcome.variant?]
      | failed message => simp [LoadOutcome.variant?]

/-- **What is discovered of plugins is added under keys that are not taken**, and the first
variant under a key takes it. -/
theorem lookup_discoverPlugins (key : Text) (found : List (Text × κ))
    (entries : List (Text × LoadOutcome κ)) :
    (discoverPlugins found entries).1.lookup key =
      (found.lookup key).or (firstVariant? key entries) := by
  induction entries generalizing found with
  | nil => simp [discoverPlugins, firstVariant?]
  | cons entry rest ih =>
      obtain ⟨other, outcome⟩ := entry
      rw [firstVariant?_cons, discoverPlugins.eq_def]
      dsimp only
      split
      · next taken =>
          -- The key is taken, so this plugin does not count even if it has a variant.
          dsimp only
          rw [ih]
          by_cases same : other = key
          · obtain ⟨held, lookup⟩ := Option.isSome_iff_exists.mp taken
            simp [← same, lookup]
          · simp [same]
      · cases outcome with
        | formatter variant =>
            dsimp only
            rw [ih, List.lookup_append, lookup_cons_eq_ite, Option.or_assoc]
            rfl
        | other shown => simp [ih, LoadOutcome.variant?]
        | failed message => simp [ih, LoadOutcome.variant?]

/-- **What is discovered under a key is the variant that the sources give.** -/
theorem lookup_discover {sources : VariantSources κ} {found : List (Text × κ)}
    (discovered : sources.discover.1 = .ok found) (key : Text) :
    found.lookup key = sources.variantOf? key := by
  unfold discover at discovered
  unfold variantOf?
  cases listing : sources.plugins with
  | failed message =>
      rw [listing] at discovered
      cases discovered
  | listed plugins =>
      rw [listing] at discovered
      cases discovered
      rw [lookup_discoverPlugins, lookup_discoverBuiltins]

end VariantSources

namespace Registry

/-! ## Explicit registrations over what was discovered -/

/-- What is put under a key is found there, and nothing else changes. -/
theorem lookup_put (key : Text) (entry : Text × κ) (entries : List (Text × κ)) :
    (put entry entries).lookup key =
      if entry.1 = key then some entry.2 else entries.lookup key := by
  induction entries with
  | nil => exact lookup_cons_eq_ite key entry []
  | cons first rest ih =>
      rw [put]
      by_cases same : first.1 = entry.1
      · rw [if_pos same, lookup_cons_eq_ite, lookup_cons_eq_ite, same]
        split <;> rfl
      · rw [if_neg same, lookup_cons_eq_ite, lookup_cons_eq_ite, ih]
        by_cases here : first.1 = key
        · rw [if_pos here, if_neg fun other => same (here.trans other.symm), if_pos here]
        · rw [if_neg here, if_neg here]

/-- **Explicit registrations come before what was discovered.** -/
theorem lookup_override (key : Text) {explicit : List (Text × κ)}
    (nodup : (explicit.map Prod.fst).Nodup) (discovered : List (Text × κ)) :
    (override discovered explicit).1.lookup key =
      (explicit.lookup key).or (discovered.lookup key) := by
  induction explicit generalizing discovered with
  | nil => rfl
  | cons entry rest ih =>
      obtain ⟨fresh, later⟩ := List.nodup_cons.mp nodup
      obtain ⟨other, variant⟩ := entry
      rw [override, lookup_cons_eq_ite]
      dsimp only
      rw [ih later, lookup_put]
      dsimp only
      split
      · next same =>
          rw [← same, lookup_eq_none_iff_notMem.mpr fresh]
          rfl
      · rfl

/-! ## Single operations -/

variable (registry : Registry κ)

/-- A registration succeeds exactly for a formatter under a key that is neither registered nor
known, and adds it to the registered ones, and to the known ones once a load has succeeded. -/
theorem register_eq_ok_iff (key : Text) (outcome : LoadOutcome κ) (later : Registry κ) :
    registry.register key outcome = .ok later ↔ ∃ variant, outcome = .formatter variant ∧
      registry.explicit.lookup key = none ∧ registry.formatters.lookup key = none ∧
      later = { registry with
        explicit := registry.explicit ++ [(key, variant)]
        formatters :=
          if registry.loaded then registry.formatters ++ [(key, variant)]
          else registry.formatters } := by
  cases outcome with
  | formatter variant =>
      simp only [register]
      split
      · next taken =>
          rw [Bool.or_eq_true, Option.isSome_iff_ne_none, Option.isSome_iff_ne_none] at taken
          simp only [reduceCtorEq, LoadOutcome.formatter.injEq, false_iff]
          rintro ⟨variant, -, unregistered, unknown, -⟩
          exact taken.elim (· unregistered) (· unknown)
      · next free =>
          rw [Bool.not_eq_true, Bool.or_eq_false_iff, Option.isSome_eq_false_iff,
            Option.isSome_eq_false_iff, Option.isNone_iff_eq_none, Option.isNone_iff_eq_none]
            at free
          obtain ⟨unregistered, unknown⟩ := free
          constructor
          · intro result
            exact ⟨variant, rfl, unregistered, unknown, (Except.ok.inj result).symm⟩
          · rintro ⟨other, same, -, -, rfl⟩
            rw [LoadOutcome.formatter.inj same]
  | other shown => simp [register]
  | failed message => simp [register]

/-- **A load that fails changes nothing, and one that succeeds makes known what was discovered
under the explicit registrations.** -/
theorem finishLoad_cases (discovered : Except Text (List (Text × κ))) :
    (∃ error, (registry.finishLoad discovered).1 = .error error ∧
      (registry.finishLoad discovered).2.1 = registry) ∨
    (∃ found, discovered = .ok found ∧ (registry.finishLoad discovered).1 = .ok () ∧
      (registry.finishLoad discovered).2.1 =
        { registry with formatters := (override found registry.explicit).1, loaded := true }) := by
  unfold finishLoad
  cases discovered with
  | error message => exact .inl ⟨_, rfl, rfl⟩
  | ok found =>
      dsimp only
      split
      · exact .inl ⟨_, rfl, rfl⟩
      · exact .inr ⟨found, rfl, rfl, rfl⟩

/-! ## A registry that is loaded -/

theorem sortEntries_perm (entries : List (Text × κ)) : (sortEntries entries).Perm entries :=
  List.mergeSort_perm entries _

/-- The keys of entries, in the order in which a registry lists them. -/
def sortedKeys (entries : List (Text × κ)) : List Text := (sortEntries entries).map Prod.fst

theorem sortedKeys_perm (entries : List (Text × κ)) :
    (sortedKeys entries).Perm (entries.map Prod.fst) :=
  (sortEntries_perm entries).map Prod.fst

section Loaded

variable {registry : Registry κ} (loaded : registry.loaded = true)

include loaded

theorem known_eq_ok : registry.known = .ok registry.formatters := if_pos loaded

theorem keys_eq_ok : registry.keys = .ok (sortedKeys registry.formatters) := by
  rw [keys, known_eq_ok loaded]
  rfl

/-- What is found under a key is the answer, and elsewhere the query is refused. -/
theorem get_eq (key : Text) :
    registry.get key = match registry.formatters.lookup key with
      | some variant => .ok variant
      | none => .error (.ofCause .formatterNotFound (.formatterNotFound key)) := by
  rw [get, known_eq_ok loaded]
  simp only [bind, Except.bind]
  cases registry.formatters.lookup key <;> rfl

end Loaded

end Registry

/-! ## Runs -/

/-- What happens to a registry. -/
inductive RegistryStep (κ : Type) where
  | register (key : Text) (outcome : LoadOutcome κ)
  /-- A load goes to its sources and waits for what they give. -/
  | start (sources : VariantSources κ)
  /-- The waiting load at a place gets what its sources give, and ends. -/
  | finish (place : Nat)

/-- A registry with the loads that are under way and what has succeeded so far. -/
structure RegistryRun (κ : Type) where
  registry : Registry κ := {}
  /-- The sources of the loads that wait. -/
  waiting : List (VariantSources κ) := []
  /-- The registrations that have succeeded, in order. -/
  registered : List (Text × κ) := []
  /-- The sources of the loads that have succeeded, in order. -/
  loads : List (VariantSources κ) := []

namespace RegistryRun

/-- A registration that succeeds is remembered. -/
def register (run : RegistryRun κ) (key : Text) (outcome : LoadOutcome κ) : RegistryRun κ :=
  match run.registry.register key outcome, outcome with
  | .ok later, .formatter variant =>
      { run with registry := later, registered := run.registered ++ [(key, variant)] }
  | _, _ => run

/-- A load that has got what its sources give ends, and is remembered when it succeeds. -/
def finish (run : RegistryRun κ) (sources : VariantSources κ) : RegistryRun κ :=
  let (result, later, _) := run.registry.finishLoad sources.discover.1
  { run with
    registry := later
    loads := match result with
      | .ok _ => run.loads ++ [sources]
      | .error _ => run.loads }

/-- A run after one more step. -/
def take (run : RegistryRun κ) : RegistryStep κ → RegistryRun κ
  | .register key outcome => run.register key outcome
  | .start sources => { run with waiting := run.waiting ++ [sources] }
  | .finish place =>
      match run.waiting[place]? with
      | some sources => { run with waiting := run.waiting.eraseIdx place }.finish sources
      | none => run

/-- A registry that is new, after steps. -/
def after (steps : List (RegistryStep κ)) : RegistryRun κ := steps.foldl take {}

theorem after_append (steps more : List (RegistryStep κ)) :
    after (steps ++ more) = more.foldl take (after steps) :=
  List.foldl_append

/-! ## What every step keeps -/

/-- The variant under a key where a load of sources was the last one to succeed: the registered
one, else the one that the sources give. -/
def variantFrom? (run : RegistryRun κ) (sources : VariantSources κ) (key : Text) : Option κ :=
  (run.registered.lookup key).or (sources.variantOf? key)

/-- The answer to a query: refused before the first successful load, and after it the variant
that should be under the key. -/
def answer (run : RegistryRun κ) (key : Text) : Except ClockError κ :=
  match run.loads.getLast? with
  | none => .error (.ofCause .discovery .registryNotLoaded)
  | some sources =>
      match run.variantFrom? sources key with
      | some variant => .ok variant
      | none => .error (.ofCause .formatterNotFound (.formatterNotFound key))

/-- A registry agrees with what has succeeded. -/
structure Agrees (run : RegistryRun κ) : Prop where
  explicit : run.registry.explicit = run.registered
  distinct : (run.registered.map Prod.fst).Nodup
  loaded : run.registry.loaded = run.loads.getLast?.isSome
  known : ∀ key, run.registry.formatters.lookup key =
    run.loads.getLast?.bind (run.variantFrom? · key)

/-- Which loads wait does not matter for the agreement. -/
theorem Agrees.waiting {run : RegistryRun κ} (agrees : Agrees run)
    (waiting : List (VariantSources κ)) : Agrees { run with waiting := waiting } :=
  ⟨agrees.explicit, agrees.distinct, agrees.loaded, agrees.known⟩

/-- A registration under a key without a variant adds its own one, and hides none. -/
theorem variantFrom?_registered {run : RegistryRun κ} {sources : VariantSources κ} {key : Text}
    (free : run.variantFrom? sources key = none) (variant : κ) (other : Text) :
    { run with registered := run.registered ++ [(key, variant)] }.variantFrom? sources other =
      (run.variantFrom? sources other).or ([(key, variant)].lookup other) := by
  unfold variantFrom? at free ⊢
  rw [List.lookup_append]
  by_cases here : key = other
  · subst here
    obtain ⟨unregistered, absent⟩ := Option.or_eq_none_iff.mp free
    simp [unregistered, absent]
  · simp [lookup_cons_eq_ite, here]

/-- A registration keeps the agreement. -/
theorem Agrees.register {run : RegistryRun κ} (agrees : Agrees run) (key : Text)
    (outcome : LoadOutcome κ) : Agrees (run.register key outcome) := by
  unfold RegistryRun.register
  cases result : run.registry.register key outcome with
  | error fault => exact agrees
  | ok later =>
      obtain ⟨variant, rfl, unregistered, unknown, rfl⟩ :=
        (run.registry.register_eq_ok_iff key outcome later).mp result
      rw [agrees.explicit] at unregistered
      refine ⟨?_, ?_, agrees.loaded, fun other => ?_⟩
      · exact congrArg (· ++ [(key, variant)]) agrees.explicit
      · rw [List.map_append, List.nodup_append]
        refine ⟨agrees.distinct, List.nodup_singleton _, fun other member last same => ?_⟩
        rw [List.mem_singleton.mp same]
        intro (taken : other = key)
        exact lookup_eq_none_iff_notMem.mp unregistered (taken ▸ member)
      · -- What is known changes only after a load, and then its key was free.
        have before := agrees.known other
        have free := (agrees.known key).symm.trans unknown
        have flag := agrees.loaded
        dsimp only
        cases last : run.loads.getLast? with
        | none =>
            rw [last] at before flag
            simp [flag, before]
        | some sources =>
            rw [last, Option.bind_some] at before free
            rw [last] at flag
            rw [flag, Option.isSome_some, if_pos rfl, List.lookup_append, before, Option.bind_some]
            exact (variantFrom?_registered free variant other).symm

/-- The end of a load keeps the agreement. -/
theorem Agrees.finish {run : RegistryRun κ} (agrees : Agrees run) (sources : VariantSources κ) :
    Agrees (run.finish sources) := by
  unfold RegistryRun.finish
  rcases run.registry.finishLoad_cases sources.discover.1 with
    ⟨error, failed, same⟩ | ⟨found, discovered, succeeded, changed⟩
  · dsimp only
    rw [failed, same]
    exact agrees
  · dsimp only
    rw [succeeded, changed]
    refine ⟨agrees.explicit, agrees.distinct, by simp, fun key => ?_⟩
    rw [agrees.explicit, Registry.lookup_override key agrees.distinct,
      VariantSources.lookup_discover discovered]
    simp [variantFrom?]

/-- **Every step keeps the agreement.** -/
theorem Agrees.take {run : RegistryRun κ} (agrees : Agrees run) (step : RegistryStep κ) :
    Agrees (run.take step) := by
  cases step with
  | register key outcome => exact agrees.register key outcome
  | start sources => exact agrees.waiting (run.waiting ++ [sources])
  | finish place =>
      rw [RegistryRun.take]
      split
      · next sources waits =>
          exact (agrees.waiting (run.waiting.eraseIdx place)).finish sources
      · exact agrees

/-- **After every run a registry agrees with what has succeeded.** -/
theorem agrees_after (steps : List (RegistryStep κ)) : Agrees (after steps) := by
  induction steps using List.reverseRecOn with
  | nil => exact ⟨rfl, List.nodup_nil, rfl, fun key => rfl⟩
  | append_singleton steps step ih =>
      rw [after_append]
      exact ih.take step

/-! ## What a run means -/

/-- A step forgets no registration that has succeeded. -/
theorem registered_prefix_take (run : RegistryRun κ) (step : RegistryStep κ) :
    run.registered <+: (run.take step).registered := by
  cases step with
  | register key outcome =>
      rw [take]
      unfold RegistryRun.register
      split
      · exact List.prefix_append _ _
      · exact List.prefix_rfl
  | start sources => exact List.prefix_rfl
  | finish place =>
      rw [take]
      split
      · exact List.prefix_rfl
      · exact List.prefix_rfl

/-- **More steps forget no registration that has succeeded.** -/
theorem registered_prefix_after (steps more : List (RegistryStep κ)) :
    (after steps).registered <+: (after (steps ++ more)).registered := by
  induction more using List.reverseRecOn with
  | nil => simp
  | append_singleton more step ih =>
      rw [← List.append_assoc, after_append (steps ++ more)]
      exact ih.trans (registered_prefix_take _ step)

/-- A query is answered as it should be. -/
theorem Agrees.get {run : RegistryRun κ} (agrees : Agrees run) (key : Text) :
    run.registry.get key = run.answer key := by
  have known := agrees.known key
  have flag := agrees.loaded
  unfold answer
  cases last : run.loads.getLast? with
  | none =>
      rw [last] at flag
      rw [Registry.get, Registry.known, flag]
      rfl
  | some sources =>
      rw [last] at flag known
      rw [Registry.get_eq flag, known]
      rfl

/-- **A registry means what its steps say.**  After any registrations and loads, also with
registrations and other loads while a load waits for its sources, a query before the first
successful load is refused.  After it a query is answered with the variant that was
registered under the key, else with the variant that the sources of the last successful load
give, and is refused when there is none.  At most one registration succeeds under a key, and
once a load has succeeded later steps neither lose nor replace its variant. -/
theorem get_after (steps : List (RegistryStep κ)) :
    let run := after steps
    (∀ key, run.registry.get key = run.answer key) ∧
      (run.registered.map Prod.fst).Nodup ∧
      ∀ key variant, (key, variant) ∈ run.registered → ∀ later,
        (after (steps ++ later)).loads ≠ [] →
          (after (steps ++ later)).registry.get key = .ok variant := by
  intro run
  refine ⟨(agrees_after steps).get, (agrees_after steps).distinct,
    fun key variant registered later loaded => ?_⟩
  have agrees := agrees_after (steps ++ later)
  have kept : (after (steps ++ later)).registered.lookup key = some variant :=
    (lookup_eq_some_iff_mem agrees.distinct).mpr
      ((registered_prefix_after steps later).subset registered)
  rw [agrees.get key, answer]
  cases last : (after (steps ++ later)).loads.getLast? with
  | none => exact absurd (List.getLast?_eq_none_iff.mp last) loaded
  | some sources =>
      dsimp only
      rw [variantFrom?, kept]
      rfl

/-- A variant that is registered over a built-in one while a load waits is there after the
load, after another registration under its key, and after another load. -/
theorem get_after_registered_in_load :
    let steps : List (RegistryStep Variant) :=
      [.start builtinVariants, .register "03_swatch" (.formatter .upper), .finish 0]
    let later : List (RegistryStep Variant) :=
      [.register "03_swatch" (.formatter .recording), .start builtinVariants, .finish 0]
    (("03_swatch" : Text), Variant.upper) ∈ (after steps).registered ∧
      (after (steps ++ later)).loads ≠ [] ∧
      (after (steps ++ later)).registry.get "03_swatch" = .ok .upper := by
  intro steps later
  have registered : (("03_swatch" : Text), Variant.upper) ∈ (after steps).registered := by
    decide +kernel
  have loaded : (after (steps ++ later)).loads ≠ [] := by decide +kernel
  exact ⟨registered, loaded, (get_after steps).2.2 _ _ registered later loaded⟩

end RegistryRun

end PanelClock
