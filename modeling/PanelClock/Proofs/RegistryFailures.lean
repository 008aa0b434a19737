import PanelClock.Proofs.RegistryRuns

/-!
# Registry calls that fail

What is asked of a registry is a call (`RegistryCall`): a step of a run, a load during
which nothing else happens, or a query.  A call is answered with a reply or a fault and
with what is logged on the way (`RegistryRun.replyTo`), and it leads to another run
(`RegistryRun.call`).

A call that fails leads to the run that there would be without it
(`RegistryRun.call_eq_without`).  For a load that has waited for its sources this is the
run in which it does not wait.  So the answers to all later calls, in any order and with
any sources, are the ones that would have been given without the failing call
(`RegistryRun.failing_call_changes_nothing`).

When registrations and loads fail is said from what has succeeded before and from what
the sources hold, not from the tables that a registry keeps.
-/

set_option autoImplicit false

namespace PanelClock

variable {κ : Type}

/-! ## Sources from which nothing loads -/

namespace VariantSources

/-- All entries of sources: the built-in table, then the plugins that are listed. -/
def entries (sources : VariantSources κ) : List (Text × LoadOutcome κ) :=
  sources.builtins ++
    match sources.plugins with
    | .listed plugins => plugins
    | .failed _ => []

/-- The variant that sources give under a key is the first one of their entries. -/
theorem variantOf?_eq_firstVariant? (sources : VariantSources κ) (key : Text) :
    sources.variantOf? key = firstVariant? key sources.entries := by
  unfold variantOf? entries firstVariant?
  rw [List.findSome?_append]
  cases sources.plugins <;> rfl

/-- Sources give no variant exactly when none of their entries loads. -/
theorem variantOf?_eq_none_iff (sources : VariantSources κ) :
    (∀ key, sources.variantOf? key = none) ↔
      ∀ entry ∈ sources.entries, entry.2.variant? = none := by
  simp only [variantOf?_eq_firstVariant?, firstVariant?, List.findSome?_eq_none_iff]
  constructor
  · intro absent entry member
    simpa using absent entry.1 entry member
  · intro broken key entry member
    split
    · exact broken entry member
    · rfl

/-- Discovery fails exactly when the plugins cannot be listed. -/
theorem discover_eq_error_iff (sources : VariantSources κ) (message : Text) :
    sources.discover.1 = .error message ↔ sources.plugins = .failed message := by
  unfold discover
  cases sources.plugins <;> simp

end VariantSources

namespace Registry

/-- Nothing is left under the explicit registrations only where nothing was registered and
nothing was discovered. -/
theorem override_eq_nil_iff {explicit : List (Text × κ)}
    (nodup : (explicit.map Prod.fst).Nodup) (discovered : List (Text × κ)) :
    (override discovered explicit).1 = [] ↔ explicit = [] ∧ discovered = [] := by
  simp only [eq_nil_iff_lookup_eq_none, lookup_override _ nodup, Option.or_eq_none_iff,
    forall_and]

/-- A registration fails exactly for what is no formatter and under a key that is registered or
known. -/
theorem register_fails_iff (registry : Registry κ) (key : Text) (outcome : LoadOutcome κ) :
    (∃ fault, registry.register key outcome = .error fault) ↔
      outcome.variant? = none ∨ registry.explicit.lookup key ≠ none ∨
        registry.formatters.lookup key ≠ none := by
  cases outcome with
  | formatter variant =>
      rw [register, ← Option.isSome_iff_ne_none, ← Option.isSome_iff_ne_none, ← Bool.or_eq_true]
      split
      · next taken => exact ⟨fun _ => .inr taken, fun _ => ⟨_, rfl⟩⟩
      · next free =>
          constructor
          · rintro ⟨fault, ⟨⟩⟩
          · rintro (⟨⟨⟩⟩ | taken)
            exact absurd taken free
  | other shown => exact ⟨fun _ => .inl rfl, fun _ => ⟨_, rfl⟩⟩
  | failed message => exact ⟨fun _ => .inl rfl, fun _ => ⟨_, rfl⟩⟩

/-- A load fails at its end exactly when discovery has failed or nothing is known then. -/
theorem finishLoad_fails_iff (registry : Registry κ)
    (discovered : Except Text (List (Text × κ))) :
    (∃ error, (registry.finishLoad discovered).1 = .error error) ↔
      (∃ message, discovered = .error message) ∨
        ∃ found, discovered = .ok found ∧ (override found registry.explicit).1 = [] := by
  unfold finishLoad
  cases discovered with
  | error message => simp
  | ok found =>
      dsimp only
      split
      · next nothing =>
          rw [List.isEmpty_iff] at nothing
          simp [nothing]
      · next something =>
          rw [List.isEmpty_iff] at something
          simp [something]

end Registry

/-! ## Calls and their answers -/

/-- What a registry can be asked. -/
inductive RegistryQuery where
  | loaded
  | size
  | keys
  | contains (key : Text)
  | listings
  | get (key : Text)
  | describe (key : Text)
  | help (key : Text)
  deriving DecidableEq, Repr

/-- What is called on a registry. -/
inductive RegistryCall (κ : Type) where
  /-- A registration, or the start or the end of a load. -/
  | step (step : RegistryStep κ)
  /-- A load during which nothing else happens. -/
  | load (sources : VariantSources κ)
  | query (query : RegistryQuery)

/-- What a call that does not fail gives. -/
inductive RegistryReply (κ : Type) where
  | done
  | truth (holds : Bool)
  | count (number : Nat)
  | keys (keys : List Text)
  | listings (entries : List VariantListing)
  | variant (variant : κ)
  | descriptor (descriptor : VariantDescriptor)
  | help (table : HelpTable Text)
  deriving DecidableEq, Repr

/-- What a caller sees: a reply or a fault, and the lines that are logged. -/
abbrev RegistryAnswer (κ : Type) :=
  Except RegistrationFault (RegistryReply κ) × List RegistryEvent

namespace Registry

/-- What a registry is known to hold, as a reply. -/
def replyToQuery (profileOf : κ → Profile) (registry : Registry κ) :
    RegistryQuery → Except ClockError (RegistryReply κ)
  | .loaded => .ok (.truth registry.loaded)
  | .size => .ok (.count registry.size)
  | .keys => registry.keys.map .keys
  | .contains key => .ok (.truth (registry.contains key))
  | .listings => (registry.listings profileOf).map .listings
  | .get key => (registry.get key).map .variant
  | .describe key => (registry.describe profileOf key).map .descriptor
  | .help key => (registry.help profileOf key).map .help

/-- What the caller of a load sees. -/
def replyToLoad (registry : Registry κ) (sources : VariantSources κ) : RegistryAnswer κ :=
  let (result, _, events) := registry.load sources
  ((result.map fun _ => .done).mapError .refused, events)

/-- The caller of a load sees a fault exactly when the end of the load fails. -/
theorem replyToLoad_fails_iff (registry : Registry κ) (sources : VariantSources κ) :
    (∃ fault, (registry.replyToLoad sources).1 = .error fault) ↔
      ∃ error, (registry.finishLoad sources.discover.1).1 = .error error := by
  unfold replyToLoad load
  dsimp only
  cases (registry.finishLoad sources.discover.1).1 <;> simp [Except.map, Except.mapError]

end Registry

namespace RegistryRun

/-- What the caller of a call sees. -/
def replyTo (profileOf : κ → Profile) (run : RegistryRun κ) : RegistryCall κ → RegistryAnswer κ
  | .step (.register key outcome) =>
      ((run.registry.register key outcome).map fun _ => .done, [])
  | .step (.start _) => (.ok .done, [])
  | .step (.finish place) =>
      match run.waiting[place]? with
      | some sources => run.registry.replyToLoad sources
      | none => (.ok .done, [])
  | .load sources => run.registry.replyToLoad sources
  | .query query => ((run.registry.replyToQuery profileOf query).mapError .refused, [])

/-- A run after one more call. -/
def call (run : RegistryRun κ) : RegistryCall κ → RegistryRun κ
  | .step step => run.take step
  | .load sources => (run.take (.start sources)).take (.finish run.waiting.length)
  | .query _ => run

/-- The run that there would be without a call: without the end of a load, the load does not
wait either. -/
def without (run : RegistryRun κ) : RegistryCall κ → RegistryRun κ
  | .step (.finish place) => { run with waiting := run.waiting.eraseIdx place }
  | _ => run

/-- What the callers of calls see, one call after the other. -/
def replies (profileOf : κ → Profile) (run : RegistryRun κ) :
    List (RegistryCall κ) → List (RegistryAnswer κ)
  | [] => []
  | call :: later => run.replyTo profileOf call :: (run.call call).replies profileOf later

/-- Without a call a registry is what it is. -/
theorem without_registry (run : RegistryRun κ) (call : RegistryCall κ) :
    (run.without call).registry = run.registry := by
  unfold without
  split <;> rfl

/-- A load that has started and does not wait has not been. -/
theorem without_finish_start (run : RegistryRun κ) (sources : VariantSources κ) :
    (run.take (.start sources)).without (.step (.finish run.waiting.length)) = run := by
  simp [take, without, List.eraseIdx_append_of_length_le]

/-! ## A failing call leads nowhere -/

/-- A registration that is refused is not remembered. -/
theorem register_eq_self {run : RegistryRun κ} {key : Text} {outcome : LoadOutcome κ}
    {fault : RegistrationFault} (refused : run.registry.register key outcome = .error fault) :
    run.register key outcome = run := by
  unfold register
  rw [refused]

/-- A load that fails at its end is not remembered. -/
theorem finish_eq_self {run : RegistryRun κ} {sources : VariantSources κ} {error : ClockError}
    (failed : (run.registry.finishLoad sources.discover.1).1 = .error error) :
    run.finish sources = run := by
  unfold finish
  rcases run.registry.finishLoad_cases sources.discover.1 with
    ⟨other, -, same⟩ | ⟨found, -, succeeded, -⟩
  · dsimp only
    rw [failed, same]
  · rw [succeeded] at failed
    cases failed

/-- **A call that fails leads to the run that there would be without it.** -/
theorem call_eq_without {profileOf : κ → Profile} {run : RegistryRun κ}
    {call : RegistryCall κ} {fault : RegistrationFault}
    (failed : (run.replyTo profileOf call).1 = .error fault) :
    run.call call = run.without call := by
  cases call with
  | step step =>
      cases step with
      | register key outcome =>
          cases refused : run.registry.register key outcome with
          | error fault => exact register_eq_self refused
          | ok later =>
              rw [replyTo, refused] at failed
              cases failed
      | start sources => cases failed
      | finish place =>
          rw [replyTo] at failed
          rw [RegistryRun.call, take, without]
          cases waits : run.waiting[place]? with
          | none =>
              rw [waits] at failed
              cases failed
          | some sources =>
              rw [waits] at failed
              obtain ⟨error, failed⟩ :=
                (run.registry.replyToLoad_fails_iff sources).mp ⟨fault, failed⟩
              exact finish_eq_self failed
  | load sources =>
      obtain ⟨error, failed⟩ := (run.registry.replyToLoad_fails_iff sources).mp ⟨fault, failed⟩
      -- The load ends at the place where it has started to wait.
      have ended : (run.take (.start sources)).take (.finish run.waiting.length) =
          ((run.take (.start sources)).without (.step (.finish run.waiting.length))).finish
            sources := by
        simp [take, without]
      rw [RegistryRun.call, ended, without_finish_start]
      exact finish_eq_self failed
  | query query => rfl

/-! ## When registrations and loads fail -/

/-- A registry contains the keys that are found among what it knows: before the first load it
knows nothing. -/
theorem Agrees.contains_iff {run : RegistryRun κ} (agrees : Agrees run) (key : Text) :
    run.registry.contains key = true ↔ run.registry.formatters.lookup key ≠ none := by
  rw [Registry.contains, Bool.and_eq_true, Option.isSome_iff_ne_none, and_iff_right_iff_imp]
  intro known
  rw [agrees.loaded, Option.isSome_iff_ne_none]
  intro never
  apply known
  rw [agrees.known, never]
  rfl

/-- A registration fails exactly for what is no formatter, under a key that is registered, and
under a key that is loaded. -/
theorem Agrees.register_fails_iff {run : RegistryRun κ} (agrees : Agrees run) (key : Text)
    (outcome : LoadOutcome κ) :
    (∃ fault, run.registry.register key outcome = .error fault) ↔
      outcome.variant? = none ∨ key ∈ run.registered.map Prod.fst ∨
        run.registry.contains key = true := by
  rw [run.registry.register_fails_iff, agrees.contains_iff, agrees.explicit,
    ← Option.isSome_iff_ne_none, isSome_lookup_iff_mem]

/-- A load fails exactly when the plugins cannot be listed, or when nothing is registered and
no entry of the sources loads. -/
theorem Agrees.load_fails_iff {run : RegistryRun κ} (agrees : Agrees run)
    (sources : VariantSources κ) :
    (∃ error, (run.registry.finishLoad sources.discover.1).1 = .error error) ↔
      (∃ message, sources.plugins = .failed message) ∨
        run.registered = [] ∧ ∀ entry ∈ sources.entries, entry.2.variant? = none := by
  rw [run.registry.finishLoad_fails_iff, ← sources.variantOf?_eq_none_iff, agrees.explicit]
  simp only [sources.discover_eq_error_iff]
  cases discovery : sources.discover.1 with
  | error message =>
      rw [sources.discover_eq_error_iff] at discovery
      simp [discovery]
  | ok found =>
      have listed : ¬∃ message, sources.plugins = .failed message := by
        simp [← sources.discover_eq_error_iff, discovery]
      have nothing : found = [] ↔ ∀ key, sources.variantOf? key = none := by
        simp only [eq_nil_iff_lookup_eq_none, VariantSources.lookup_discover discovery]
      simp [listed, Registry.override_eq_nil_iff agrees.distinct, nothing]

/-- **A call that fails changes nothing, and registrations and loads fail only for a reason.**
After any registrations and loads, a call that fails leaves the registry as it is, and every
row of later calls is answered as it would have been without the failing one.  A registration
fails exactly for what is no formatter, under a key that has been registered, and under a key
that is loaded.  A load fails exactly when the plugins cannot be listed, or when nothing has
been registered and no entry of the sources loads. -/
theorem failing_call_changes_nothing (profileOf : κ → Profile) (steps : List (RegistryStep κ)) :
    let run := after steps
    (∀ call fault, (run.replyTo profileOf call).1 = .error fault →
      (run.call call).registry = run.registry ∧
        ∀ later, (run.call call).replies profileOf later =
          (run.without call).replies profileOf later) ∧
      (∀ key outcome,
        (∃ fault, (run.replyTo profileOf (.step (.register key outcome))).1 = .error fault) ↔
          outcome.variant? = none ∨ key ∈ run.registered.map Prod.fst ∨
            run.registry.contains key = true) ∧
      ∀ sources,
        (∃ fault, (run.replyTo profileOf (.load sources)).1 = .error fault) ↔
          (∃ message, sources.plugins = .failed message) ∨
            run.registered = [] ∧ ∀ entry ∈ sources.entries, entry.2.variant? = none := by
  intro run
  have agrees : Agrees run := agrees_after steps
  refine ⟨?_, ?_, ?_⟩
  · intro call fault failed
    have same : run.call call = run.without call := call_eq_without failed
    constructor
    · rw [same]
      exact run.without_registry call
    · intro later
      rw [same]
  · intro key outcome
    rw [← agrees.register_fails_iff, replyTo]
    cases run.registry.register key outcome <;> simp [Except.map]
  · intro sources
    rw [← agrees.load_fails_iff]
    exact run.registry.replyToLoad_fails_iff sources

/-- A registry that is loaded and has a late registration is loaded again, and the plugins
cannot be listed: all later calls are answered as if this load had not been. -/
theorem failing_load_again_changes_nothing :
    let steps : List (RegistryStep Variant) :=
      [.start builtinVariants, .finish 0, .register "10_upper" (.formatter .upper)]
    let again : RegistryCall Variant := .load ⟨[], .failed "no plugins"⟩
    let run := after steps
    (run.replyTo Variant.profile again).1 =
        .error (.refused (.ofCause .discovery (.discoveryFailed "no plugins"))) ∧
      (run.call again).registry = run.registry ∧
      ∀ later, (run.call again).replies Variant.profile later =
        run.replies Variant.profile later := by
  intro steps again run
  have failed : (run.replyTo Variant.profile again).1 =
      .error (.refused (.ofCause .discovery (.discoveryFailed "no plugins"))) := by
    rfl
  have unchanged := (failing_call_changes_nothing Variant.profile steps).1 again _ failed
  exact ⟨failed, unchanged⟩

end RegistryRun

end PanelClock
