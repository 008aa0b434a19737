import PanelClock.Diagnostic.Error
import PanelClock.Number.Numeral
import PanelClock.Variant.Basic

/-!
# The registry of formatter variants

Variants come from three sources: a table of built-in ones, explicit registrations, and
plugins.  Loading discovers the built-in variants and the plugins, skipping what cannot
be loaded and plugins whose key is taken, and then puts the explicit registrations over
them.  Queries are answered once a load has succeeded.

The registry does not look into variants: the type of its classes is left open.  The
queries that tell more of a variant than its key take its profile from a function.
-/

set_option autoImplicit false

namespace PanelClock

/-- What loading a class gives. -/
inductive LoadOutcome (κ : Type) where
  | formatter (variant : κ)
  /-- Something that is no formatter, as it is shown in messages. -/
  | other (shown : Text)
  | failed (message : Text)
  deriving DecidableEq, Repr

/-- What listing the plugins gives. -/
inductive PluginListing (κ : Type) where
  | listed (plugins : List (Text × LoadOutcome κ))
  | failed (message : Text)
  deriving DecidableEq, Repr

/-- Where variants are discovered: a table of built-in ones and the plugins. -/
structure VariantSources (κ : Type) where
  builtins : List (Text × LoadOutcome κ)
  plugins : PluginListing κ := .listed []
  deriving DecidableEq, Repr

/-- What is logged while a registry loads. -/
inductive RegistryEvent where
  | skippedBuiltin (key reason : Text)
  | skippedPlugin (key reason : Text)
  /-- An explicit registration takes the place of a discovered variant. -/
  | replaced (key : Text)
  | nothingLoaded
  | discoveryFailed (message : Text)
  | loaded (count : Nat)
  deriving DecidableEq, Repr

/-- A logged event as a line of text. -/
def RegistryEvent.line : RegistryEvent → Text
  | skippedBuiltin key reason => "WARNING: Skipping formatter " ++ key ++ ": " ++ reason
  | skippedPlugin key reason => "WARNING: Skipping plugin " ++ key ++ ": " ++ reason
  | replaced key =>
      "WARNING: Formatter " ++ key ++ " registered explicitly replaces discovered one"
  | nothingLoaded => "ERROR: No formatter could be loaded"
  | discoveryFailed message => "ERROR: Formatter discovery failed: " ++ message
  | loaded count => "INFO: Loaded " ++ numeral count ++ " formatters"

/-- Why a registration is refused. -/
inductive RegistrationFault where
  /-- What is registered is no formatter. -/
  | notFormatter (key shown : Text)
  | refused (error : ClockError)
  deriving DecidableEq, Repr

/-- A line of the listing of a registry. -/
structure VariantListing where
  key : Text
  label : Text
  description : Text
  deriving DecidableEq, Repr

/-- What is known of the variant under a key. -/
structure VariantDescriptor extends Profile where
  key : Text
  deriving DecidableEq, Repr

/-- What is said of something that is no formatter. -/
def notFormatterMessage (key shown : Text) : Text :=
  "Formatter '" ++ key ++ "' must be a BaseFormatter subclass, got " ++ shown

namespace VariantSources

variable {κ : Type}

/-- The built-in variants that load, and what is logged of the others. -/
def discoverBuiltins : List (Text × LoadOutcome κ) → List (Text × κ) × List RegistryEvent
  | [] => ([], [])
  | (key, outcome) :: rest =>
      let (found, events) := discoverBuiltins rest
      match outcome with
      | .formatter variant => ((key, variant) :: found, events)
      | .other shown => (found, .skippedBuiltin key (notFormatterMessage key shown) :: events)
      | .failed message => (found, .skippedBuiltin key message :: events)

/-- The plugins that load under keys that are not taken, added to what is found so far,
and what is logged of the others. -/
def discoverPlugins (found : List (Text × κ)) :
    List (Text × LoadOutcome κ) → List (Text × κ) × List RegistryEvent
  | [] => (found, [])
  | (key, outcome) :: rest =>
      let skip (reason : Text) : List (Text × κ) × List RegistryEvent :=
        let (all, events) := discoverPlugins found rest
        (all, .skippedPlugin key reason :: events)
      if (found.lookup key).isSome then skip "key already in use"
      else match outcome with
        | .formatter variant => discoverPlugins (found ++ [(key, variant)]) rest
        | .other shown => skip (notFormatterMessage key shown)
        | .failed message => skip message

/-- The variants of all sources, or the message of a failure to list the plugins. -/
def discover (sources : VariantSources κ) :
    Except Text (List (Text × κ)) × List RegistryEvent :=
  let (found, events) := discoverBuiltins sources.builtins
  match sources.plugins with
  | .failed message => (.error message, events)
  | .listed plugins =>
      let (all, more) := discoverPlugins found plugins
      (.ok all, events ++ more)

end VariantSources

/-- A registry of variants. -/
structure Registry (κ : Type) where
  /-- The explicit registrations, in their order. -/
  explicit : List (Text × κ) := []
  /-- What the last successful load has made known. -/
  formatters : List (Text × κ) := []
  loaded : Bool := false
  deriving DecidableEq, Repr

namespace Registry

variable {κ : Type}

/-! ## Registering and loading -/

/-- Puts a variant under a key, in the place of one that is there. -/
def put (entry : Text × κ) : List (Text × κ) → List (Text × κ)
  | [] => [entry]
  | first :: rest => if first.1 = entry.1 then entry :: rest else first :: put entry rest

/-- Registers a variant under a key. -/
def register (registry : Registry κ) (key : Text) (outcome : LoadOutcome κ) :
    Except RegistrationFault (Registry κ) :=
  match outcome with
  | .formatter variant =>
      if (registry.explicit.lookup key).isSome || (registry.formatters.lookup key).isSome then
        .error (.refused (.ofCause .discovery (.formatterDuplicate key)))
      else
        .ok { registry with
          explicit := registry.explicit ++ [(key, variant)]
          formatters :=
            if registry.loaded then registry.formatters ++ [(key, variant)]
            else registry.formatters }
  | .other shown => .error (.notFormatter key shown)
  | .failed message => .error (.notFormatter key message)

/-- Puts the explicit registrations over discovered variants. -/
def override (discovered : List (Text × κ)) :
    List (Text × κ) → List (Text × κ) × List RegistryEvent
  | [] => (discovered, [])
  | (key, variant) :: rest =>
      let (all, events) := override (put (key, variant) discovered) rest
      (all, if (discovered.lookup key).isSome then .replaced key :: events else events)

/-- Ends a load with what was discovered. -/
def finishLoad (registry : Registry κ) (discovered : Except Text (List (Text × κ))) :
    Except ClockError Unit × Registry κ × List RegistryEvent :=
  match discovered with
  | .error message =>
      (.error (.ofCause .discovery (.discoveryFailed message)), registry,
        [.discoveryFailed message])
  | .ok found =>
      let (all, events) := override found registry.explicit
      if all.isEmpty then
        (.error (.ofCause .discovery (.discoveryFailed "no formatter could be loaded")),
          registry, events ++ [.nothingLoaded])
      else
        (.ok (), { registry with formatters := all, loaded := true },
          events ++ [.loaded all.length])

/-- Loads the variants of all sources. -/
def load (sources : VariantSources κ) (registry : Registry κ) :
    Except ClockError Unit × Registry κ × List RegistryEvent :=
  let (discovered, events) := sources.discover
  let (result, later, more) := registry.finishLoad discovered
  (result, later, events ++ more)

/-! ## Queries -/

/-- What is known, once a load has succeeded. -/
def known (registry : Registry κ) : Except ClockError (List (Text × κ)) :=
  if registry.loaded then .ok registry.formatters
  else .error (.ofCause .discovery .registryNotLoaded)

/-- Entries in ascending order of their keys. -/
def sortEntries (entries : List (Text × κ)) : List (Text × κ) :=
  entries.mergeSort fun first second => !second.1.precedes first.1

/-- The keys in ascending order. -/
def keys (registry : Registry κ) : Except ClockError (List Text) := do
  return (sortEntries (← registry.known)).map (·.1)

/-- Keys that start with an underscore are hidden. -/
def isHidden (key : Text) : Bool := key.head? = some '_'

/-- The variants under keys that are not hidden, in ascending order of their keys. -/
def visible (registry : Registry κ) : Except ClockError (List (Text × κ)) := do
  return (sortEntries (← registry.known)).filter fun entry => !isHidden entry.1

/-- The variant under a key. -/
def get (registry : Registry κ) (key : Text) : Except ClockError κ := do
  match (← registry.known).lookup key with
  | some variant => return variant
  | none => throw (.ofCause .formatterNotFound (.formatterNotFound key))

/-- The variants that are not hidden, each with its label and its description. -/
def listings (profileOf : κ → Profile) (registry : Registry κ) :
    Except ClockError (List VariantListing) := do
  return (← registry.visible).map fun (key, variant) =>
    ⟨key, (profileOf variant).label, (profileOf variant).description⟩

/-- The help of the variant under a key. -/
def help (profileOf : κ → Profile) (registry : Registry κ) (key : Text) :
    Except ClockError (HelpTable Text) := do
  return (profileOf (← registry.get key)).help

/-- All that is known of the variant under a key. -/
def describe (profileOf : κ → Profile) (registry : Registry κ) (key : Text) :
    Except ClockError VariantDescriptor := do
  return { toProfile := profileOf (← registry.get key), key := key }

/-- There is a variant under a key. -/
def contains (registry : Registry κ) (key : Text) : Bool :=
  registry.loaded && (registry.formatters.lookup key).isSome

/-- The number of variants. -/
def size (registry : Registry κ) : Nat := registry.formatters.length

/-- A registry as it is shown in messages. -/
def shown (registry : Registry κ) : Text :=
  if registry.loaded then "FormatterRegistry(" ++ numeral registry.size ++ " formatters)"
  else "FormatterRegistry(not loaded)"

end Registry

/-- The built-in variants. -/
def builtinVariants : VariantSources Variant where
  builtins :=
    [ (TokenFormatter.key, .formatter .token),
      ("02_original", .formatter .classic),
      ("03_swatch", .formatter .beats) ]

end PanelClock
