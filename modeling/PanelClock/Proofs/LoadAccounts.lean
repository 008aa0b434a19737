import Mathlib.Data.List.Forall2
import PanelClock.Proofs.RegistryFailures

/-!
# What becomes of the entries of a load

A load goes through the entries of its sources and logs a warning for each one that does
not make it into the registry.  This module keeps the books.  Discovery divides the
entries into those that are found and those that are warned of
(`VariantSources.discover_division`), and putting explicit registrations over what was
found divides that into what is kept and what is replaced
(`Registry.override_division`).

Together they give the account of a load (`LoadAccount`): the entries are the held ones
and the ones that are warned of, each of the latter explained by a warning of its own
(`RegistryEvent.Explains`), and the registry holds the registrations and the held
entries.  So no variant disappears without a warning
(`RegistryRun.load_is_accounted_for`).
-/

set_option autoImplicit false

namespace PanelClock

variable {κ : Type}

/-! ## Warnings -/

/-- The entry of a source that gives a variant under a key. -/
def loadingEntry (entry : Text × κ) : Text × LoadOutcome κ := (entry.1, .formatter entry.2)

/-- Two divisions of lists are one of the joined list. -/
theorem append_division {α : Type} {first second held held' warned warned' : List α}
    (divided : first.Perm (held ++ warned)) (divided' : second.Perm (held' ++ warned')) :
    (first ++ second).Perm ((held ++ held') ++ (warned ++ warned')) := by
  refine (divided.append divided').trans ?_
  rw [List.append_assoc, List.append_assoc]
  exact (List.perm_append_comm_assoc warned held' warned').append_left held

namespace RegistryEvent

/-- A logged event explains why an entry is not held, where some keys are registered and some
keys are in use. -/
inductive Explains (registered inUse : List Text) : RegistryEvent → Text × LoadOutcome κ → Prop
  | builtinFails (key message : Text) :
      Explains registered inUse (.skippedBuiltin key message) (key, .failed message)
  | builtinIsOther (key shown : Text) :
      Explains registered inUse (.skippedBuiltin key (notFormatterMessage key shown))
        (key, .other shown)
  | pluginFails (key message : Text) :
      Explains registered inUse (.skippedPlugin key message) (key, .failed message)
  | pluginIsOther (key shown : Text) :
      Explains registered inUse (.skippedPlugin key (notFormatterMessage key shown))
        (key, .other shown)
  | pluginIsLate {key : Text} {outcome : LoadOutcome κ} (taken : key ∈ inUse) :
      Explains registered inUse (.skippedPlugin key "key already in use") (key, outcome)
  | isReplaced {key : Text} {variant : κ} (registration : key ∈ registered) :
      Explains registered inUse (.replaced key) (key, .formatter variant)

/-- The line of an event is a warning in which a key stands. -/
def WarnsOf (event : RegistryEvent) (key : Text) : Prop :=
  ("WARNING: " : Text) <+: event.line ∧ key <:+: event.line

/-- A key stands in a warning that goes on with it. -/
theorem warnsOf_of_line {event : RegistryEvent} {key before after : Text}
    (warning : ("WARNING: " : Text) <+: before) (line : event.line = before ++ key ++ after) :
    event.WarnsOf key := by
  unfold WarnsOf
  rw [line]
  refine ⟨?_, List.infix_append before key after⟩
  rw [List.append_assoc]
  exact warning.trans (List.prefix_append before (key ++ after))

/-- What explains why an entry is not held is a warning that names the key of the entry. -/
theorem Explains.warnsOf {registered inUse : List Text} {event : RegistryEvent}
    {entry : Text × LoadOutcome κ} (explains : Explains registered inUse event entry) :
    event.WarnsOf entry.1 := by
  have builtin : ("WARNING: " : Text) <+: ("WARNING: Skipping formatter " : Text) := by decide
  have plugin : ("WARNING: " : Text) <+: ("WARNING: Skipping plugin " : Text) := by decide
  have explicit : ("WARNING: " : Text) <+: ("WARNING: Formatter " : Text) := by decide
  cases explains with
  | builtinFails key message => exact warnsOf_of_line builtin (List.append_assoc _ _ _)
  | builtinIsOther key shown => exact warnsOf_of_line builtin (List.append_assoc _ _ _)
  | pluginFails key message => exact warnsOf_of_line plugin (List.append_assoc _ _ _)
  | pluginIsOther key shown => exact warnsOf_of_line plugin (List.append_assoc _ _ _)
  | pluginIsLate taken => exact warnsOf_of_line plugin (List.append_assoc _ _ _)
  | isReplaced registration => exact warnsOf_of_line explicit rfl

/-- Every entry that is explained has its event. -/
theorem exists_explains {registered inUse : List Text} {events : List RegistryEvent}
    {entries : List (Text × LoadOutcome κ)}
    (explained : List.Forall₂ (Explains registered inUse) events entries)
    {entry : Text × LoadOutcome κ} (member : entry ∈ entries) :
    ∃ event ∈ events, Explains registered inUse event entry := by
  induction explained with
  | nil => cases member
  | cons explains _ ih =>
      rcases List.mem_cons.mp member with rfl | later
      · exact ⟨_, List.mem_cons_self, explains⟩
      · obtain ⟨event, among, explains⟩ := ih later
        exact ⟨event, List.mem_cons_of_mem _ among, explains⟩

end RegistryEvent

open RegistryEvent (Explains)

/-! ## Discovery -/

namespace VariantSources

/-- **The built-in entries are those that are found and those that are warned of.** -/
theorem discoverBuiltins_division (registered inUse : List Text)
    (entries : List (Text × LoadOutcome κ)) :
    ∃ warned, entries.Perm ((discoverBuiltins entries).1.map loadingEntry ++ warned) ∧
      List.Forall₂ (Explains registered inUse) (discoverBuiltins entries).2 warned := by
  induction entries with
  | nil => exact ⟨[], .refl [], .nil⟩
  | cons entry rest ih =>
      obtain ⟨warned, divided, explained⟩ := ih
      obtain ⟨key, outcome⟩ := entry
      cases outcome with
      | formatter variant => exact ⟨warned, divided.cons _, explained⟩
      | other shown =>
          exact ⟨(key, .other shown) :: warned, List.perm_cons_append_cons _ divided,
            .cons (.builtinIsOther key shown) explained⟩
      | failed message =>
          exact ⟨(key, .failed message) :: warned, List.perm_cons_append_cons _ divided,
            .cons (.builtinFails key message) explained⟩

/-- What is found of the built-in entries stands under their keys, in their order. -/
theorem discoverBuiltins_sublist (entries : List (Text × LoadOutcome κ)) :
    ((discoverBuiltins entries).1.map Prod.fst).Sublist (entries.map Prod.fst) := by
  induction entries with
  | nil => exact .slnil
  | cons entry rest ih =>
      obtain ⟨key, outcome⟩ := entry
      cases outcome with
      | formatter variant => exact ih.cons_cons key
      | other shown => exact ih.cons key
      | failed message => exact ih.cons key

/-- **A plugin is added or skipped**: it is added under a key that is free, and what is logged of
a skipped one explains why. -/
theorem discoverPlugins_cons (found : List (Text × κ)) (entry : Text × LoadOutcome κ)
    (rest : List (Text × LoadOutcome κ)) :
    (∃ variant, entry = loadingEntry (entry.1, variant) ∧ entry.1 ∉ found.map Prod.fst ∧
      discoverPlugins found (entry :: rest) =
        discoverPlugins (found ++ [(entry.1, variant)]) rest) ∨
      ∃ reason, (∀ registered inUse, found.map Prod.fst ⊆ inUse →
          Explains registered inUse (.skippedPlugin entry.1 reason) entry) ∧
        discoverPlugins found (entry :: rest) =
          ((discoverPlugins found rest).1,
            .skippedPlugin entry.1 reason :: (discoverPlugins found rest).2) := by
  obtain ⟨key, outcome⟩ := entry
  rw [discoverPlugins.eq_def]
  dsimp only
  split
  · next taken =>
      refine .inr ⟨_, fun registered inUse within => ?_, rfl⟩
      exact .pluginIsLate (within (isSome_lookup_iff_mem.mp taken))
  · next free =>
      rw [isSome_lookup_iff_mem] at free
      cases outcome with
      | formatter variant => exact .inl ⟨variant, rfl, free, rfl⟩
      | other shown => exact .inr ⟨_, fun _ _ _ => .pluginIsOther key shown, rfl⟩
      | failed message => exact .inr ⟨_, fun _ _ _ => .pluginFails key message, rfl⟩

/-- **The plugins are those that are added to what was found and those that are warned of**,
where the keys under which something is found in the end are in use. -/
theorem discoverPlugins_division (registered : List Text) {inUse : List Text}
    (found : List (Text × κ)) (entries : List (Text × LoadOutcome κ))
    (within : (discoverPlugins found entries).1.map Prod.fst ⊆ inUse) :
    ∃ added warned, (discoverPlugins found entries).1 = found ++ added ∧
      entries.Perm (added.map loadingEntry ++ warned) ∧
      List.Forall₂ (Explains registered inUse) (discoverPlugins found entries).2 warned := by
  induction entries generalizing found with
  | nil => exact ⟨[], [], (List.append_nil found).symm, .refl [], .nil⟩
  | cons entry rest ih =>
      rcases discoverPlugins_cons found entry rest with
        ⟨variant, loads, -, step⟩ | ⟨reason, explains, step⟩
      · rw [step] at within ⊢
        obtain ⟨added, warned, all, divided, explained⟩ := ih _ within
        refine ⟨(entry.1, variant) :: added, warned, ?_, ?_, explained⟩
        · rw [all, List.append_assoc]
          rfl
        · rw [List.map_cons, ← loads]
          exact divided.cons entry
      · rw [step] at within ⊢
        obtain ⟨added, warned, all, divided, explained⟩ := ih found within
        -- What is found stays found, so a key that is taken now is in use in the end.
        have used : found.map Prod.fst ⊆ inUse := by
          rw [all, List.map_append] at within
          exact List.Subset.trans (List.subset_append_left _ _) within
        exact ⟨added, entry :: warned, all, List.perm_cons_append_cons entry divided,
          .cons (explains registered inUse used) explained⟩

/-- No key is found twice when none was before. -/
theorem discoverPlugins_nodup {found : List (Text × κ)} (distinct : (found.map Prod.fst).Nodup)
    (entries : List (Text × LoadOutcome κ)) :
    ((discoverPlugins found entries).1.map Prod.fst).Nodup := by
  induction entries generalizing found with
  | nil => exact distinct
  | cons entry rest ih =>
      rcases discoverPlugins_cons found entry rest with
        ⟨variant, -, free, step⟩ | ⟨reason, -, step⟩
      · rw [step]
        apply ih
        rw [List.map_append, List.map_singleton, ← List.concat_eq_append]
        exact distinct.concat free
      · rw [step]
        exact ih distinct

/-- **The entries of sources are those that are discovered and those that are warned of**, and
no key is discovered twice. -/
theorem discover_division {sources : VariantSources κ} {found : List (Text × κ)}
    (table : (sources.builtins.map Prod.fst).Nodup)
    (discovered : sources.discover.1 = .ok found) (registered : List Text) {inUse : List Text}
    (within : found.map Prod.fst ⊆ inUse) :
    (found.map Prod.fst).Nodup ∧
      ∃ warned, sources.entries.Perm (found.map loadingEntry ++ warned) ∧
        List.Forall₂ (Explains registered inUse) sources.discover.2 warned := by
  unfold discover at discovered ⊢
  unfold entries
  cases listing : sources.plugins with
  | failed message =>
      rw [listing] at discovered
      cases discovered
  | listed plugins =>
      rw [listing] at discovered
      cases discovered
      obtain ⟨failing, builtins, reasons⟩ :=
        discoverBuiltins_division registered inUse sources.builtins
      obtain ⟨added, warned, all, divided, explained⟩ :=
        discoverPlugins_division registered _ plugins within
      refine ⟨discoverPlugins_nodup (table.sublist (discoverBuiltins_sublist _)) plugins,
        failing ++ warned, ?_, List.rel_append reasons explained⟩
      rw [all, List.map_append]
      exact append_division builtins divided

end VariantSources

/-! ## Explicit registrations -/

namespace Registry

/-- What is put under a key is added, or takes the place of one entry under the key. -/
theorem put_division (entry : Text × κ) (entries : List (Text × κ)) :
    (entries.lookup entry.1 = none ∧ (put entry entries).Perm (entry :: entries)) ∨
      ∃ old others, entries.lookup entry.1 = some old ∧
        entries.Perm ((entry.1, old) :: others) ∧ (put entry entries).Perm (entry :: others) := by
  induction entries with
  | nil => exact .inl ⟨rfl, .refl _⟩
  | cons first rest ih =>
      rw [put, lookup_cons_eq_ite]
      by_cases same : first.1 = entry.1
      · rw [if_pos same, if_pos same]
        refine .inr ⟨first.2, rest, rfl, ?_, .refl _⟩
        rw [← same]
      · rw [if_neg same, if_neg same]
        rcases ih with ⟨absent, added⟩ | ⟨old, others, here, before, after⟩
        · exact .inl ⟨absent, (added.cons first).trans (.swap entry first rest)⟩
        · exact .inr ⟨old, first :: others, here,
            (before.cons first).trans (.swap _ first others),
            (after.cons first).trans (.swap entry first others)⟩

/-- What is put under a key is there. -/
theorem mem_put (entry : Text × κ) (entries : List (Text × κ)) : entry ∈ put entry entries := by
  rcases put_division entry entries with ⟨-, added⟩ | ⟨old, others, -, -, after⟩
  · exact added.mem_iff.mpr List.mem_cons_self
  · exact after.mem_iff.mpr List.mem_cons_self

/-- No key is there twice after a variant is put under one. -/
theorem put_nodup (entry : Text × κ) {entries : List (Text × κ)}
    (distinct : (entries.map Prod.fst).Nodup) : ((put entry entries).map Prod.fst).Nodup := by
  rcases put_division entry entries with ⟨absent, added⟩ | ⟨old, others, -, before, after⟩
  · rw [(added.map Prod.fst).nodup_iff]
    exact List.nodup_cons.mpr ⟨lookup_eq_none_iff_notMem.mp absent, distinct⟩
  · rw [(before.map Prod.fst).nodup_iff] at distinct
    rw [(after.map Prod.fst).nodup_iff]
    exact distinct

/-- No key is there twice after explicit registrations are put over what was discovered. -/
theorem override_nodup (explicit : List (Text × κ)) {discovered : List (Text × κ)}
    (distinct : (discovered.map Prod.fst).Nodup) :
    ((override discovered explicit).1.map Prod.fst).Nodup := by
  induction explicit generalizing discovered with
  | nil => exact distinct
  | cons entry rest ih => exact ih (put_nodup entry distinct)

/-- **What was discovered is what is kept and what is replaced**: the explicit registrations
and what is kept are known in the end, and each replaced entry is logged. -/
theorem override_division {explicit : List (Text × κ)}
    (nodup : (explicit.map Prod.fst).Nodup) (discovered : List (Text × κ)) :
    ∃ kept replaced, (override discovered explicit).1.Perm (explicit ++ kept) ∧
      discovered.Perm (kept ++ replaced) ∧
      replaced.map Prod.fst ⊆ explicit.map Prod.fst ∧
      (override discovered explicit).2 = replaced.map fun entry => .replaced entry.1 := by
  induction explicit generalizing discovered with
  | nil => exact ⟨discovered, [], .refl _, by simp, by simp, rfl⟩
  | cons entry rest ih =>
      obtain ⟨fresh, later⟩ := List.nodup_cons.mp nodup
      obtain ⟨kept, replaced, known, divided, within, logged⟩ := ih later (put entry discovered)
      obtain ⟨key, variant⟩ := entry
      -- The registration itself is kept by the later ones, which have other keys.
      have member : (key, variant) ∈ kept := by
        rcases List.mem_append.mp (divided.mem_iff.mp (mem_put (key, variant) discovered))
          with here | there
        · exact here
        · exact absurd (within (List.mem_map_of_mem there)) fresh
      obtain ⟨before, after, rfl⟩ := List.append_of_mem member
      have split := divided.trans (List.perm_middle.append_right replaced)
      have known : (override (put (key, variant) discovered) rest).1.Perm
          ((key, variant) :: rest ++ (before ++ after)) :=
        known.trans ((List.perm_middle.append_left rest).trans List.perm_middle)
      rw [override]
      dsimp only
      rcases put_division (key, variant) discovered with
        ⟨absent, added⟩ | ⟨old, others, here, was, put⟩
      · refine ⟨before ++ after, replaced, known, ?_, ?_, ?_⟩
        · exact (added.symm.trans split).cons_inv
        · exact List.subset_cons_of_subset _ within
        · rw [absent]
          exact logged
      · refine ⟨before ++ after, (key, old) :: replaced, known, ?_, ?_, ?_⟩
        · exact was.trans (List.perm_cons_append_cons _ (put.symm.trans split).cons_inv)
        · exact List.cons_subset_cons key within
        · rw [here, logged]
          rfl

/-- A load that succeeds at its end makes known what was discovered under the explicit
registrations, and logs how much it is. -/
theorem finishLoad_eq_of_succeeds {registry : Registry κ}
    {discovered : Except Text (List (Text × κ))}
    (succeeded : (registry.finishLoad discovered).1 = .ok ()) :
    ∃ found, discovered = .ok found ∧
      (registry.finishLoad discovered).2.1 =
        { registry with formatters := (override found registry.explicit).1, loaded := true } ∧
      (registry.finishLoad discovered).2.2 =
        (override found registry.explicit).2 ++
          [.loaded (override found registry.explicit).1.length] := by
  unfold finishLoad at succeeded ⊢
  cases discovered with
  | error message => cases succeeded
  | ok found =>
      refine ⟨found, rfl, ?_⟩
      dsimp only at succeeded ⊢
      split at succeeded
      · cases succeeded
      · next something =>
          rw [if_neg something]
          exact ⟨rfl, rfl⟩

end Registry

/-! ## The account of a load -/

/-- The account of a load: some entries of the sources are held and the others are warned of,
each with its own warning, and the registry that is loaded holds the explicit registrations and
the held entries, no key twice. -/
structure LoadAccount (registered : List (Text × κ)) (sources : VariantSources κ)
    (later : Registry κ) (held : List (Text × κ)) (warned : List (Text × LoadOutcome κ))
    (warnings : List RegistryEvent) : Prop where
  divided : sources.entries.Perm (held.map loadingEntry ++ warned)
  explained : List.Forall₂
    (Explains (registered.map Prod.fst) (later.formatters.map Prod.fst)) warnings warned
  loaded : later.loaded = true
  known : later.formatters.Perm (registered ++ held)
  distinct : (later.formatters.map Prod.fst).Nodup

namespace LoadAccount

variable {registered : List (Text × κ)} {sources : VariantSources κ} {registry later : Registry κ}
  {held : List (Text × κ)} {warned : List (Text × LoadOutcome κ)} {warnings : List RegistryEvent}

/-- **A load that succeeds has an account**, and after its warnings it logs how many variants
the registry holds. -/
theorem of_load (nodup : (registry.explicit.map Prod.fst).Nodup)
    (table : (sources.builtins.map Prod.fst).Nodup)
    (succeeded : (Registry.load sources registry).1 = .ok ()) :
    ∃ held warned warnings,
      LoadAccount registry.explicit sources (Registry.load sources registry).2.1
        held warned warnings ∧
      (Registry.load sources registry).2.2 =
        warnings ++ [.loaded (Registry.load sources registry).2.1.size] := by
  have ended : (registry.finishLoad sources.discover.1).1 = .ok () := succeeded
  obtain ⟨found, discovered, changed, logged⟩ := Registry.finishLoad_eq_of_succeeds ended
  obtain ⟨held, replaced, known, kept, within, replacing⟩ :=
    Registry.override_division nodup found
  rw [Registry.load]
  dsimp only
  rw [changed, logged, ← List.append_assoc]
  have inUse : found.map Prod.fst ⊆
      (Registry.override found registry.explicit).1.map Prod.fst := by
    intro key member
    rw [((known.map Prod.fst).mem_iff), List.map_append, List.mem_append]
    rw [(kept.map Prod.fst).mem_iff, List.map_append, List.mem_append] at member
    exact member.elim .inr fun there => .inl (within there)
  obtain ⟨distinct, skipped, divided, explained⟩ :=
    VariantSources.discover_division table discovered (registry.explicit.map Prod.fst) inUse
  refine ⟨held, skipped ++ replaced.map loadingEntry, _, ⟨?_, ?_, rfl, known, ?_⟩, rfl⟩
  · have found_entries := (kept.map loadingEntry).append_right skipped
    rw [List.map_append, List.append_assoc] at found_entries
    exact divided.trans (found_entries.trans (List.perm_append_comm.append_left _))
  · refine List.rel_append explained ?_
    rw [replacing, List.forall₂_map_left_iff, List.forall₂_map_right_iff, List.forall₂_same]
    intro entry member
    exact .isReplaced (within (List.mem_map_of_mem member))
  · exact Registry.override_nodup _ distinct

/-- A variant is found in the registry exactly where the registry holds it. -/
theorem get_eq_ok_iff (account : LoadAccount registered sources later held warned warnings)
    {key : Text} {variant : κ} :
    later.get key = .ok variant ↔ (key, variant) ∈ later.formatters := by
  rw [← lookup_eq_some_iff_mem account.distinct, Registry.get_eq account.loaded]
  cases later.formatters.lookup key <;> simp

/-- **An entry is under its key in the registry or is warned of.** -/
theorem held_or_warned (account : LoadAccount registered sources later held warned warnings)
    {entry : Text × LoadOutcome κ} (member : entry ∈ sources.entries) :
    (∃ variant, entry.2 = .formatter variant ∧ later.get entry.1 = .ok variant) ∨
      ∃ event ∈ warnings, event.WarnsOf entry.1 ∧
        Explains (registered.map Prod.fst) (later.formatters.map Prod.fst) event entry := by
  rcases List.mem_append.mp (account.divided.mem_iff.mp member) with here | there
  · obtain ⟨⟨key, variant⟩, among, rfl⟩ := List.mem_map.mp here
    refine .inl ⟨variant, rfl, account.get_eq_ok_iff.mpr ?_⟩
    exact account.known.mem_iff.mpr (List.mem_append_right _ among)
  · obtain ⟨event, among, explains⟩ := RegistryEvent.exists_explains account.explained there
    exact .inr ⟨event, among, explains.warnsOf, explains⟩

/-- **A variant in the registry comes from one source**: under its key there is one explicit
registration or held entry and no other. -/
theorem one_source (account : LoadAccount registered sources later held warned warnings)
    {key : Text} {variant : κ} (found : later.get key = .ok variant) :
    (registered ++ held).filter (·.1 = key) = [(key, variant)] := by
  rw [account.get_eq_ok_iff] at found
  have same := account.known.filter (·.1 = key)
  rw [filter_key_eq_singleton account.distinct found] at same
  exact (List.singleton_perm.mp same).symm

/-- **The keys of the registry are listed once each**, and they are as many as are logged. -/
theorem keys_eq_ok (account : LoadAccount registered sources later held warned warnings) :
    ∃ keys, later.keys = .ok keys ∧ keys.Nodup ∧ keys.length = later.size := by
  have sorted := Registry.sortedKeys_perm later.formatters
  refine ⟨_, Registry.keys_eq_ok account.loaded, sorted.nodup_iff.mpr account.distinct, ?_⟩
  rw [sorted.length_eq, List.length_map]
  rfl

end LoadAccount

namespace RegistryRun

/-- **No variant disappears silently.**  After any registrations and loads, a load that succeeds
has an account, where the built-in table has no key twice: the entries of the sources are held
or warned of.  So each entry has its own variant under its key in the registry, or the load has
logged a warning that names the key and tells why: the entry fails to load or is no formatter,
its key is in use, or an explicit registration replaces it.  Each variant in the registry comes
from exactly one explicit registration or held entry, and the last thing logged is the number
of the registry's keys. -/
theorem load_is_accounted_for (steps : List (RegistryStep κ)) (sources : VariantSources κ)
    (table : (sources.builtins.map Prod.fst).Nodup)
    (succeeded : (Registry.load sources (after steps).registry).1 = .ok ()) :
    let registered := (after steps).registered
    let later := (Registry.load sources (after steps).registry).2.1
    let events := (Registry.load sources (after steps).registry).2.2
    ∃ held warned warnings keys,
      LoadAccount registered sources later held warned warnings ∧
      (∀ entry ∈ sources.entries,
        (∃ variant, entry.2 = .formatter variant ∧ later.get entry.1 = .ok variant) ∨
          ∃ event ∈ warnings, event.WarnsOf entry.1 ∧
            Explains (registered.map Prod.fst) (later.formatters.map Prod.fst) event entry) ∧
      (∀ key variant, later.get key = .ok variant →
        (registered ++ held).filter (·.1 = key) = [(key, variant)]) ∧
      later.keys = .ok keys ∧ keys.Nodup ∧ events = warnings ++ [.loaded keys.length] := by
  intro registered later events
  have agrees : Agrees (after steps) := agrees_after steps
  have nodup : ((after steps).registry.explicit.map Prod.fst).Nodup := by
    rw [agrees.explicit]
    exact agrees.distinct
  obtain ⟨held, warned, warnings, account, logged⟩ := LoadAccount.of_load nodup table succeeded
  rw [agrees.explicit] at account
  obtain ⟨keys, listed, once, counted⟩ := account.keys_eq_ok
  refine ⟨held, warned, warnings, keys, account, ?_, ?_, listed, once, ?_⟩
  · intro entry member
    exact account.held_or_warned member
  · intro key variant found
    exact account.one_source found
  · rw [counted]
    exact logged

/-- A plugin takes the key of a built-in variant that fails to load, another plugin repeats its
name, a plugin that is no formatter has one of its name after it, and a registration replaces a
built-in variant: three entries are held and the other four have their warnings. -/
theorem load_of_repeated_names_is_accounted_for :
    let steps : List (RegistryStep Variant) := [.register "03_swatch" (.formatter .upper)]
    let sources : VariantSources Variant := {
      builtins :=
        [ ("01_luxon", .formatter .token), ("02_original", .failed "no module"),
          ("03_swatch", .formatter .beats) ]
      plugins := .listed
        [ ("02_original", .formatter .classic), ("02_original", .formatter .recording),
          ("10_upper", .other "42"), ("10_upper", .formatter .upper) ] }
    let later := (Registry.load sources (after steps).registry).2.1
    (sources.builtins.map Prod.fst).Nodup ∧
      (Registry.load sources (after steps).registry).1 = .ok () ∧
      (Registry.load sources (after steps).registry).2.2 =
        [ .skippedBuiltin "02_original" "no module",
          .skippedPlugin "02_original" "key already in use",
          .skippedPlugin "10_upper" (notFormatterMessage "10_upper" "42"),
          .replaced "03_swatch", .loaded 4 ] ∧
      ∃ held warned warnings,
        LoadAccount (after steps).registered sources later held warned warnings := by
  intro steps sources later
  have table : (sources.builtins.map Prod.fst).Nodup := by decide +kernel
  have succeeded : (Registry.load sources (after steps).registry).1 = .ok () := by
    decide +kernel
  obtain ⟨held, warned, warnings, keys, account, -⟩ :=
    load_is_accounted_for steps sources table succeeded
  exact ⟨table, succeeded, by decide +kernel, held, warned, warnings, account⟩

end RegistryRun

end PanelClock
