import PanelClock.Locale.Setting
import PanelClock.Pattern.Formatter
import PanelClock.Zone.Setting

/-!
# Shared formatters

Formatters are shared between all who ask for the same settings of locale and zone.  At
most 64 are kept, and the one that was not asked for the longest goes first.  Every
formatter that is built gets a number of its own, by which two can be told apart.
-/

set_option autoImplicit false

namespace PanelClock

/-- A new formatter for settings, with nothing compiled.  The locale is looked up first. -/
def System.freshFormatter (system : System) (locale zone : Setting) :
    Except (Failure Fault) PatternFormatter := do
  let locale ← (system.resolveLocale locale).mapError .ofConfiguration
  let zone ← system.resolveZone zone
  return PatternFormatter.fresh locale zone

/-- A formatter with its number. -/
structure SharedFormatter where
  number : Nat
  formatter : PatternFormatter

/-- The settings of locale and zone that a formatter is shared under. -/
abbrev SharedKey := Text × Text

/-- The formatters that are shared, the one asked for last at the end. -/
structure SharedFormatters where
  entries : List (SharedKey × SharedFormatter) := []
  /-- The number of the next formatter that is built. -/
  next : Nat := 0

namespace SharedFormatters

/-- How many formatters are kept. -/
def capacity : Nat := 64

/-- The word that a setting is shared under. -/
def keyWord (setting : Setting) : Text :=
  match setting with
  | some (c :: rest) => c :: rest
  | _ => "default"

/-- The key of settings. -/
def key (locale zone : Setting) : SharedKey := (keyWord locale, keyWord zone)

/-- The table with an entry moved or put to its end. -/
def touch (entries : List (SharedKey × SharedFormatter)) (key : SharedKey)
    (shared : SharedFormatter) : List (SharedKey × SharedFormatter) :=
  entries.filter (·.1 ≠ key) ++ [(key, shared)]

/-- The formatter for settings: the one that is shared, else a new one. -/
def get (system : System) (table : SharedFormatters) (locale zone : Setting) :
    Except (Failure Fault) SharedFormatter × SharedFormatters :=
  let key := key locale zone
  match table.entries.lookup key with
  | some shared => (.ok shared, { table with entries := touch table.entries key shared })
  | none =>
      match system.freshFormatter locale zone with
      | .error failure => (.error failure, table)
      | .ok formatter =>
          let shared := ⟨table.next, formatter⟩
          let entries := touch table.entries key shared
          let kept := if capacity < entries.length then entries.drop 1 else entries
          (.ok shared, ⟨kept, table.next + 1⟩)

/-- Puts back a formatter that has compiled more renderers. -/
def update (table : SharedFormatters) (shared : SharedFormatter) : SharedFormatters :=
  { table with
    entries := table.entries.map fun entry =>
      if entry.2.number = shared.number then (entry.1, shared) else entry }

/-- Renders a pattern with the formatter for settings. -/
def format (system : System) (table : SharedFormatters) (locale zone : Setting)
    (pattern : Text) (instant : Instant) :
    Except (Failure Fault) (SharedFormatter × Except (Failure Fault) Text) × SharedFormatters :=
  match table.get system locale zone with
  | (.error failure, table) => (.error failure, table)
  | (.ok shared, table) =>
      let (result, formatter) := shared.formatter.format system pattern instant
      let shared := { shared with formatter := formatter }
      (.ok (shared, result), table.update shared)

/-- The table without its formatters. -/
def clear (table : SharedFormatters) : SharedFormatters := { table with entries := [] }

end SharedFormatters

end PanelClock
