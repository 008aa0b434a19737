import PanelClock.Locale.Basic
import PanelClock.Locale.Code
import PanelClock.Zone.Table
import PanelClock.Zone.Variable

/-!
# The system

What the surroundings of the clock say about its place: variables of the environment,
the link that sets the local time, and the locale that the system reports.  From them
follow the locale and the zone that default settings select, and the clocks on which
wall times without an offset are read.

The zones and the locales that there are belong to the surroundings, too.  They are known by
their look-ups; the tables of this library are those of a system that says nothing else.
-/

set_option autoImplicit false

namespace PanelClock

/-- The locale for times that the system reports. -/
inductive ReportedLocale where
  | nothing
  | named (code : Text)
  /-- The report itself fails. -/
  | failed
  deriving DecidableEq, Repr

/-- What the surroundings of the clock say about its place. -/
structure System where
  /-- The variable `TZ`. -/
  timeZone : Option Text := none
  /-- The variable `LC_ALL`. -/
  allLocales : Option Text := none
  /-- The variable `LC_TIME`. -/
  timeLocale : Option Text := none
  /-- The variable `LANG`. -/
  language : Option Text := none
  reported : ReportedLocale := .nothing
  /-- Where the link that sets the local time leads, nothing when it leads nowhere. -/
  localTimeLink : Option Text := none
  /-- The second of universal time, counted from the start of year 1, whose offset stands
  for the zone where no place is named. -/
  present : Int := Date.toDay ⟨2026, 1, 15⟩ * 86400
  /-- The zone of a place. -/
  places : Text → Option Zone := zoneOfKey?
  /-- The zone of a file that a path leads to. -/
  files : Text → Option Zone := zoneOfPath?
  /-- The locale that a code names. -/
  locales : Text → Except LocaleFault Locale := Locale.read

namespace System

/-- A system in universal time that says nothing about its locale. -/
def standard : System := { timeZone := some "UTC" }

/-! ## The locale -/

/-- Names that say that there is no locale. -/
def pseudoLocales : List Text := ["C", "POSIX"]

/-- The code that the system reports, unless it is empty or says that there is none. -/
def reportedCode? (system : System) : Option Text :=
  match system.reported with
  | .named code => if code.isEmpty || pseudoLocales.contains code then none else some code
  | _ => none

/-- The code that a variable gives, unless it is empty or says that there is none. -/
def variableCode? (value : Option Text) : Option Text :=
  value.filter fun code =>
    !(code.isEmpty || pseudoLocales.contains code || code = ("C.UTF-8" : Text))

/-- The locale of the system: the reported one, else the first that a variable gives,
else American English. -/
def localeCode (system : System) : Text :=
  let code? := system.reportedCode?
    <|> variableCode? system.allLocales
    <|> variableCode? system.timeLocale
    <|> variableCode? system.language
  (code?.map normalizeLocale).getD "en_US"

/-! ## The zone -/

/-- The path of the link that sets the local time. -/
def localTimePath : Text := "/etc/localtime"

/-- What the clocks of the system observe at a second of universal time: those of the
place that the variable leads to, else those that it spells out.  One colon in front of it
is dropped.  Without a variable, or with one that is the link, the clocks are in universal
time, and an empty one spells out a word for it. -/
def clocks (system : System) (second : Int) : Observance :=
  let value : Text := match system.timeZone with
    | none => []
    | some [] => "Universal"
    | some (':' :: rest) => rest
    | some value => value
  if value.isEmpty || value = localTimePath then Zone.universal.observanceAt second
  else match system.files value with
    | some zone => zone.observanceAt second
    | none => (Variable.readRule value).observanceAt second

/-- The place of the system: the one that the variable names, else the one that the link
that sets the local time names. -/
def place? (system : System) : Option Zone :=
  let key := (system.timeZone.getD []).dropWhile (· = ':')
  system.places key <|>
    (system.localTimeLink.bind (Text.afterKey "zoneinfo/")).bind system.places

/-- The zone of the system: its place, else the clocks as they are, which have to be without
a `zoneFault?`. -/
def zone (system : System) : Zone :=
  let observance := system.clocks system.present
  system.place?.getD (.fixed observance.offset observance.abbreviation)

/-- The offset of an observance, which may not be a whole day or more. -/
def checkedOffset (observance : Observance) : Except Fault Int :=
  if observance.offset.natAbs < 86400 then .ok observance.offset
  else .error (.offsetTooLarge observance.offset)

/-- Why the system has no zone: nothing names a place, and the clocks as they are are too
far from universal time. -/
def zoneFault? (system : System) : Option Fault :=
  match system.place?, checkedOffset (system.clocks system.present) with
  | none, .error fault => some fault
  | _, _ => none

/-! ## Wall times without an offset -/

/-- The second that clocks show, counted from the start of year 1, at a second of
universal time. -/
def shownSecond (clocks : Int → Observance) (second : Int) : Except Fault Int :=
  let shown := second + (clocks second).offset
  if shown < 0 then .error (.yearOutOfRange 0)
  else if calendarDays * 86400 ≤ shown then .error (.yearOutOfRange 10000)
  else .ok shown

/-- A second of universal time whose offset a shown second is read with: the earlier one of
two at which clocks show it, and when clocks skip it, the later one of the two seconds that
the offsets around the gap lead to. -/
def secondShowing (clocks : Int → Observance) (shown : Int) : Except Fault Int := do
  let ahead := (← shownSecond clocks shown) - shown
  let first := shown - ahead
  let firstShown ← shownSecond clocks first
  let other ←
    if firstShown = shown then
      pure ((← shownSecond clocks (first - 86400)) - (first - 86400))
    else pure (firstShown - first)
  if firstShown = shown ∧ other = ahead then return first
  let second := shown - other
  if (← shownSecond clocks second) = shown then return second
  if firstShown = shown then return first
  return max first second

/-- The moment at which the clocks of the system show a wall time. -/
def momentOfWall (system : System) (wall : WallTime) : Except Fault Moment := do
  let second ← secondShowing system.clocks (wall.micros / microsPerSecond : Nat)
  return wall.atOffset ((← checkedOffset (system.clocks second)) * microsPerSecond)

/-- The moment at which the clocks of the system show a wall time, told by them again: their
time at the moment has to be one, too. -/
def momentOfClocks (system : System) (wall : WallTime) : Except Fault Moment := do
  let moment ← system.momentOfWall wall
  let _ ← Zone.universal.localize moment
  let offset ← checkedOffset (system.clocks moment.seconds)
  let _ ← (Zone.ofOffset offset).localize moment
  return moment

/-- The local time of a zone at an instant. -/
def localTime (system : System) (zone : Zone) : Instant → Except Fault LocalTime
  | .aware time => zone.convert time
  | .naive wall => do zone.localize (← system.momentOfWall wall)

/-- The local time of a zone at an instant, where one without an offset is first told by the
clocks of the system. -/
def clockTime (system : System) (zone : Zone) : Instant → Except Fault LocalTime
  | .aware time => zone.convert time
  | .naive wall => do zone.localize (← system.momentOfClocks wall)

end System

end PanelClock
