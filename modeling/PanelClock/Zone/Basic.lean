import PanelClock.Fault
import PanelClock.Zone.Rule

/-!
# Time zones

A zone is a fixed offset with a name, or a place whose key selects eras and a yearly
rule.  Taking a moment to a zone gives a local time: the wall time together with what
the clocks observe.  It fails when the moment or its wall time leaves the years 1 to
9999.

An instant may come with the zone whose clocks show it.  Taken to that zone it is the local
time that it came as, wherever the moment lies (`Zone.convert`).
-/

set_option autoImplicit false

namespace PanelClock

/-- A time zone. -/
inductive Zone where
  /-- A fixed number of seconds ahead of universal time. -/
  | fixed (offset : Int) (name : Text)
  /-- A place, whose clocks keep the rule except in the eras. -/
  | place (key : Text) (eras : List Era) (rule : ZoneRule)
  deriving DecidableEq, Repr

/-- The time on the clocks of a zone. -/
structure LocalTime where
  wall : WallTime
  observance : Observance
  deriving DecidableEq, Repr

/-- The moment that a local time denotes. -/
def LocalTime.moment (time : LocalTime) : Moment :=
  time.wall.atOffset (time.observance.offset * microsPerSecond)

namespace Zone

/-- Universal time as a fixed offset. -/
def universal : Zone := fixed 0 "UTC"

/-- The name of a fixed offset: a sign with hours and minutes, and seconds when they are
not zero; universal time has no offset in its name. -/
def offsetName (offset : Int) : Text :=
  if offset = 0 then "UTC"
  else
    let size := offset.natAbs
    let sign := if offset < 0 then '-' else '+'
    let seconds := size % 60
    "UTC" ++ sign :: paddedNumeral 2 (size / 3600) ++ ':' :: paddedNumeral 2 (size / 60 % 60)
      ++ (if seconds = 0 then [] else ':' :: paddedNumeral 2 seconds)

/-- The zone of a fixed offset, named by its offset. -/
def ofOffset (offset : Int) : Zone := fixed offset (offsetName offset)

/-- The key of a place. -/
def key? : Zone → Option Text
  | fixed _ _ => none
  | place key _ _ => some key

/-- The key of a place, the name of a fixed offset. -/
def name : Zone → Text
  | fixed _ name => name
  | place key _ _ => key

/-- What the clocks of a zone observe at a second of universal time, counted from the
start of year 1. -/
def observanceAt (zone : Zone) (second : Int) : Observance :=
  match zone with
  | fixed offset name => ⟨offset, false, name⟩
  | place _ eras rule =>
      match eras.find? fun era => era.start ≤ second && second < era.stop with
      | some era => era.observance
      | none => rule.observanceAt second

/-- The local time of a zone at a moment. -/
def localize (zone : Zone) (moment : Moment) : Except Fault LocalTime :=
  match moment.wallTime? with
  | none => .error .dateOutOfRange
  | some _ =>
      let observance := zone.observanceAt moment.seconds
      match (moment.shift observance.offset).wallTime? with
      | none => .error .dateOutOfRange
      | some wall => .ok ⟨wall, observance⟩

end Zone

/-! ## Instants -/

/-- A time that is given with its offset from universal time. -/
inductive ZonedTime where
  /-- On clocks of its own, which are a number of microseconds ahead of universal time. -/
  | atOffset (wall : WallTime) (offset : Int)
  /-- On the clocks of a zone that comes with it.  Whoever renders in this zone shares it. -/
  | inZone (zone : Zone) (time : LocalTime)
  deriving DecidableEq, Repr

namespace ZonedTime

/-- The moment that a time denotes. -/
def moment : ZonedTime → Moment
  | atOffset wall offset => wall.atOffset offset
  | inZone _ time => time.moment

/-- The zone that comes with a time. -/
def zone? : ZonedTime → Option Zone
  | atOffset _ _ => none
  | inZone zone _ => some zone

end ZonedTime

/-- The local time of a zone at a time.  One that comes with this zone stays as it is, and only
others go through universal time. -/
def Zone.convert (zone : Zone) : ZonedTime → Except Fault LocalTime
  | .atOffset wall offset => zone.localize (wall.atOffset offset)
  | .inZone own time => if own = zone then .ok time else zone.localize time.moment

/-- A time as it is given: with its offset from universal time, or a wall time alone, which is
read on the clocks of the system. -/
inductive Instant where
  | aware (time : ZonedTime)
  | naive (wall : WallTime)
  deriving DecidableEq, Repr

namespace Instant

/-- The wall time of an instant as it is given. -/
def wall : Instant → WallTime
  | aware (.atOffset wall _) => wall
  | aware (.inZone _ time) => time.wall
  | naive wall => wall

/-- The offset of an instant as it is given, in whole seconds cut toward zero; none counts as
zero. -/
def offset : Instant → Int
  | aware (.atOffset _ offset) => offset.tdiv microsPerSecond
  | aware (.inZone _ time) => time.observance.offset
  | naive _ => 0

end Instant

end PanelClock
