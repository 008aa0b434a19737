import PanelClock.Zone.Basic

/-!
# The zone table

The places whose zones are known, each with its yearly rule.  Some carry eras from
before the rule: local mean time, a war or an experiment.  The rule is that of the present
and stands for all years outside the eras, so a place need not have kept it that long.
-/

set_option autoImplicit false

namespace PanelClock

/-- The second of universal time, counted from the start of year 1, of a date and a time
of day. -/
private def secondOf (year month day hour minute second : Nat) : Int :=
  (Date.toDay ⟨year, month, day⟩ * 86400 + (hour * 60 + minute) * 60 + second : Nat)

private def standardTime (offset : Int) (abbreviation : Text) : Observance :=
  ⟨offset, false, abbreviation⟩

private def daylightTime (offset : Int) (abbreviation : Text) : Observance :=
  ⟨offset, true, abbreviation⟩

private def northAmerica (offset : Int) (standard daylight : Text) : ZoneRule :=
  { standard := standardTime offset standard
    daylight := some ⟨daylightTime (offset + 3600) daylight, ⟨.weekday 3 2 0, 7200⟩,
      ⟨.weekday 11 1 0, 7200⟩⟩ }

/-- Clocks in Europe change at one in the morning of universal time. -/
private def europe (offset : Int) (standard daylight : Text) : ZoneRule :=
  { standard := standardTime offset standard
    daylight := some ⟨daylightTime (offset + 3600) daylight, ⟨.weekday 3 5 0, 3600 + offset⟩,
      ⟨.weekday 10 5 0, 7200 + offset⟩⟩ }

private def constant (offset : Int) (abbreviation : Text) : ZoneRule :=
  { standard := standardTime offset abbreviation }

/-- A second before every moment of the years 1 to 9999. -/
private def beforeAll : Int := -86400 * 365

/-- Local mean time, kept from the beginning. -/
private def meanTime (offset stop : Int) : Era := ⟨beforeAll, stop, standardTime offset "LMT"⟩

/-- The zones of known places. -/
def zoneTable : List Zone :=
  [ .place "America/New_York" [meanTime (-17762) (secondOf 1883 11 18 17 0 0)]
      (northAmerica (-18000) "EST" "EDT"),
    .place "America/St_Johns" [meanTime (-12652) (secondOf 1884 1 1 3 30 52)]
      (northAmerica (-12600) "NST" "NDT"),
    .place "Europe/London"
      [ meanTime (-75) (secondOf 1847 12 1 0 1 15),
        ⟨secondOf 1968 10 26 23 0 0, secondOf 1971 10 31 2 0 0, standardTime 3600 "BST"⟩ ]
      (europe 0 "GMT" "BST"),
    .place "Europe/Berlin"
      [ meanTime 3208 (secondOf 1893 3 31 23 6 32),
        ⟨secondOf 1945 5 24 0 0 0, secondOf 1945 9 24 0 0 0, daylightTime 10800 "CEMT"⟩ ]
      (europe 3600 "CET" "CEST"),
    .place "Asia/Tokyo" [meanTime 33539 (secondOf 1887 12 31 15 0 0)] (constant 32400 "JST"),
    .place "Asia/Kolkata"
      [ meanTime 21208 (secondOf 1854 6 27 18 6 32),
        ⟨secondOf 1942 8 31 18 30 0, secondOf 1945 10 14 17 30 0, daylightTime 23400 "+0630"⟩ ]
      (constant 19800 "IST"),
    .place "Asia/Kathmandu" [meanTime 20476 (secondOf 1919 12 31 18 18 44)]
      (constant 20700 "+0545"),
    .place "Australia/Lord_Howe" [meanTime 38180 (secondOf 1895 1 31 13 23 40)]
      { standard := standardTime 37800 "+1030"
        daylight := some ⟨daylightTime 39600 "+11", ⟨.weekday 10 1 0, 7200⟩,
          ⟨.weekday 4 1 0, 7200⟩⟩ },
    .place "Pacific/Chatham" [meanTime 44028 (secondOf 1868 11 1 11 46 12)]
      { standard := standardTime 45900 "+1245"
        daylight := some ⟨daylightTime 49500 "+1345", ⟨.weekday 9 5 0, 9900⟩,
          ⟨.weekday 4 1 0, 13500⟩⟩ },
    .place "UTC" [] (constant 0 "UTC") ]

/-- The zone of a known place. -/
def zoneOfKey? (key : Text) : Option Zone := zoneTable.find? fun zone => zone.key? = some key

/-! ## Paths -/

/-- The directory that keeps the places, by the names on the way to it. -/
def zoneDirectory : List Text := ["usr", "share", "zoneinfo"]

/-- The names on the way to each place. -/
def zonePaths : List (List Text) :=
  zoneTable.filterMap fun zone => zone.key?.map fun key => zoneDirectory ++ Text.pieces '/' key

/-- Goes one part of a path further: nowhere from a place, to the directory above behind
two points, and else to a directory or place on the way to a known place. -/
def stepOnPath (sofar : List Text) (part : Text) : Option (List Text) :=
  if zonePaths.contains sofar then none
  else if part.isEmpty || part = ['.'] then some sofar
  else if part = ['.', '.'] then some sofar.dropLast
  else if zonePaths.any (sofar ++ [part]).isPrefixOf then some (sofar ++ [part])
  else none

/-- The zone of the place that a path leads to, from the directory of the places or from
the root. -/
def zoneOfPath? (path : Text) : Option Zone := do
  let start := if path.head? = some '/' then [] else zoneDirectory
  let names ← (Text.pieces '/' path).foldlM stepOnPath start
  zoneOfKey? (Text.joinWith "/" (names.drop zoneDirectory.length))

end PanelClock
