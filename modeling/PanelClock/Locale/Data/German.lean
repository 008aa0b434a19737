import PanelClock.Locale.Names

/-!
# Names in German
-/

set_option autoImplicit false

namespace PanelClock

/-- The months. -/
private def germanMonths : NameRow where
  within :=
    { abbreviated :=
        ["Jan.", "Feb.", "März", "Apr.", "Mai", "Juni", "Juli", "Aug.", "Sept.", "Okt.", "Nov.",
          "Dez."]
      wide :=
        ["Januar", "Februar", "März", "April", "Mai", "Juni", "Juli", "August", "September",
          "Oktober", "November", "Dezember"]
      narrow :=
        ["J", "F", "M", "A", "M", "J", "J", "A", "S", "O", "N", "D"] }
  alone :=
    { abbreviated :=
        ["Jan", "Feb", "Mär", "Apr", "Mai", "Jun", "Jul", "Aug", "Sep", "Okt", "Nov", "Dez"]
      wide :=
        ["Januar", "Februar", "März", "April", "Mai", "Juni", "Juli", "August", "September",
          "Oktober", "November", "Dezember"]
      narrow :=
        ["J", "F", "M", "A", "M", "J", "J", "A", "S", "O", "N", "D"] }

/-- The weekdays, from Monday on. -/
private def germanWeekdays : NameRow where
  within :=
    { abbreviated :=
        ["Mo.", "Di.", "Mi.", "Do.", "Fr.", "Sa.", "So."]
      wide :=
        ["Montag", "Dienstag", "Mittwoch", "Donnerstag", "Freitag", "Samstag", "Sonntag"]
      narrow :=
        ["M", "D", "M", "D", "F", "S", "S"] }
  alone :=
    { abbreviated :=
        ["Mo", "Di", "Mi", "Do", "Fr", "Sa", "So"]
      wide :=
        ["Montag", "Dienstag", "Mittwoch", "Donnerstag", "Freitag", "Samstag", "Sonntag"]
      narrow :=
        ["M", "D", "M", "D", "F", "S", "S"] }

/-- The names of the time zones. -/
private def germanZones : List ZoneNames :=
  [
    ⟨"America/New_York", none, none, "Vereinigte Staaten (New York) (Ortszeit)",
      some "Nordamerikanische Ostküsten-Normalzeit",
      some "Nordamerikanische Ostküsten-Sommerzeit", "Nordamerikanische Ostküstenzeit"⟩,
    ⟨"America/St_Johns", none, none, "Kanada (St. John’s) (Ortszeit)",
      some "Neufundland-Normalzeit", some "Neufundland-Sommerzeit", "Neufundland-Zeit"⟩,
    ⟨"Europe/London", none, none, "Vereinigtes Königreich (Ortszeit)",
      some "Mittlere Greenwich-Zeit", some "Britische Sommerzeit",
      "Vereinigtes Königreich (Ortszeit)"⟩,
    ⟨"Europe/Berlin", some "MEZ", some "MESZ", "MEZ", some "Mitteleuropäische Normalzeit",
      some "Mitteleuropäische Sommerzeit", "Mitteleuropäische Zeit"⟩,
    ⟨"Asia/Tokyo", none, none, "Japan (Ortszeit)", some "Japanische Normalzeit", none,
      "Japanische Zeit"⟩,
    ⟨"Asia/Kolkata", none, none, "Indien (Ortszeit)", none, none, "Indien (Ortszeit)"⟩,
    ⟨"Asia/Kathmandu", none, none, "Nepal (Ortszeit)", none, none, "Nepal (Ortszeit)"⟩,
    ⟨"Australia/Lord_Howe", none, none, "Australien (Lord Howe) (Ortszeit)",
      some "Lord-Howe-Normalzeit", some "Lord-Howe-Sommerzeit", "Lord-Howe-Zeit"⟩,
    ⟨"Pacific/Chatham", none, none, "Neuseeland (Chatham) (Ortszeit)", some "Chatham-Normalzeit",
      some "Chatham-Sommerzeit", "Chatham-Zeit"⟩,
    ⟨"UTC", some "UTC", none, "Unbekannte Region (UTC) (Ortszeit)", some "Koordinierte Weltzeit",
      none, "Unbekannte Region (UTC) (Ortszeit)"⟩]

/-- The pattern for each skeleton. -/
private def germanSkeletons : List SkeletonPattern :=
  [
    ⟨"Bh", "h B"⟩,
    ⟨"Bhm", "h:mm B"⟩,
    ⟨"Bhms", "h:mm:ss B"⟩,
    ⟨"E", "ccc"⟩,
    ⟨"EBhm", "E h:mm B"⟩,
    ⟨"EBhms", "E h:mm:ss B"⟩,
    ⟨"EHm", "E, HH:mm"⟩,
    ⟨"EHms", "E, HH:mm:ss"⟩,
    ⟨"Ed", "E, d."⟩,
    ⟨"Ehm", "E h:mm\u202fa"⟩,
    ⟨"Ehms", "E, h:mm:ss\u202fa"⟩,
    ⟨"Gy", "y G"⟩,
    ⟨"GyMMM", "MMM y G"⟩,
    ⟨"GyMMMEd", "E, d. MMM y G"⟩,
    ⟨"GyMMMd", "d. MMM y G"⟩,
    ⟨"GyMd", "dd.MM.y G"⟩,
    ⟨"H", "HH 'Uhr'"⟩,
    ⟨"Hm", "HH:mm"⟩,
    ⟨"Hms", "HH:mm:ss"⟩,
    ⟨"Hmsv", "HH:mm:ss v"⟩,
    ⟨"Hmv", "HH:mm v"⟩,
    ⟨"M", "L"⟩,
    ⟨"MEd", "E, d.M."⟩,
    ⟨"MMM", "LLL"⟩,
    ⟨"MMMEd", "E, d. MMM"⟩,
    ⟨"MMMMEd", "E, d. MMMM"⟩,
    ⟨"MMMMW", "'Woche' W 'im' MMMM"⟩,
    ⟨"MMMMd", "d. MMMM"⟩,
    ⟨"MMMd", "d. MMM"⟩,
    ⟨"MMd", "d.MM."⟩,
    ⟨"MMdd", "dd.MM."⟩,
    ⟨"Md", "d.M."⟩,
    ⟨"d", "d"⟩,
    ⟨"h", "h 'Uhr' a"⟩,
    ⟨"hm", "h:mm\u202fa"⟩,
    ⟨"hms", "h:mm:ss\u202fa"⟩,
    ⟨"hmsv", "h:mm:ss\u202fa v"⟩,
    ⟨"hmv", "h:mm\u202fa v"⟩,
    ⟨"ms", "mm:ss"⟩,
    ⟨"y", "y"⟩,
    ⟨"yM", "M/y"⟩,
    ⟨"yMEd", "E, d.M.y"⟩,
    ⟨"yMM", "MM.y"⟩,
    ⟨"yMMM", "MMM y"⟩,
    ⟨"yMMMEd", "E, d. MMM y"⟩,
    ⟨"yMMMM", "MMMM y"⟩,
    ⟨"yMMMd", "d. MMM y"⟩,
    ⟨"yMMdd", "dd.MM.y"⟩,
    ⟨"yMd", "d.M.y"⟩,
    ⟨"yQQQ", "QQQ y"⟩,
    ⟨"yQQQQ", "QQQQ y"⟩,
    ⟨"yw", "'Woche' w 'des' 'Jahres' Y"⟩]

/-- The names and patterns of German. -/
def german : LocaleNames where
  months := germanMonths
  weekdays := germanWeekdays
  era := ⟨"n. Chr.", "unserer Zeitrechnung", "n. Chr."⟩
  halfDays := ⟨some ⟨"AM", "PM"⟩, none, none⟩
  dayPeriods := []
  shortTime := "HH:mm"
  offsetLabel := "GMT"
  firstWeekday := 0
  zones := germanZones
  unknownRegion := ("Unbekannte Region (", ") (Ortszeit)")
  skeletons := germanSkeletons

end PanelClock
