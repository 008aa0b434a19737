import PanelClock.Locale.Names

/-!
# Names in American English
-/

set_option autoImplicit false

namespace PanelClock

/-- The months. -/
private def americanEnglishMonths : NameRow where
  within :=
    { abbreviated :=
        ["Jan", "Feb", "Mar", "Apr", "May", "Jun", "Jul", "Aug", "Sep", "Oct", "Nov", "Dec"]
      wide :=
        ["January", "February", "March", "April", "May", "June", "July", "August", "September",
          "October", "November", "December"]
      narrow :=
        ["J", "F", "M", "A", "M", "J", "J", "A", "S", "O", "N", "D"] }
  alone :=
    { abbreviated :=
        ["Jan", "Feb", "Mar", "Apr", "May", "Jun", "Jul", "Aug", "Sep", "Oct", "Nov", "Dec"]
      wide :=
        ["January", "February", "March", "April", "May", "June", "July", "August", "September",
          "October", "November", "December"]
      narrow :=
        ["J", "F", "M", "A", "M", "J", "J", "A", "S", "O", "N", "D"] }

/-- The weekdays, from Monday on. -/
private def americanEnglishWeekdays : NameRow where
  within :=
    { abbreviated :=
        ["Mon", "Tue", "Wed", "Thu", "Fri", "Sat", "Sun"]
      wide :=
        ["Monday", "Tuesday", "Wednesday", "Thursday", "Friday", "Saturday", "Sunday"]
      narrow :=
        ["M", "T", "W", "T", "F", "S", "S"] }
  alone :=
    { abbreviated :=
        ["Mon", "Tue", "Wed", "Thu", "Fri", "Sat", "Sun"]
      wide :=
        ["Monday", "Tuesday", "Wednesday", "Thursday", "Friday", "Saturday", "Sunday"]
      narrow :=
        ["M", "T", "W", "T", "F", "S", "S"] }

/-- The names of the time zones. -/
private def americanEnglishZones : List ZoneNames :=
  [
    ⟨"America/New_York", some "EST", some "EDT", "ET", some "Eastern Standard Time",
      some "Eastern Daylight Time", "Eastern Time"⟩,
    ⟨"America/St_Johns", none, none, "Canada (St. John’s) Time",
      some "Newfoundland Standard Time", some "Newfoundland Daylight Time", "Newfoundland Time"⟩,
    ⟨"Europe/London", some "GMT", none, "United Kingdom Time", some "Greenwich Mean Time",
      some "British Summer Time", "United Kingdom Time"⟩,
    ⟨"Europe/Berlin", none, none, "Germany (Berlin) Time", some "Central European Standard Time",
      some "Central European Summer Time", "Central European Time"⟩,
    ⟨"Asia/Tokyo", none, none, "Japan Time", some "Japan Standard Time", none, "Japan Time"⟩,
    ⟨"Asia/Kolkata", none, none, "India Time", none, none, "India Time"⟩,
    ⟨"Asia/Kathmandu", none, none, "Nepal Time", none, none, "Nepal Time"⟩,
    ⟨"Australia/Lord_Howe", none, none, "Australia (Lord Howe Island) Time",
      some "Lord Howe Standard Time", some "Lord Howe Daylight Time", "Lord Howe Time"⟩,
    ⟨"Pacific/Chatham", none, none, "New Zealand (Chatham) Time", some "Chatham Standard Time",
      some "Chatham Daylight Time", "Chatham Time"⟩,
    ⟨"UTC", some "UTC", none, "Unknown Region (UTC) Time", some "Coordinated Universal Time",
      none, "Unknown Region (UTC) Time"⟩]

/-- The pattern for each skeleton. -/
private def americanEnglishSkeletons : List SkeletonPattern :=
  [
    ⟨"Bh", "h B"⟩,
    ⟨"Bhm", "h:mm B"⟩,
    ⟨"Bhms", "h:mm:ss B"⟩,
    ⟨"E", "ccc"⟩,
    ⟨"EBhm", "E h:mm B"⟩,
    ⟨"EBhms", "E h:mm:ss B"⟩,
    ⟨"EHm", "E HH:mm"⟩,
    ⟨"EHms", "E HH:mm:ss"⟩,
    ⟨"Ed", "d E"⟩,
    ⟨"Ehm", "E h:mm a"⟩,
    ⟨"Ehms", "E h:mm:ss a"⟩,
    ⟨"Gy", "y G"⟩,
    ⟨"GyMMM", "MMM y G"⟩,
    ⟨"GyMMMEd", "E, MMM d, y G"⟩,
    ⟨"GyMMMd", "MMM d, y G"⟩,
    ⟨"GyMd", "M/d/y G"⟩,
    ⟨"H", "HH"⟩,
    ⟨"Hm", "HH:mm"⟩,
    ⟨"Hms", "HH:mm:ss"⟩,
    ⟨"Hmsv", "HH:mm:ss v"⟩,
    ⟨"Hmv", "HH:mm v"⟩,
    ⟨"M", "L"⟩,
    ⟨"MEd", "E, M/d"⟩,
    ⟨"MMM", "LLL"⟩,
    ⟨"MMMEd", "E, MMM d"⟩,
    ⟨"MMMMW", "'week' W 'of' MMMM"⟩,
    ⟨"MMMMd", "MMMM d"⟩,
    ⟨"MMMd", "MMM d"⟩,
    ⟨"Md", "M/d"⟩,
    ⟨"d", "d"⟩,
    ⟨"h", "h a"⟩,
    ⟨"hm", "h:mm a"⟩,
    ⟨"hms", "h:mm:ss a"⟩,
    ⟨"hmsv", "h:mm:ss a v"⟩,
    ⟨"hmv", "h:mm a v"⟩,
    ⟨"ms", "mm:ss"⟩,
    ⟨"y", "y"⟩,
    ⟨"yM", "M/y"⟩,
    ⟨"yMEd", "E, M/d/y"⟩,
    ⟨"yMMM", "MMM y"⟩,
    ⟨"yMMMEd", "E, MMM d, y"⟩,
    ⟨"yMMMM", "MMMM y"⟩,
    ⟨"yMMMd", "MMM d, y"⟩,
    ⟨"yMd", "M/d/y"⟩,
    ⟨"yQQQ", "QQQ y"⟩,
    ⟨"yQQQQ", "QQQQ y"⟩,
    ⟨"yw", "'week' w 'of' Y"⟩]

/-- The names and patterns of American English. -/
def americanEnglish : LocaleNames where
  months := americanEnglishMonths
  weekdays := americanEnglishWeekdays
  era := ⟨"AD", "Anno Domini", "A"⟩
  halfDays := ⟨some ⟨"AM", "PM"⟩, some ⟨"AM", "PM"⟩, some ⟨"a", "p"⟩⟩
  dayPeriods := []
  shortTime := "h:mm\u202fa"
  offsetLabel := "GMT"
  firstWeekday := 6
  zones := americanEnglishZones
  unknownRegion := ("Unknown Region (", ") Time")
  skeletons := americanEnglishSkeletons

end PanelClock
