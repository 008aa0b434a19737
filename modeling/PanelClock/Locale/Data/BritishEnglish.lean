import PanelClock.Locale.Names

/-!
# Names in British English
-/

set_option autoImplicit false

namespace PanelClock

/-- The months. -/
private def britishEnglishMonths : NameRow where
  within :=
    { abbreviated :=
        ["Jan", "Feb", "Mar", "Apr", "May", "Jun", "Jul", "Aug", "Sept", "Oct", "Nov", "Dec"]
      wide :=
        ["January", "February", "March", "April", "May", "June", "July", "August", "September",
          "October", "November", "December"]
      narrow :=
        ["J", "F", "M", "A", "M", "J", "J", "A", "S", "O", "N", "D"] }
  alone :=
    { abbreviated :=
        ["Jan", "Feb", "Mar", "Apr", "May", "Jun", "Jul", "Aug", "Sept", "Oct", "Nov", "Dec"]
      wide :=
        ["January", "February", "March", "April", "May", "June", "July", "August", "September",
          "October", "November", "December"]
      narrow :=
        ["J", "F", "M", "A", "M", "J", "J", "A", "S", "O", "N", "D"] }

/-- The weekdays, from Monday on. -/
private def britishEnglishWeekdays : NameRow where
  within :=
    { abbreviated :=
        ["Mon", "Tue", "Wed", "Thu", "Fri", "Sat", "Sun"]
      wide :=
        ["Monday", "Tuesday", "Wednesday", "Thursday", "Friday", "Saturday", "Sunday"]
      narrow :=
        ["M", "T", "W", "T", "F", "S", "S"] }
  alone :=
    { abbreviated :=
        ["Mon", "Tue", "Wed", "Thu", "Fri", "Sat", "Sun"]
      wide :=
        ["Monday", "Tuesday", "Wednesday", "Thursday", "Friday", "Saturday", "Sunday"]
      narrow :=
        ["M", "T", "W", "T", "F", "S", "S"] }

/-- The names of the time zones. -/
private def britishEnglishZones : List ZoneNames :=
  [
    ⟨"America/New_York", some "Eastern Standard Time", some "Eastern Daylight Time",
      "Eastern Time", some "Eastern Standard Time", some "Eastern Daylight Time", "Eastern Time"⟩,
    ⟨"America/St_Johns", none, none, "Canada (St John’s) Time", some "Newfoundland Standard Time",
      some "Newfoundland Daylight Time", "Newfoundland Time"⟩,
    ⟨"Europe/London", some "GMT", some "BST", "United Kingdom Time", some "Greenwich Mean Time",
      some "British Summer Time", "United Kingdom Time"⟩,
    ⟨"Europe/Berlin", some "CET", some "CEST", "CET", some "Central European Standard Time",
      some "Central European Summer Time", "Central European Time"⟩,
    ⟨"Asia/Tokyo", none, none, "Japan Time", some "Japan Standard Time", none, "Japan Time"⟩,
    ⟨"Asia/Kolkata", none, none, "India Time", none, none, "India Time"⟩,
    ⟨"Asia/Kathmandu", none, none, "Nepal Time", none, none, "Nepal Time"⟩,
    ⟨"Australia/Lord_Howe", none, none, "Australia (Lord Howe Island) Time",
      some "Lord Howe Standard Time", some "Lord Howe Daylight Time", "Lord Howe Time"⟩,
    ⟨"Pacific/Chatham", none, none, "New Zealand (Chatham) Time", some "Chatham Standard Time",
      some "Chatham Daylight Time", "Chatham Time"⟩,
    ⟨"UTC", some "UTC", none, "Unknown Region (UTC) Time", some "Coordinated Universal Time",
      none, "Unknown Region (UTC) Time"⟩]

/-- The pattern for each skeleton. -/
private def britishEnglishSkeletons : List SkeletonPattern :=
  [
    ⟨"Bh", "h B"⟩,
    ⟨"Bhm", "h:mm B"⟩,
    ⟨"Bhms", "h:mm:ss B"⟩,
    ⟨"E", "ccc"⟩,
    ⟨"EBhm", "E h:mm B"⟩,
    ⟨"EBhms", "E h:mm:ss B"⟩,
    ⟨"EHm", "E HH:mm"⟩,
    ⟨"EHms", "E HH:mm:ss"⟩,
    ⟨"Ed", "E d"⟩,
    ⟨"Ehm", "E h:mm a"⟩,
    ⟨"Ehms", "E h:mm:ss a"⟩,
    ⟨"Gy", "y G"⟩,
    ⟨"GyMMM", "MMM y G"⟩,
    ⟨"GyMMMEEEEd", "EEEE, d MMM y G"⟩,
    ⟨"GyMMMEd", "E, d MMM y G"⟩,
    ⟨"GyMMMd", "d MMM y G"⟩,
    ⟨"GyMd", "dd/MM/y G"⟩,
    ⟨"H", "HH"⟩,
    ⟨"Hm", "HH:mm"⟩,
    ⟨"Hms", "HH:mm:ss"⟩,
    ⟨"Hmsv", "HH:mm:ss v"⟩,
    ⟨"Hmv", "HH:mm v"⟩,
    ⟨"M", "L"⟩,
    ⟨"MEd", "E dd/MM"⟩,
    ⟨"MMM", "LLL"⟩,
    ⟨"MMMEEEEd", "EEEE d MMM"⟩,
    ⟨"MMMEd", "E d MMM"⟩,
    ⟨"MMMMEEEEd", "EEEE d MMMM"⟩,
    ⟨"MMMMW", "'week' W 'of' MMMM"⟩,
    ⟨"MMMMd", "d MMMM"⟩,
    ⟨"MMMd", "d MMM"⟩,
    ⟨"MMdd", "dd/MM"⟩,
    ⟨"Md", "dd/MM"⟩,
    ⟨"d", "d"⟩,
    ⟨"h", "h a"⟩,
    ⟨"hm", "h:mm a"⟩,
    ⟨"hms", "h:mm:ss a"⟩,
    ⟨"hmsv", "h:mm:ss a v"⟩,
    ⟨"hmv", "h:mm a v"⟩,
    ⟨"ms", "mm:ss"⟩,
    ⟨"y", "y"⟩,
    ⟨"yM", "MM/y"⟩,
    ⟨"yMEd", "E, dd/MM/y"⟩,
    ⟨"yMMM", "MMM y"⟩,
    ⟨"yMMMEEEEd", "EEEE, d MMM y"⟩,
    ⟨"yMMMEd", "E, d MMM y"⟩,
    ⟨"yMMMM", "MMMM y"⟩,
    ⟨"yMMMMEEEEd", "EEEE, d MMMM y"⟩,
    ⟨"yMMMd", "d MMM y"⟩,
    ⟨"yMd", "dd/MM/y"⟩,
    ⟨"yQQQ", "QQQ y"⟩,
    ⟨"yQQQQ", "QQQQ y"⟩,
    ⟨"yw", "'week' w 'of' Y"⟩]

/-- The names and patterns of British English. -/
def britishEnglish : LocaleNames where
  months := britishEnglishMonths
  weekdays := britishEnglishWeekdays
  era := ⟨"AD", "Anno Domini", "A"⟩
  halfDays := ⟨some ⟨"am", "pm"⟩, some ⟨"am", "pm"⟩, some ⟨"a", "p"⟩⟩
  dayPeriods := []
  shortTime := "HH:mm"
  offsetLabel := "GMT"
  firstWeekday := 0
  zones := britishEnglishZones
  unknownRegion := ("Unknown Region (", ") Time")
  skeletons := britishEnglishSkeletons

end PanelClock
