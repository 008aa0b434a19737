import PanelClock.Locale.Names

/-!
# Names in French
-/

set_option autoImplicit false

namespace PanelClock

/-- The months. -/
private def frenchMonths : NameRow where
  within :=
    { abbreviated :=
        ["janv.", "févr.", "mars", "avr.", "mai", "juin", "juil.", "août", "sept.", "oct.",
          "nov.", "déc."]
      wide :=
        ["janvier", "février", "mars", "avril", "mai", "juin", "juillet", "août", "septembre",
          "octobre", "novembre", "décembre"]
      narrow :=
        ["J", "F", "M", "A", "M", "J", "J", "A", "S", "O", "N", "D"] }
  alone :=
    { abbreviated :=
        ["janv.", "févr.", "mars", "avr.", "mai", "juin", "juil.", "août", "sept.", "oct.",
          "nov.", "déc."]
      wide :=
        ["janvier", "février", "mars", "avril", "mai", "juin", "juillet", "août", "septembre",
          "octobre", "novembre", "décembre"]
      narrow :=
        ["J", "F", "M", "A", "M", "J", "J", "A", "S", "O", "N", "D"] }

/-- The weekdays, from Monday on. -/
private def frenchWeekdays : NameRow where
  within :=
    { abbreviated :=
        ["lun.", "mar.", "mer.", "jeu.", "ven.", "sam.", "dim."]
      wide :=
        ["lundi", "mardi", "mercredi", "jeudi", "vendredi", "samedi", "dimanche"]
      narrow :=
        ["L", "M", "M", "J", "V", "S", "D"] }
  alone :=
    { abbreviated :=
        ["lun.", "mar.", "mer.", "jeu.", "ven.", "sam.", "dim."]
      wide :=
        ["lundi", "mardi", "mercredi", "jeudi", "vendredi", "samedi", "dimanche"]
      narrow :=
        ["L", "M", "M", "J", "V", "S", "D"] }

/-- The names of the time zones. -/
private def frenchZones : List ZoneNames :=
  [
    ⟨"America/New_York", some "HNE", some "HEE", "HE",
      some "heure normale de l’Est nord-américain", some "heure d’été de l’Est nord-américain",
      "heure de l’Est nord-américain"⟩,
    ⟨"America/St_Johns", some "HNTN", some "HETN", "HTN", some "heure normale de Terre-Neuve",
      some "heure d’été de Terre-Neuve", "heure de Terre-Neuve"⟩,
    ⟨"Europe/London", some "GMT", none, "heure : Royaume-Uni", some "heure moyenne de Greenwich",
      some "heure d’été britannique", "heure : Royaume-Uni"⟩,
    ⟨"Europe/Berlin", none, none, "heure : Allemagne (Berlin)",
      some "heure normale d’Europe centrale", some "heure d’été d’Europe centrale",
      "heure d’Europe centrale"⟩,
    ⟨"Asia/Tokyo", none, none, "heure : Japon", some "heure normale du Japon", none,
      "heure du Japon"⟩,
    ⟨"Asia/Kolkata", none, none, "heure : Inde", none, none, "heure : Inde"⟩,
    ⟨"Asia/Kathmandu", none, none, "heure : Népal", none, none, "heure : Népal"⟩,
    ⟨"Australia/Lord_Howe", none, none, "heure : Australie (Lord Howe)",
      some "heure normale de Lord Howe", some "heure d’été de Lord Howe", "heure de Lord Howe"⟩,
    ⟨"Pacific/Chatham", none, none, "heure : Nouvelle-Zélande (Chatham)",
      some "heure normale des îles Chatham", some "heure d’été des îles Chatham",
      "heure des îles Chatham"⟩,
    ⟨"UTC", some "TU", none, "heure : région indéterminée (UTC)",
      some "temps universel coordonné", none, "heure : région indéterminée (UTC)"⟩]

/-- The pattern for each skeleton. -/
private def frenchSkeletons : List SkeletonPattern :=
  [
    ⟨"Bh", "h B"⟩,
    ⟨"Bhm", "h:mm B"⟩,
    ⟨"Bhms", "h:mm:ss B"⟩,
    ⟨"E", "E"⟩,
    ⟨"EBhm", "E h:mm B"⟩,
    ⟨"EBhms", "E h:mm:ss B"⟩,
    ⟨"EHm", "E HH:mm"⟩,
    ⟨"EHms", "E HH:mm:ss"⟩,
    ⟨"Ed", "E d"⟩,
    ⟨"Ehm", "E h:mm\u202fa"⟩,
    ⟨"Ehms", "E h:mm:ss\u202fa"⟩,
    ⟨"Gy", "y G"⟩,
    ⟨"GyMMM", "MMM y G"⟩,
    ⟨"GyMMMEd", "E d MMM y G"⟩,
    ⟨"GyMMMd", "d MMM y G"⟩,
    ⟨"GyMd", "dd/MM/y GGGGG"⟩,
    ⟨"H", "HH 'h'"⟩,
    ⟨"Hm", "HH:mm"⟩,
    ⟨"Hms", "HH:mm:ss"⟩,
    ⟨"Hmsv", "HH:mm:ss v"⟩,
    ⟨"Hmv", "HH:mm v"⟩,
    ⟨"M", "L"⟩,
    ⟨"MEd", "E dd/MM"⟩,
    ⟨"MMM", "LLL"⟩,
    ⟨"MMMEd", "E d MMM"⟩,
    ⟨"MMMMW", "'semaine' W (MMMM)"⟩,
    ⟨"MMMMd", "d MMMM"⟩,
    ⟨"MMMd", "d MMM"⟩,
    ⟨"Md", "dd/MM"⟩,
    ⟨"d", "d"⟩,
    ⟨"h", "h\u202fa"⟩,
    ⟨"hm", "h:mm\u202fa"⟩,
    ⟨"hms", "h:mm:ss\u202fa"⟩,
    ⟨"hmsv", "h:mm:ss\u202fa v"⟩,
    ⟨"hmv", "h:mm\u202fa v"⟩,
    ⟨"ms", "mm:ss"⟩,
    ⟨"y", "y"⟩,
    ⟨"yM", "MM/y"⟩,
    ⟨"yMEd", "E dd/MM/y"⟩,
    ⟨"yMMM", "MMM y"⟩,
    ⟨"yMMMEd", "E d MMM y"⟩,
    ⟨"yMMMM", "MMMM y"⟩,
    ⟨"yMMMd", "d MMM y"⟩,
    ⟨"yMd", "dd/MM/y"⟩,
    ⟨"yQQQ", "QQQ y"⟩,
    ⟨"yQQQQ", "QQQQ y"⟩,
    ⟨"yw", "'semaine' w 'de' Y"⟩]

/-- The names and patterns of French. -/
def french : LocaleNames where
  months := frenchMonths
  weekdays := frenchWeekdays
  era := ⟨"ap. J.-C.", "après Jésus-Christ", "ap. J.-C."⟩
  halfDays := ⟨some ⟨"AM", "PM"⟩, none, none⟩
  dayPeriods := []
  shortTime := "HH:mm"
  offsetLabel := "UTC"
  firstWeekday := 0
  zones := frenchZones
  unknownRegion := ("heure : région indéterminée (", ")")
  skeletons := frenchSkeletons

end PanelClock
