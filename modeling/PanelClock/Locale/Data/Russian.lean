import PanelClock.Locale.Names

/-!
# Names in Russian
-/

set_option autoImplicit false

namespace PanelClock

/-- The months. -/
private def russianMonths : NameRow where
  within :=
    { abbreviated :=
        ["янв.", "февр.", "мар.", "апр.", "мая", "июн.", "июл.", "авг.", "сент.", "окт.", "нояб.",
          "дек."]
      wide :=
        ["января", "февраля", "марта", "апреля", "мая", "июня", "июля", "августа", "сентября",
          "октября", "ноября", "декабря"]
      narrow :=
        ["Я", "Ф", "М", "А", "М", "И", "И", "А", "С", "О", "Н", "Д"] }
  alone :=
    { abbreviated :=
        ["янв.", "февр.", "март", "апр.", "май", "июнь", "июль", "авг.", "сент.", "окт.", "нояб.",
          "дек."]
      wide :=
        ["январь", "февраль", "март", "апрель", "май", "июнь", "июль", "август", "сентябрь",
          "октябрь", "ноябрь", "декабрь"]
      narrow :=
        ["Я", "Ф", "М", "А", "М", "И", "И", "А", "С", "О", "Н", "Д"] }

/-- The weekdays, from Monday on. -/
private def russianWeekdays : NameRow where
  within :=
    { abbreviated :=
        ["пн", "вт", "ср", "чт", "пт", "сб", "вс"]
      wide :=
        ["понедельник", "вторник", "среда", "четверг", "пятница", "суббота", "воскресенье"]
      narrow :=
        ["П", "В", "С", "Ч", "П", "С", "В"] }
  alone :=
    { abbreviated :=
        ["пн", "вт", "ср", "чт", "пт", "сб", "вс"]
      wide :=
        ["понедельник", "вторник", "среда", "четверг", "пятница", "суббота", "воскресенье"]
      narrow :=
        ["П", "В", "С", "Ч", "П", "С", "В"] }

/-- The names of the time zones. -/
private def russianZones : List ZoneNames :=
  [
    ⟨"America/New_York", none, none, "Соединенные Штаты (Нью-Йорк), летнее время",
      some "Восточная Америка, стандартное время", some "Восточная Америка, летнее время",
      "Восточная Америка"⟩,
    ⟨"America/St_Johns", none, none, "Канада (Сент-Джонс), летнее время",
      some "Ньюфаундленд, стандартное время", some "Ньюфаундленд, летнее время", "Ньюфаундленд"⟩,
    ⟨"Europe/London", none, none, "Великобритания, летнее время",
      some "Среднее время по Гринвичу", some "Великобритания, летнее время",
      "Великобритания, летнее время"⟩,
    ⟨"Europe/Berlin", none, none, "Германия (Берлин), летнее время",
      some "Центральная Европа, стандартное время", some "Центральная Европа, летнее время",
      "Центральная Европа"⟩,
    ⟨"Asia/Tokyo", none, none, "Япония, летнее время", some "Япония, стандартное время", none,
      "Япония"⟩,
    ⟨"Asia/Kolkata", none, none, "Индия, летнее время", none, none, "Индия, летнее время"⟩,
    ⟨"Asia/Kathmandu", none, none, "Непал, летнее время", none, none, "Непал, летнее время"⟩,
    ⟨"Australia/Lord_Howe", none, none, "Австралия (Лорд-Хау), летнее время",
      some "Лорд-Хау, стандартное время", some "Лорд-Хау, летнее время", "Лорд-Хау"⟩,
    ⟨"Pacific/Chatham", none, none, "Новая Зеландия (Чатем), летнее время",
      some "Чатем, стандартное время", some "Чатем, летнее время", "Чатем"⟩,
    ⟨"UTC", some "UTC", none, "неизвестный регион (UTC), летнее время",
      some "Всемирное координированное время", none, "неизвестный регион (UTC), летнее время"⟩]

/-- The pattern for each skeleton. -/
private def russianSkeletons : List SkeletonPattern :=
  [
    ⟨"Bh", "h B"⟩,
    ⟨"Bhm", "h:mm B"⟩,
    ⟨"Bhms", "h:mm:ss B"⟩,
    ⟨"E", "ccc"⟩,
    ⟨"EBhm", "ccc, h:mm B"⟩,
    ⟨"EBhms", "ccc, h:mm:ss B"⟩,
    ⟨"EHm", "E HH:mm"⟩,
    ⟨"EHms", "E HH:mm:ss"⟩,
    ⟨"Ed", "ccc, d"⟩,
    ⟨"Ehm", "E h:mm\u202fa"⟩,
    ⟨"Ehms", "E h:mm:ss\u202fa"⟩,
    ⟨"Gy", "y\u202f'г'. G"⟩,
    ⟨"GyMMM", "LLL y\u202f'г'. G"⟩,
    ⟨"GyMMMEd", "E, d MMM y\u202f'г'. G"⟩,
    ⟨"GyMMMd", "d MMM y\u202f'г'. G"⟩,
    ⟨"GyMd", "dd.MM.y GGGGG"⟩,
    ⟨"H", "HH"⟩,
    ⟨"Hm", "HH:mm"⟩,
    ⟨"Hms", "HH:mm:ss"⟩,
    ⟨"Hmsv", "HH:mm:ss v"⟩,
    ⟨"Hmv", "HH:mm v"⟩,
    ⟨"M", "L"⟩,
    ⟨"MEd", "E, dd.MM"⟩,
    ⟨"MMM", "LLL"⟩,
    ⟨"MMMEd", "ccc, d MMM"⟩,
    ⟨"MMMMW", "W-'я' 'неделя' MMMM"⟩,
    ⟨"MMMMd", "d MMMM"⟩,
    ⟨"MMMd", "d MMM"⟩,
    ⟨"MMdd", "dd.MM"⟩,
    ⟨"Md", "dd.MM"⟩,
    ⟨"d", "d"⟩,
    ⟨"h", "h\u202fa"⟩,
    ⟨"hm", "h:mm\u202fa"⟩,
    ⟨"hms", "h:mm:ss\u202fa"⟩,
    ⟨"hmsv", "h:mm:ss\u202fa v"⟩,
    ⟨"hmv", "h:mm\u202fa v"⟩,
    ⟨"ms", "mm:ss"⟩,
    ⟨"y", "y"⟩,
    ⟨"yM", "MM.y"⟩,
    ⟨"yMEd", "ccc, dd.MM.y\u202f'г'."⟩,
    ⟨"yMM", "MM.y"⟩,
    ⟨"yMMM", "LLL y\u202f'г'."⟩,
    ⟨"yMMMEd", "E, d MMM y\u202f'г'."⟩,
    ⟨"yMMMM", "LLLL y\u202f'г'."⟩,
    ⟨"yMMMd", "d MMM y\u202f'г'."⟩,
    ⟨"yMd", "dd.MM.y"⟩,
    ⟨"yQQQ", "QQQ y\u202f'г'."⟩,
    ⟨"yQQQQ", "QQQQ y\u202f'г'."⟩,
    ⟨"yw", "w-'я' 'неделя' Y 'г'."⟩]

/-- The names and patterns of Russian. -/
def russian : LocaleNames where
  months := russianMonths
  weekdays := russianWeekdays
  era := ⟨"н. э.", "от Рождества Христова", "н.э."⟩
  halfDays := ⟨some ⟨"AM", "PM"⟩, none, none⟩
  dayPeriods := []
  shortTime := "HH:mm"
  offsetLabel := "GMT"
  firstWeekday := 0
  zones := russianZones
  unknownRegion := ("неизвестный регион (", "), летнее время")
  skeletons := russianSkeletons

end PanelClock
