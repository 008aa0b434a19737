import PanelClock.Number.Numeral

/-!
# Words for token patterns

The names of months, weekdays and halves of the day that token patterns use, and how a
language writes ordinal numbers.  Locales are known by their names in lower case with
hyphens.
-/

set_option autoImplicit false

namespace PanelClock

/-- The words of a language. -/
structure TokenWords where
  months : List Text
  shortMonths : List Text
  /-- From Monday on. -/
  weekdays : List Text
  shortWeekdays : List Text
  /-- The halves of the day in small letters; a language without them has empty ones. -/
  lowerHalves : Text × Text
  upperHalves : Text × Text
  ordinal : Nat → Text

namespace TokenWords

/-- English ordinals: the numbers from 11 to 13 of every hundred take the same ending. -/
def englishOrdinal (n : Nat) : Text :=
  let ending : Text :=
    if n % 100 = 11 ∨ n % 100 = 12 ∨ n % 100 = 13 then "th"
    else if n % 10 = 1 then "st"
    else if n % 10 = 2 then "nd"
    else if n % 10 = 3 then "rd"
    else "th"
  numeral n ++ ending

/-- The words of English. -/
def english : TokenWords where
  months :=
    ["January", "February", "March", "April", "May", "June", "July", "August", "September",
     "October", "November", "December"]
  shortMonths :=
    ["Jan", "Feb", "Mar", "Apr", "May", "Jun", "Jul", "Aug", "Sep", "Oct", "Nov", "Dec"]
  weekdays :=
    ["Monday", "Tuesday", "Wednesday", "Thursday", "Friday", "Saturday", "Sunday"]
  shortWeekdays :=
    ["Mon", "Tue", "Wed", "Thu", "Fri", "Sat", "Sun"]
  lowerHalves := ("am", "pm")
  upperHalves := ("AM", "PM")
  ordinal := englishOrdinal

/-- The words of German. -/
def german : TokenWords where
  months :=
    ["Januar", "Februar", "März", "April", "Mai", "Juni", "Juli", "August", "September",
     "Oktober", "November", "Dezember"]
  shortMonths :=
    ["Jan", "Feb", "Mär", "Apr", "Mai", "Jun", "Jul", "Aug", "Sep", "Okt", "Nov", "Dez"]
  weekdays :=
    ["Montag", "Dienstag", "Mittwoch", "Donnerstag", "Freitag", "Samstag", "Sonntag"]
  shortWeekdays :=
    ["Mo", "Di", "Mi", "Do", "Fr", "Sa", "So"]
  lowerHalves := ("", "")
  upperHalves := ("", "")
  ordinal := fun n => numeral n ++ "."

/-- The words of German in Austria. -/
def austrian : TokenWords := { german with months := "Jänner" :: german.months.drop 1 }

/-- The words of French. -/
def french : TokenWords where
  months :=
    ["janvier", "février", "mars", "avril", "mai", "juin", "juillet", "août", "septembre",
     "octobre", "novembre", "décembre"]
  shortMonths :=
    ["janv", "févr", "mars", "avr", "mai", "juin", "juil", "août", "sept", "oct", "nov", "déc"]
  weekdays :=
    ["lundi", "mardi", "mercredi", "jeudi", "vendredi", "samedi", "dimanche"]
  shortWeekdays :=
    ["lun", "mar", "mer", "jeu", "ven", "sam", "dim"]
  lowerHalves := ("", "")
  upperHalves := ("", "")
  ordinal := fun n => numeral n ++ (if n = 1 then "er" else "e")

/-- The words of French in Canada. -/
def canadianFrench : TokenWords :=
  { french with
    shortMonths :=
      ["janv", "févr", "mars", "avr", "mai", "juin", "juill", "août", "sept", "oct", "nov",
       "déc"] }

/-- The words of Japanese. -/
def japanese : TokenWords where
  months :=
    ["1月", "2月", "3月", "4月", "5月", "6月", "7月", "8月", "9月", "10月", "11月", "12月"]
  shortMonths :=
    [" 1", " 2", " 3", " 4", " 5", " 6", " 7", " 8", " 9", "10", "11", "12"]
  weekdays :=
    ["月曜日", "火曜日", "水曜日", "木曜日", "金曜日", "土曜日", "日曜日"]
  shortWeekdays :=
    ["月", "火", "水", "木", "金", "土", "日"]
  lowerHalves := ("", "")
  upperHalves := ("", "")
  ordinal := numeral

/-- The words of Chinese in mainland China. -/
def mainlandChinese : TokenWords where
  months :=
    ["一月", "二月", "三月", "四月", "五月", "六月", "七月", "八月", "九月", "十月", "十一月", "十二月"]
  shortMonths := japanese.shortMonths
  weekdays := ["星期一", "星期二", "星期三", "星期四", "星期五", "星期六", "星期日"]
  shortWeekdays := ["一", "二", "三", "四", "五", "六", "日"]
  lowerHalves := ("", "")
  upperHalves := ("", "")
  ordinal := numeral

/-- The words of Chinese in Hong Kong. -/
def hongKongChinese : TokenWords := { mainlandChinese with months := japanese.months }

/-- The words of Chinese in Taiwan. -/
def taiwaneseChinese : TokenWords :=
  { hongKongChinese with weekdays := ["週一", "週二", "週三", "週四", "週五", "週六", "週日"] }

/-- The words of Russian. -/
def russian : TokenWords where
  months :=
    ["января", "февраля", "марта", "апреля", "мая", "июня", "июля", "августа", "сентября",
     "октября", "ноября", "декабря"]
  shortMonths :=
    ["янв", "фев", "мар", "апр", "май", "июн", "июл", "авг", "сен", "окт", "ноя", "дек"]
  weekdays :=
    ["понедельник", "вторник", "среда", "четверг", "пятница", "суббота", "воскресенье"]
  shortWeekdays :=
    ["пн", "вт", "ср", "чт", "пт", "сб", "вс"]
  lowerHalves := ("", "")
  upperHalves := ("", "")
  ordinal := numeral

/-- The words of Spanish. -/
def spanish : TokenWords where
  months :=
    ["enero", "febrero", "marzo", "abril", "mayo", "junio", "julio", "agosto", "septiembre",
     "octubre", "noviembre", "diciembre"]
  shortMonths :=
    ["ene", "feb", "mar", "abr", "may", "jun", "jul", "ago", "sep", "oct", "nov", "dic"]
  weekdays :=
    ["lunes", "martes", "miércoles", "jueves", "viernes", "sábado", "domingo"]
  shortWeekdays :=
    ["lun", "mar", "mie", "jue", "vie", "sab", "dom"]
  lowerHalves := ("am", "pm")
  upperHalves := ("AM", "PM")
  ordinal := fun n => numeral n ++ "º"

/-- The words for locales that do not share those of their language. -/
def byLocale : List (Text × TokenWords) :=
  [("de-at", austrian), ("fr-ca", canadianFrench), ("zh-hk", hongKongChinese),
   ("zh-tw", taiwaneseChinese)]

/-- The words for each language but English. -/
def byLanguage : List (Text × TokenWords) :=
  [("de", german), ("fr", french), ("ja", japanese), ("ru", russian), ("es", spanish),
   ("zh", mainlandChinese)]

/-- The words of a locale: its own, else those of its language. -/
def ofLocale (name : Text) : TokenWords :=
  (byLocale.lookup name <|> byLanguage.lookup (Text.before '-' name)).getD english

end TokenWords

/-- The names of the locales that token patterns can be rendered for. -/
def tokenLocales : List Text :=
  Text.pieces ' '
    ("af af-nl am am-et ar ar-ae ar-bh ar-dj ar-dz ar-eg ar-eh ar-er ar-iq ar-jo ar-km "
      ++ "ar-kw ar-lb ar-ly ar-ma ar-mr ar-om ar-ps ar-qa ar-sa ar-sd ar-so ar-ss ar-sy ar-td "
      ++ "ar-tn ar-ye az az-az be be-by bg bg-bg bn bn-bd bn-in ca ca-ad ca-es ca-fr ca-it cs "
      ++ "cs-cz da da-dk de de-at de-ch de-de ee el el-gr en en-au en-be en-ca en-gb en-jp "
      ++ "en-ph en-us en-za eo eo-xx es es-es et eu eu-eu fa fa-ir fi fi-fi fr fr-ca fr-fr he "
      ++ "he-il hi hi-in hr hr-hr hu hu-hu hy hy-am id id-id is is-is it it-it ja ja-jp ka "
      ++ "ka-ge kk kk-kz ko ko-kr la la-va lb lb-lu lo lo-la lt lt-lt lv lv-lv mk mk-latn "
      ++ "mk-mk mk-mk-latn ml mr ms ms-bn ms-my mt mt-mt nb nb-no ne ne-np nl nl-nl nn nn-no "
      ++ "or or-in pl pl-pl pt pt-br pt-pt rm rm-ch ro ro-ro ru ru-ru se se-fi se-no se-se si "
      ++ "si-lk sk sk-sk sl sl-si sq sq-al sr sr-rs sr-sp sv sv-se sw sw-ke sw-tz ta ta-in "
      ++ "ta-lk th th-th tl tl-ph tr tr-tr ua uk uk-ua ur ur-pk uz uz-uz vi vi-vn zh zh-cn "
      ++ "zh-hk zh-tw zu zu-za")

end PanelClock
