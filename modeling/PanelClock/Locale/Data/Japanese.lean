import PanelClock.Locale.Names

/-!
# Names in Japanese
-/

set_option autoImplicit false

namespace PanelClock

/-- The months. -/
private def japaneseMonths : NameRow where
  within :=
    { abbreviated :=
        ["1月", "2月", "3月", "4月", "5月", "6月", "7月", "8月", "9月", "10月", "11月", "12月"]
      wide :=
        ["1月", "2月", "3月", "4月", "5月", "6月", "7月", "8月", "9月", "10月", "11月", "12月"]
      narrow :=
        ["1", "2", "3", "4", "5", "6", "7", "8", "9", "10", "11", "12"] }
  alone :=
    { abbreviated :=
        ["1月", "2月", "3月", "4月", "5月", "6月", "7月", "8月", "9月", "10月", "11月", "12月"]
      wide :=
        ["1月", "2月", "3月", "4月", "5月", "6月", "7月", "8月", "9月", "10月", "11月", "12月"]
      narrow :=
        ["1", "2", "3", "4", "5", "6", "7", "8", "9", "10", "11", "12"] }

/-- The weekdays, from Monday on. -/
private def japaneseWeekdays : NameRow where
  within :=
    { abbreviated :=
        ["月", "火", "水", "木", "金", "土", "日"]
      wide :=
        ["月曜日", "火曜日", "水曜日", "木曜日", "金曜日", "土曜日", "日曜日"]
      narrow :=
        ["月", "火", "水", "木", "金", "土", "日"] }
  alone :=
    { abbreviated :=
        ["月", "火", "水", "木", "金", "土", "日"]
      wide :=
        ["月曜日", "火曜日", "水曜日", "木曜日", "金曜日", "土曜日", "日曜日"]
      narrow :=
        ["月", "火", "水", "木", "金", "土", "日"] }

/-- The names of the time zones. -/
private def japaneseZones : List ZoneNames :=
  [
    ⟨"America/New_York", none, none, "アメリカ合衆国（ニューヨーク）時間", some "アメリカ東部標準時", some "アメリカ東部夏時間",
      "アメリカ東部時間"⟩,
    ⟨"America/St_Johns", none, none, "カナダ（セントジョンズ）時間", some "ニューファンドランド標準時", some "ニューファンドランド夏時間",
      "ニューファンドランド時間"⟩,
    ⟨"Europe/London", none, none, "イギリス時間", some "グリニッジ標準時", some "英国夏時間", "イギリス時間"⟩,
    ⟨"Europe/Berlin", none, none, "ドイツ（ベルリン）時間", some "中央ヨーロッパ標準時", some "中央ヨーロッパ夏時間",
      "中央ヨーロッパ時間"⟩,
    ⟨"Asia/Tokyo", some "JST", none, "日本時間", some "日本標準時", none, "日本時間"⟩,
    ⟨"Asia/Kolkata", none, none, "インド時間", none, none, "インド時間"⟩,
    ⟨"Asia/Kathmandu", none, none, "ネパール時間", none, none, "ネパール時間"⟩,
    ⟨"Australia/Lord_Howe", none, none, "オーストラリア（ロードハウ）時間", some "ロードハウ標準時", some "ロードハウ夏時間",
      "ロードハウ時間"⟩,
    ⟨"Pacific/Chatham", none, none, "ニュージーランド（チャタム）時間", some "チャタム標準時", some "チャタム夏時間", "チャタム時間"⟩,
    ⟨"UTC", some "UTC", none, "不明な地域（UTC）時間", some "協定世界時", none, "不明な地域（UTC）時間"⟩]

/-- The pattern for each skeleton. -/
private def japaneseSkeletons : List SkeletonPattern :=
  [
    ⟨"Bh", "BK時"⟩,
    ⟨"Bhm", "BK:mm"⟩,
    ⟨"Bhms", "BK:mm:ss"⟩,
    ⟨"E", "ccc"⟩,
    ⟨"EBhm", "BK:mm (E)"⟩,
    ⟨"EBhms", "BK:mm:ss (E)"⟩,
    ⟨"EEEEd", "d日EEEE"⟩,
    ⟨"EHm", "H:mm (E)"⟩,
    ⟨"EHms", "H:mm:ss (E)"⟩,
    ⟨"Ed", "d日(E)"⟩,
    ⟨"Ehm", "aK:mm (E)"⟩,
    ⟨"Ehms", "aK:mm:ss (E)"⟩,
    ⟨"Gy", "Gy年"⟩,
    ⟨"GyMMM", "Gy年M月"⟩,
    ⟨"GyMMMEEEEd", "Gy年M月d日EEEE"⟩,
    ⟨"GyMMMEd", "Gy年M月d日(E)"⟩,
    ⟨"GyMMMd", "Gy年M月d日"⟩,
    ⟨"GyMd", "Gy/M/d"⟩,
    ⟨"H", "H時"⟩,
    ⟨"Hm", "H:mm"⟩,
    ⟨"Hms", "H:mm:ss"⟩,
    ⟨"Hmsv", "H:mm:ss v"⟩,
    ⟨"Hmv", "H:mm v"⟩,
    ⟨"M", "M月"⟩,
    ⟨"MEEEEd", "M/dEEEE"⟩,
    ⟨"MEd", "M/d(E)"⟩,
    ⟨"MMM", "M月"⟩,
    ⟨"MMMEEEEd", "M月d日EEEE"⟩,
    ⟨"MMMEd", "M月d日(E)"⟩,
    ⟨"MMMMW", "M月第W週"⟩,
    ⟨"MMMMd", "M月d日"⟩,
    ⟨"MMMd", "M月d日"⟩,
    ⟨"Md", "M/d"⟩,
    ⟨"d", "d日"⟩,
    ⟨"h", "aK時"⟩,
    ⟨"hm", "aK:mm"⟩,
    ⟨"hms", "aK:mm:ss"⟩,
    ⟨"hmsv", "aK:mm:ss v"⟩,
    ⟨"hmv", "aK:mm v"⟩,
    ⟨"ms", "mm:ss"⟩,
    ⟨"y", "y年"⟩,
    ⟨"yM", "y/M"⟩,
    ⟨"yMEEEEd", "y/M/dEEEE"⟩,
    ⟨"yMEd", "y/M/d(E)"⟩,
    ⟨"yMM", "y/MM"⟩,
    ⟨"yMMM", "y年M月"⟩,
    ⟨"yMMMEEEEd", "y年M月d日EEEE"⟩,
    ⟨"yMMMEd", "y年M月d日(E)"⟩,
    ⟨"yMMMM", "y年M月"⟩,
    ⟨"yMMMd", "y年M月d日"⟩,
    ⟨"yMd", "y/M/d"⟩,
    ⟨"yQQQ", "y/QQQ"⟩,
    ⟨"yQQQQ", "y年QQQQ"⟩,
    ⟨"yw", "Y年第w週"⟩]

/-- The names and patterns of Japanese. -/
def japanese : LocaleNames where
  months := japaneseMonths
  weekdays := japaneseWeekdays
  era := ⟨"西暦", "西暦", "AD"⟩
  halfDays := ⟨some ⟨"午前", "午後"⟩, none, none⟩
  dayPeriods := []
  shortTime := "H:mm"
  offsetLabel := "GMT"
  firstWeekday := 6
  zones := japaneseZones
  unknownRegion := ("不明な地域（", "）時間")
  skeletons := japaneseSkeletons

end PanelClock
