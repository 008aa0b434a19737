import PanelClock.Locale.Names

/-!
# Names in traditional Chinese
-/

set_option autoImplicit false

namespace PanelClock

/-- The months. -/
private def traditionalChineseMonths : NameRow where
  within :=
    { abbreviated :=
        ["1月", "2月", "3月", "4月", "5月", "6月", "7月", "8月", "9月", "10月", "11月", "12月"]
      wide :=
        ["1月", "2月", "3月", "4月", "5月", "6月", "7月", "8月", "9月", "10月", "11月", "12月"]
      narrow :=
        ["1", "2", "3", "4", "5", "6", "7", "8", "9", "10", "11", "12"] }
  alone :=
    { abbreviated :=
        ["1月", "2月", "3月", "4月", "5月", "6月", "7月", "8月", "9月", "10月", "11月", "12月"]
      wide :=
        ["1月", "2月", "3月", "4月", "5月", "6月", "7月", "8月", "9月", "10月", "11月", "12月"]
      narrow :=
        ["1", "2", "3", "4", "5", "6", "7", "8", "9", "10", "11", "12"] }

/-- The weekdays, from Monday on. -/
private def traditionalChineseWeekdays : NameRow where
  within :=
    { abbreviated :=
        ["週一", "週二", "週三", "週四", "週五", "週六", "週日"]
      wide :=
        ["星期一", "星期二", "星期三", "星期四", "星期五", "星期六", "星期日"]
      narrow :=
        ["一", "二", "三", "四", "五", "六", "日"] }
  alone :=
    { abbreviated :=
        ["週一", "週二", "週三", "週四", "週五", "週六", "週日"]
      wide :=
        ["星期一", "星期二", "星期三", "星期四", "星期五", "星期六", "星期日"]
      narrow :=
        ["一", "二", "三", "四", "五", "六", "日"] }

/-- The names of the time zones. -/
private def traditionalChineseZones : List ZoneNames :=
  [
    ⟨"America/New_York", some "EST", some "EDT", "ET", some "東部標準時間", some "東部夏令時間", "東部時間"⟩,
    ⟨"America/St_Johns", none, none, "加拿大（聖約翰）時間", some "紐芬蘭標準時間", some "紐芬蘭夏令時間", "紐芬蘭時間"⟩,
    ⟨"Europe/London", some "GMT", none, "英國時間", some "格林威治標準時間", some "英國夏令時間", "英國時間"⟩,
    ⟨"Europe/Berlin", none, none, "德國（柏林）時間", some "中歐標準時間", some "中歐夏令時間", "中歐時間"⟩,
    ⟨"Asia/Tokyo", none, none, "日本時間", some "日本標準時間", none, "日本時間"⟩,
    ⟨"Asia/Kolkata", none, none, "印度時間", none, none, "印度時間"⟩,
    ⟨"Asia/Kathmandu", none, none, "尼泊爾時間", none, none, "尼泊爾時間"⟩,
    ⟨"Australia/Lord_Howe", none, none, "澳洲（豪勳爵島）時間", some "豪勳爵島標準時間", some "豪勳爵島夏令時間", "豪勳爵島時間"⟩,
    ⟨"Pacific/Chatham", none, none, "紐西蘭（查坦）時間", some "查坦群島標準時間", some "查坦群島夏令時間", "查坦群島時間"⟩,
    ⟨"UTC", some "UTC", none, "未知區域（UTC）時間", some "世界標準時間", none, "未知區域（UTC）時間"⟩]

/-- The pattern for each skeleton. -/
private def traditionalChineseSkeletons : List SkeletonPattern :=
  [
    ⟨"Bh", "Bh時"⟩,
    ⟨"Bhm", "Bh:mm"⟩,
    ⟨"Bhms", "Bh:mm:ss"⟩,
    ⟨"E", "ccc"⟩,
    ⟨"EBhm", "E Bh:mm"⟩,
    ⟨"EBhms", "E Bh:mm:ss"⟩,
    ⟨"EHm", "E HH:mm"⟩,
    ⟨"EHms", "E HH:mm:ss"⟩,
    ⟨"Ed", "d E"⟩,
    ⟨"Ehm", "E Bh:mm"⟩,
    ⟨"Ehms", "E Bh:mm:ss"⟩,
    ⟨"Gy", "Gy年"⟩,
    ⟨"GyMMM", "Gy年M月"⟩,
    ⟨"GyMMMEd", "Gy年M月d日 E"⟩,
    ⟨"GyMMMd", "Gy年M月d日"⟩,
    ⟨"GyMd", "G y/M/d"⟩,
    ⟨"H", "H時"⟩,
    ⟨"Hm", "HH:mm"⟩,
    ⟨"Hms", "HH:mm:ss"⟩,
    ⟨"Hmsv", "HH:mm:ss [v]"⟩,
    ⟨"Hmv", "HH:mm [v]"⟩,
    ⟨"M", "M月"⟩,
    ⟨"MEd", "M/d（E）"⟩,
    ⟨"MMM", "LLL"⟩,
    ⟨"MMMEd", "M月d日 E"⟩,
    ⟨"MMMMW", "MMMM的第W週"⟩,
    ⟨"MMMMd", "M月d日"⟩,
    ⟨"MMMd", "M月d日"⟩,
    ⟨"MMdd", "MM/dd"⟩,
    ⟨"Md", "M/d"⟩,
    ⟨"d", "d日"⟩,
    ⟨"h", "Bh時"⟩,
    ⟨"hm", "Bh:mm"⟩,
    ⟨"hms", "Bh:mm:ss"⟩,
    ⟨"hmsv", "Bh:mm:ss [v]"⟩,
    ⟨"hmv", "Bh:mm [v]"⟩,
    ⟨"ms", "mm:ss"⟩,
    ⟨"y", "y年"⟩,
    ⟨"yM", "y/M"⟩,
    ⟨"yMEEEEd", "y年M月d日 EEEE"⟩,
    ⟨"yMEd", "y/M/d（E）"⟩,
    ⟨"yMM", "y/MM"⟩,
    ⟨"yMMM", "y年M月"⟩,
    ⟨"yMMMEd", "y年M月d日 E"⟩,
    ⟨"yMMMM", "y年M月"⟩,
    ⟨"yMMMd", "y年M月d日"⟩,
    ⟨"yMd", "y/M/d"⟩,
    ⟨"yQQQ", "y年QQQ"⟩,
    ⟨"yQQQQ", "y年QQQQ"⟩,
    ⟨"yw", "Y年的第w週"⟩]

/-- The names and patterns of traditional Chinese. -/
def traditionalChinese : LocaleNames where
  months := traditionalChineseMonths
  weekdays := traditionalChineseWeekdays
  era := ⟨"西元", "西元", "西元"⟩
  halfDays := ⟨some ⟨"上午", "下午"⟩, none, none⟩
  dayPeriods :=
    [⟨0, 1, "午夜"⟩, ⟨18000, 28800, "清晨"⟩, ⟨28800, 43200, "上午"⟩, ⟨43200, 46800, "中午"⟩,
      ⟨46800, 68400, "下午"⟩, ⟨68400, 86400, "晚上"⟩, ⟨0, 18000, "凌晨"⟩]
  shortTime := "Bh:mm"
  offsetLabel := "GMT"
  firstWeekday := 6
  zones := traditionalChineseZones
  unknownRegion := ("未知區域（", "）時間")
  skeletons := traditionalChineseSkeletons

end PanelClock
