import Kata.Calendar.Language

/-! Date words of the languages of Asia. -/

namespace Kata.Calendar

def turkish : Language where
  code := "tr"
  order := .dmy
  months := [["ocak", "oca"], ["şubat", "şub"], ["mart", "mar"], ["nisan", "nis"], ["mayıs", "may"],
    ["haziran", "haz"], ["temmuz", "tem"], ["ağustos", "ağu"], ["eylül", "eyl"], ["ekim", "eki"],
    ["kasım", "kas"], ["aralık", "ara"]]
  weekdays := [["pazartesi", "pzt"], ["salı", "sal"], ["çarşamba", "çar"], ["perşembe", "per"],
    ["cuma", "cum"], ["cumartesi", "cmt"], ["pazar", "paz"]]
  year := ["yıl"]
  month := ["ay"]
  week := ["hafta"]
  day := ["gün"]
  hour := ["saat"]
  minute := ["dakika", "dk"]
  second := ["saniye", "sn"]

def persian : Language where
  code := "fa"
  order := .ymd
  months := [["ژانویه"], ["فوریه"], ["مارس"], ["آوریل"], ["مه", "می"], ["ژوئن"], ["ژوئیه"], ["اوت"],
    ["سپتامبر"], ["اکتبر"], ["نوامبر"], ["دسامبر"]]
  weekdays := [["دوشنبه"], ["سه\u200cشنبه"], ["چهارشنبه"], ["پنجشنبه"], ["جمعه"], ["شنبه"],
    ["یکشنبه"]]

def japanese : Language where
  code := "ja"
  order := .ymd
  spaced := false
  months := [["1月"], ["2月"], ["3月"], ["4月"], ["5月"], ["6月"], ["7月"], ["8月"], ["9月"], ["10月"],
    ["11月"], ["12月"]]
  weekdays := [["月曜日", "月曜"], ["火曜日", "火曜", "火"], ["水曜日", "水曜", "水"], ["木曜日", "木曜", "木"],
    ["金曜日", "金曜", "金"], ["土曜日", "土曜", "土"], ["日曜日", "日曜"]]
  am := ["午前"]
  pm := ["午後"]
  filler := ["日"]
  year := ["年"]
  month := ["月", "か月", "ヶ月"]
  week := ["週"]
  hour := ["時", "時間"]
  minute := ["分"]
  second := ["秒"]

def vietnamese : Language where
  code := "vi"
  order := .dmy
  months := [["tháng 1", "thg 1"], ["tháng 2", "thg 2"], ["tháng 3", "thg 3"], ["tháng 4", "thg 4"],
    ["tháng 5", "thg 5"], ["tháng 6", "thg 6"], ["tháng 7", "thg 7"], ["tháng 8", "thg 8"],
    ["tháng 9", "thg 9"], ["tháng 10", "thg 10"], ["tháng 11", "thg 11"], ["tháng 12", "thg 12"]]
  weekdays := [["thứ hai", "th 2"], ["thứ ba", "th 3"], ["thứ tư", "th 4"], ["thứ năm", "th 5"],
    ["thứ sáu", "th 6"], ["thứ bảy", "th 7"], ["chủ nhật", "cn"]]
  am := ["sa"]
  pm := ["ch"]
  year := ["năm"]
  month := ["tháng"]
  week := ["tuần"]
  day := ["ngày"]
  hour := ["giờ"]
  minute := ["phút"]
  second := ["giây"]

def chinese : Language where
  code := "zh"
  order := .ymd
  spaced := false
  months := [["1月"], ["2月"], ["3月"], ["4月"], ["5月"], ["6月"], ["7月"], ["8月"], ["9月"], ["10月"],
    ["11月"], ["12月"]]
  weekdays := [["星期一", "周一"], ["星期二", "周二"], ["星期三", "周三"], ["星期四", "周四"], ["星期五", "周五"],
    ["星期六", "周六"], ["星期日", "星期天", "周日"]]
  am := ["上午"]
  pm := ["下午"]
  filler := ["日", "号"]
  year := ["年"]
  month := ["月", "个月"]
  week := ["周", "星期"]
  hour := ["时", "小时"]
  minute := ["分", "分钟"]
  second := ["秒"]

def arabic : Language where
  code := "ar"
  order := .dmy
  months := [["يناير", "كانون الثاني"], ["فبراير", "شباط"], ["مارس", "آذار"], ["أبريل", "نيسان"],
    ["مايو", "أيار"], ["يونيو", "حزيران"], ["يوليو", "تموز"], ["أغسطس", "آب"], ["سبتمبر", "أيلول"],
    ["أكتوبر", "تشرين الأول"], ["نوفمبر", "تشرين الثاني"], ["ديسمبر", "كانون الأول"]]
  weekdays := [["الاثنين"], ["الثلاثاء"], ["الأربعاء"], ["الخميس"], ["الجمعة"], ["السبت"],
    ["الأحد"]]
  am := ["ص"]
  pm := ["م"]

def indonesian : Language where
  code := "id"
  order := .dmy
  months := [["januari", "jan"], ["februari", "feb"], ["maret", "mar"], ["april", "apr"], ["mei"],
    ["juni", "jun"], ["juli", "jul"], ["agustus", "agu", "agt"], ["september", "sep"],
    ["oktober", "okt"], ["november", "nov"], ["desember", "des"]]
  weekdays := [["senin", "sen"], ["selasa", "sel"], ["rabu", "rab"], ["kamis", "kam"],
    ["jumat", "jum"], ["sabtu", "sab"], ["minggu", "min"]]

def korean : Language where
  code := "ko"
  order := .ymd
  months := [["1월"], ["2월"], ["3월"], ["4월"], ["5월"], ["6월"], ["7월"], ["8월"], ["9월"], ["10월"],
    ["11월"], ["12월"]]
  weekdays := [["월요일", "월"], ["화요일", "화"], ["수요일", "수"], ["목요일", "목"], ["금요일", "금"], ["토요일", "토"],
    ["일요일"]]
  am := ["오전"]
  pm := ["오후"]
  filler := ["일"]
  year := ["년"]
  month := ["개월"]
  week := ["주"]
  hour := ["시", "시간"]
  minute := ["분"]
  second := ["초"]

def thai : Language where
  code := "th"
  order := .dmy
  spaced := false
  months := [["มกราคม", "ม.ค."], ["กุมภาพันธ์", "ก.พ."], ["มีนาคม", "มี.ค."], ["เมษายน", "เม.ย."],
    ["พฤษภาคม", "พ.ค."], ["มิถุนายน", "มิ.ย."], ["กรกฎาคม", "ก.ค."], ["สิงหาคม", "ส.ค."],
    ["กันยายน", "ก.ย."], ["ตุลาคม", "ต.ค."], ["พฤศจิกายน", "พ.ย."], ["ธันวาคม", "ธ.ค."]]
  weekdays := [["วันจันทร์", "จันทร์"], ["วันอังคาร", "อังคาร"], ["วันพุธ", "พุธ"],
    ["วันพฤหัสบดี", "พฤหัสบดี", "พฤหัส"], ["วันศุกร์", "ศุกร์"], ["วันเสาร์", "เสาร์"],
    ["วันอาทิตย์", "อาทิตย์"]]

def hebrew : Language where
  code := "he"
  order := .dmy
  months := [["ינואר", "בינואר", "ינו"], ["פברואר", "בפברואר", "פבר"], ["מרץ", "במרץ"],
    ["אפריל", "באפריל", "אפר"], ["מאי", "במאי"], ["יוני", "ביוני"], ["יולי", "ביולי"],
    ["אוגוסט", "באוגוסט", "אוג"], ["ספטמבר", "בספטמבר", "ספט"], ["אוקטובר", "באוקטובר", "אוק"],
    ["נובמבר", "בנובמבר", "נוב"], ["דצמבר", "בדצמבר", "דצמ"]]
  weekdays := [["יום שני"], ["יום שלישי"], ["יום רביעי"], ["יום חמישי"], ["יום שישי"],
    ["יום שבת", "שבת"], ["יום ראשון"]]

def bengali : Language where
  code := "bn"
  order := .dmy
  months := [["জানুয়ারী", "জানুয়ারি"], ["ফেব্রুয়ারী", "ফেব্রুয়ারি"], ["মার্চ"], ["এপ্রিল"],
    ["মে"], ["জুন"], ["জুলাই"], ["আগস্ট"], ["সেপ্টেম্বর"], ["অক্টোবর"], ["নভেম্বর"], ["ডিসেম্বর"]]

def malay : Language where
  code := "ms"
  order := .dmy
  months := [["januari", "jan"], ["februari", "feb"], ["mac"], ["april", "apr"], ["mei"], ["jun"],
    ["julai", "jul"], ["ogos", "ogo"], ["september", "sep"], ["oktober", "okt"],
    ["november", "nov"], ["disember", "dis"]]
  weekdays := [["isnin", "isn"], ["selasa", "sel"], ["rabu", "rab"], ["khamis", "kha"],
    ["jumaat", "jum"], ["sabtu", "sab"], ["ahad", "ahd"]]

def hindi : Language where
  code := "hi"
  order := .dmy
  months := [["जनवरी", "जन"], ["फ़रवरी", "फ़र"], ["मार्च"], ["अप्रैल", "अप्रै"], ["मई"], ["जून"],
    ["जुलाई", "जुल"], ["अगस्त", "अग"], ["सितंबर", "सित"], ["अक्तूबर", "अक्टूबर", "अक्तू"],
    ["नवंबर", "नव"], ["दिसंबर", "दिस"]]
  weekdays := [["सोमवार", "सोम"], ["मंगलवार", "मंगल"], ["बुधवार", "बुध"], ["गुरुवार", "गुरु"],
    ["शुक्रवार", "शुक्र"], ["शनिवार", "शनि"], ["रविवार", "रवि"]]

def azerbaijani : Language where
  code := "az"
  order := .dmy
  months := [["yanvar", "yan"], ["fevral", "fev"], ["mart", "mar"], ["aprel", "apr"], ["may"],
    ["iyun", "iyn"], ["iyul", "iyl"], ["avqust", "avq"], ["sentyabr", "sen"], ["oktyabr", "okt"],
    ["noyabr", "noy"], ["dekabr", "dek"]]

def armenian : Language where
  code := "hy"
  order := .dmy
  months := [["հունվարի", "հունվար"], ["փետրվարի", "փետրվար"], ["մարտի", "մարտ"],
    ["ապրիլի", "ապրիլ"], ["մայիսի", "մայիս"], ["հունիսի", "հունիս"], ["հուլիսի", "հուլիս"],
    ["օգոստոսի", "օգոստոս"], ["սեպտեմբերի", "սեպտեմբեր"], ["հոկտեմբերի", "հոկտեմբեր"],
    ["նոյեմբերի", "նոյեմբեր"], ["դեկտեմբերի", "դեկտեմբեր"]]

def kazakh : Language where
  code := "kk"
  order := .dmy
  months := [["қаңтар"], ["ақпан"], ["наурыз"], ["сәуір"], ["мамыр"], ["маусым"], ["шілде"],
    ["тамыз"], ["қыркүйек"], ["қазан"], ["қараша"], ["желтоқсан"]]

def georgian : Language where
  code := "ka"
  order := .dmy
  months := [["იანვარი"], ["თებერვალი"], ["მარტი"], ["აპრილი"], ["მაისი"], ["ივნისი"], ["ივლისი"],
    ["აგვისტო"], ["სექტემბერი"], ["ოქტომბერი"], ["ნოემბერი"], ["დეკემბერი"]]

def uzbek : Language where
  code := "uz"
  order := .dmy
  months := [["yanvar"], ["fevral"], ["mart"], ["aprel"], ["may"], ["iyun"], ["iyul"], ["avgust"],
    ["sentabr"], ["oktabr"], ["noyabr"], ["dekabr"]]

def urdu : Language where
  code := "ur"
  order := .dmy
  months := [["جنوری"], ["فروری"], ["مارچ"], ["اپریل"], ["مئی"], ["جون"], ["جولائی"], ["اگست"],
    ["ستمبر"], ["اکتوبر"], ["نومبر"], ["دسمبر"]]

def tamil : Language where
  code := "ta"
  order := .dmy
  months := [["ஜனவரி"], ["பிப்ரவரி"], ["மார்ச்"], ["ஏப்ரல்"], ["மே"], ["ஜூன்"], ["ஜூலை"],
    ["ஆகஸ்ட்"], ["செப்டம்பர்"], ["அக்டோபர்"], ["நவம்பர்"], ["டிசம்பர்"]]

def filipino : Language where
  code := "fil"
  order := .mdy
  months := [["enero", "ene"], ["pebrero", "peb"], ["marso", "mar"], ["abril", "abr"],
    ["mayo", "may"], ["hunyo", "hun"], ["hulyo", "hul"], ["agosto", "ago"], ["setyembre", "set"],
    ["oktubre", "okt"], ["nobyembre", "nob"], ["disyembre", "dis"]]

def nepali : Language where
  code := "ne"
  order := .ymd
  months := [["जनवरी"], ["फेब्रुअरी"], ["मार्च"], ["अप्रिल"], ["मे"], ["जुन"], ["जुलाई"], ["अगस्ट"],
    ["सेप्टेम्बर"], ["अक्टोबर"], ["नोभेम्बर"], ["डिसेम्बर"]]

def marathi : Language where
  code := "mr"
  order := .dmy
  months := [["जानेवारी"], ["फेब्रुवारी"], ["मार्च"], ["एप्रिल"], ["मे"], ["जून"], ["जुलै"],
    ["ऑगस्ट"], ["सप्टेंबर"], ["ऑक्टोबर"], ["नोव्हेंबर"], ["डिसेंबर"]]

end Kata.Calendar
