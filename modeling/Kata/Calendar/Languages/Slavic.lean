import Kata.Calendar.Language

/-! Date words of the Slavic languages, in the Cyrillic and Latin scripts. -/

namespace Kata.Calendar

def russian : Language where
  code := "ru"
  order := .dmy
  months := [["января", "январь", "янв"], ["февраля", "февраль", "февр", "фев"],
    ["марта", "март", "мар"], ["апреля", "апрель", "апр"], ["мая", "май"], ["июня", "июнь", "июн"],
    ["июля", "июль", "июл"], ["августа", "август", "авг"], ["сентября", "сентябрь", "сент", "сен"],
    ["октября", "октябрь", "окт"], ["ноября", "ноябрь", "нояб", "ноя"],
    ["декабря", "декабрь", "дек"]]
  weekdays := [["понедельник", "пн", "пон"], ["вторник", "вт"], ["среда", "среду", "ср"],
    ["четверг", "чт"], ["пятница", "пятницу", "пт"], ["суббота", "субботу", "сб"],
    ["воскресенье", "вс"]]
  filler := ["в", "и", "около", "г", "года"]
  year := ["год", "года", "лет"]
  month := ["месяц", "месяца", "мес"]
  week := ["неделя", "недели"]
  day := ["день", "дня", "дней"]
  hour := ["час", "часа", "часов", "ч"]
  minute := ["минута", "минуты", "минут", "мин"]
  second := ["секунда", "секунды", "секунд", "сек"]

def polish : Language where
  code := "pl"
  order := .dmy
  months := [["stycznia", "styczeń", "sty"], ["lutego", "luty", "lut"], ["marca", "marzec", "mar"],
    ["kwietnia", "kwiecień", "kwi"], ["maja", "maj"], ["czerwca", "czerwiec", "cze"],
    ["lipca", "lipiec", "lip"], ["sierpnia", "sierpień", "sie"], ["września", "wrzesień", "wrz"],
    ["października", "październik", "paź"], ["listopada", "listopad", "lis"],
    ["grudnia", "grudzień", "gru"]]
  weekdays := [["poniedziałek", "pon"], ["wtorek", "wt"], ["środa", "śr"], ["czwartek", "czw"],
    ["piątek", "pt"], ["sobota", "sob"], ["niedziela", "niedz", "nie"]]

def ukrainian : Language where
  code := "uk"
  order := .dmy
  months := [["січня", "січень", "січ"], ["лютого", "лютий", "лют"], ["березня", "березень", "бер"],
    ["квітня", "квітень", "квіт"], ["травня", "травень", "трав"], ["червня", "червень", "черв"],
    ["липня", "липень", "лип"], ["серпня", "серпень", "серп"], ["вересня", "вересень", "вер"],
    ["жовтня", "жовтень", "жовт"], ["листопада", "листопад", "лист"], ["грудня", "грудень", "груд"]]
  weekdays := [["понеділок", "пн"], ["вівторок", "вт"], ["середа", "ср"], ["четвер", "чт"],
    ["пʼятниця", "пт"], ["субота", "сб"], ["неділя", "нд"]]

def czech : Language where
  code := "cs"
  order := .dmy
  months := [["ledna", "leden", "led"], ["února", "únor", "úno"], ["března", "březen", "bře"],
    ["dubna", "duben", "dub"], ["května", "květen", "kvě"], ["června", "červen", "čvn"],
    ["července", "červenec", "čvc"], ["srpna", "srpen", "srp"], ["září", "zář"],
    ["října", "říjen", "říj"], ["listopadu", "listopad", "lis"], ["prosince", "prosinec", "pro"]]
  weekdays := [["pondělí", "po"], ["úterý", "út"], ["středa", "st"], ["čtvrtek", "čt"],
    ["pátek", "pá"], ["sobota", "so"], ["neděle", "ne"]]

def serbian : Language where
  code := "sr"
  order := .dmy
  months := [["јануар", "јан"], ["фебруар", "феб"], ["март", "мар"], ["април", "апр"], ["мај"],
    ["јун"], ["јул"], ["август", "авг"], ["септембар", "сеп"], ["октобар", "окт"],
    ["новембар", "нов"], ["децембар", "дец"]]
  weekdays := [["понедељак", "пон"], ["уторак", "уто"], ["среда", "сре"], ["четвртак", "чет"],
    ["петак", "пет"], ["субота", "суб"], ["недеља", "нед"]]

def serbianLatin : Language where
  code := "sr-Latn"
  order := .dmy
  months := [["januar", "jan"], ["februar", "feb"], ["mart", "mar"], ["april", "apr"], ["maj"],
    ["jun"], ["jul"], ["avgust", "avg"], ["septembar", "sep"], ["oktobar", "okt"],
    ["novembar", "nov"], ["decembar", "dec"]]
  weekdays := [["ponedeljak", "pon"], ["utorak", "uto"], ["sreda", "sre"], ["četvrtak", "čet"],
    ["petak", "pet"], ["subota", "sub"], ["nedelja", "ned"]]

def slovak : Language where
  code := "sk"
  order := .dmy
  months := [["januára", "január", "jan"], ["februára", "február", "feb"],
    ["marca", "marec", "mar"], ["apríla", "apríl", "apr"], ["mája", "máj"], ["júna", "jún"],
    ["júla", "júl"], ["augusta", "august", "aug"], ["septembra", "september", "sep"],
    ["októbra", "október", "okt"], ["novembra", "november", "nov"], ["decembra", "december", "dec"]]
  weekdays := [["pondelok", "po"], ["utorok", "ut"], ["streda", "st"], ["štvrtok", "št"],
    ["piatok", "pi"], ["sobota", "so"], ["nedeľa", "ne"]]

def bulgarian : Language where
  code := "bg"
  order := .dmy
  months := [["януари", "яну"], ["февруари", "фев"], ["март"], ["април", "апр"], ["май"], ["юни"],
    ["юли"], ["август", "авг"], ["септември", "сеп"], ["октомври", "окт"], ["ноември", "ное"],
    ["декември", "дек"]]
  weekdays := [["понеделник", "пн"], ["вторник", "вт"], ["сряда", "ср"], ["четвъртък", "чт"],
    ["петък", "пт"], ["събота", "сб"], ["неделя", "нд"]]

def croatian : Language where
  code := "hr"
  order := .dmy
  months := [["siječnja", "siječanj", "sij"], ["veljače", "veljača", "velj"],
    ["ožujka", "ožujak", "ožu"], ["travnja", "travanj", "tra"], ["svibnja", "svibanj", "svi"],
    ["lipnja", "lipanj", "lip"], ["srpnja", "srpanj", "srp"], ["kolovoza", "kolovoz", "kol"],
    ["rujna", "rujan", "ruj"], ["listopada", "listopad", "lis"], ["studenoga", "studeni", "stu"],
    ["prosinca", "prosinac", "pro"]]
  weekdays := [["ponedjeljak", "pon"], ["utorak", "uto"], ["srijeda", "sri"], ["četvrtak", "čet"],
    ["petak", "pet"], ["subota", "sub"], ["nedjelja", "ned"]]

def slovenian : Language where
  code := "sl"
  order := .dmy
  months := [["januar", "jan"], ["februar", "feb"], ["marec", "mar"], ["april", "apr"], ["maj"],
    ["junij", "jun"], ["julij", "jul"], ["avgust", "avg"], ["september", "sep"], ["oktober", "okt"],
    ["november", "nov"], ["december", "dec"]]
  weekdays := [["ponedeljek", "pon"], ["torek", "tor"], ["sreda", "sre"], ["četrtek", "čet"],
    ["petek", "pet"], ["sobota", "sob"], ["nedelja", "ned"]]

def macedonian : Language where
  code := "mk"
  order := .dmy
  months := [["јануари", "јан"], ["февруари", "фев"], ["март", "мар"], ["април", "апр"], ["мај"],
    ["јуни", "јун"], ["јули", "јул"], ["август", "авг"], ["септември", "септ"], ["октомври", "окт"],
    ["ноември", "ноем"], ["декември", "дек"]]

def belarusian : Language where
  code := "be"
  order := .dmy
  months := [["студзеня", "студзень"], ["лютага", "люты"], ["сакавіка", "сакавік"],
    ["красавіка", "красавік"], ["мая", "май"], ["чэрвеня", "чэрвень"], ["ліпеня", "ліпень"],
    ["жніўня", "жнівень"], ["верасня", "верасень"], ["кастрычніка", "кастрычнік"],
    ["лістапада", "лістапад"], ["снежня", "снежань"]]

def bosnian : Language where
  code := "bs"
  order := .dmy
  months := [["januar", "jan"], ["februar", "feb"], ["mart", "mar"], ["april", "apr"], ["maj"],
    ["juni", "jun"], ["juli", "jul"], ["august", "aug"], ["septembar", "sep"], ["oktobar", "okt"],
    ["novembar", "nov"], ["decembar", "dec"]]

end Kata.Calendar
