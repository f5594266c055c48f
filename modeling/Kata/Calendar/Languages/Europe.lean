import Kata.Calendar.Language

/-! Date words of the languages of Europe written in the Latin and Greek scripts. -/

namespace Kata.Calendar

def english : Language where
  code := "en"
  order := .mdy
  months := [["january", "jan"], ["february", "feb"], ["march", "mar"], ["april", "apr"], ["may"],
    ["june", "jun"], ["july", "jul"], ["august", "aug"], ["september", "sep", "sept"],
    ["october", "oct"], ["november", "nov"], ["december", "dec"]]
  weekdays := [["monday", "mon"], ["tuesday", "tue"], ["wednesday", "wed"], ["thursday", "thu"],
    ["friday", "fri"], ["saturday", "sat"], ["sunday", "sun"]]
  am := ["am"]
  pm := ["pm"]
  filler := ["about", "ad", "and", "at", "by", "just", "of", "on", "the", "st", "nd", "rd", "th"]
  year := ["year", "years", "yr"]
  month := ["month", "months", "mo"]
  week := ["week", "weeks", "wk"]
  day := ["day", "days"]
  hour := ["hour", "hours", "hr", "h"]
  minute := ["minute", "minutes", "min", "m"]
  second := ["second", "seconds", "sec", "s"]
  respellings := [.word "an" "1", .word "a" "1", .clockWord "noon" "12:00",
    .clockWord "midnight" "00:00", .hourMark]

def spanish : Language where
  code := "es"
  order := .dmy
  months := [["enero", "ene"], ["febrero", "feb"], ["marzo", "mar"], ["abril", "abr"],
    ["mayo", "may"], ["junio", "jun"], ["julio", "jul"], ["agosto", "ago"],
    ["septiembre", "setiembre", "sep", "sept", "set"], ["octubre", "oct"], ["noviembre", "nov"],
    ["diciembre", "dic"]]
  weekdays := [["lunes", "lun"], ["martes", "mar"], ["miércoles", "mié"], ["jueves", "jue"],
    ["viernes", "vie"], ["sábado", "sáb"], ["domingo", "dom"]]
  filler := ["a las", "a", "al", "de", "del", "el", "en", "la", "las", "los", "y"]
  year := ["año", "años"]
  month := ["mes", "meses"]
  week := ["semana", "semanas"]
  day := ["día", "días"]
  hour := ["hora", "horas", "h"]
  minute := ["minuto", "minutos", "min"]
  second := ["segundo", "segundos", "s"]

def french : Language where
  code := "fr"
  order := .dmy
  months := [["janvier", "janv"], ["février", "févr", "fév"], ["mars"], ["avril", "avr"], ["mai"],
    ["juin"], ["juillet", "juil"], ["août"], ["septembre", "sept"], ["octobre", "oct"],
    ["novembre", "nov"], ["décembre", "déc"]]
  weekdays := [["lundi", "lun"], ["mardi", "mar"], ["mercredi", "mer"], ["jeudi", "jeu"],
    ["vendredi", "ven"], ["samedi", "sam"], ["dimanche", "dim"]]
  filler := ["à", "er", "le", "la", "et", "environ", "de", "du"]
  year := ["an", "ans", "année", "années"]
  month := ["mois"]
  week := ["semaine", "semaines"]
  day := ["jour", "jours"]
  hour := ["heure", "heures", "h"]
  minute := ["minute", "minutes", "min"]
  second := ["seconde", "secondes", "s"]
  respellings := [.word "un" "1", .word "une" "1", .word "deux" "2", .word "trois" "3",
    .word "quatre" "4", .word "cinq" "5", .word "six" "6", .word "sept" "7", .word "huit" "8",
    .word "neuf" "9", .word "dix" "10", .word "onze" "11", .word "douze" "12",
    .clockWord "midi" "12:00", .clockWord "minuit" "00:00", .hourMark]

def german : Language where
  code := "de"
  order := .dmy
  months := [["januar", "jan"], ["februar", "feb"], ["märz", "mär"], ["april", "apr"], ["mai"],
    ["juni", "jun"], ["juli", "jul"], ["august", "aug"], ["september", "sep", "sept"],
    ["oktober", "okt"], ["november", "nov"], ["dezember", "dez"]]
  weekdays := [["montag", "mo"], ["dienstag", "di"], ["mittwoch", "mi"], ["donnerstag", "do"],
    ["freitag", "fr"], ["samstag", "sa"], ["sonntag", "so"]]
  filler := ["am", "um", "und", "uhr"]
  year := ["jahr", "jahre", "jahren"]
  month := ["monat", "monate", "monaten"]
  week := ["woche", "wochen"]
  day := ["tag", "tage", "tagen"]
  hour := ["stunde", "stunden", "std"]
  minute := ["minute", "minuten", "min"]
  second := ["sekunde", "sekunden", "sek"]

def portuguese : Language where
  code := "pt"
  order := .dmy
  months := [["janeiro", "jan"], ["fevereiro", "fev"], ["março", "mar"], ["abril", "abr"],
    ["maio", "mai"], ["junho", "jun"], ["julho", "jul"], ["agosto", "ago"], ["setembro", "set"],
    ["outubro", "out"], ["novembro", "nov"], ["dezembro", "dez"]]
  weekdays := [["segunda-feira", "segunda", "seg"], ["terça-feira", "terça", "ter"],
    ["quarta-feira", "quarta", "qua"], ["quinta-feira", "quinta", "qui"],
    ["sexta-feira", "sexta", "sex"], ["sábado", "sáb"], ["domingo", "dom"]]
  filler := ["às", "de", "do", "da", "e", "em"]
  year := ["ano", "anos"]
  month := ["mês", "meses"]
  week := ["semana", "semanas"]
  day := ["dia", "dias"]
  hour := ["hora", "horas", "h"]
  minute := ["minuto", "minutos", "min"]
  second := ["segundo", "segundos", "s"]

def italian : Language where
  code := "it"
  order := .dmy
  months := [["gennaio", "gen"], ["febbraio", "feb"], ["marzo", "mar"], ["aprile", "apr"],
    ["maggio", "mag"], ["giugno", "giu"], ["luglio", "lug"], ["agosto", "ago"],
    ["settembre", "set"], ["ottobre", "ott"], ["novembre", "nov"], ["dicembre", "dic"]]
  weekdays := [["lunedì", "lun"], ["martedì", "mar"], ["mercoledì", "mer"], ["giovedì", "gio"],
    ["venerdì", "ven"], ["sabato", "sab"], ["domenica", "dom"]]
  filler := ["alle", "e", "il", "di", "del"]
  year := ["anno", "anni"]
  month := ["mese", "mesi"]
  week := ["settimana", "settimane"]
  day := ["giorno", "giorni"]
  hour := ["ora", "ore", "h"]
  minute := ["minuto", "minuti", "min"]
  second := ["secondo", "secondi", "s"]

def greek : Language where
  code := "el"
  order := .dmy
  months := [["ιανουαρίου", "ιανουάριος", "ιαν"], ["φεβρουαρίου", "φεβρουάριος", "φεβ"],
    ["μαρτίου", "μάρτιος", "μαρ", "μάρ"], ["απριλίου", "απρίλιος", "απρ"],
    ["μαΐου", "μάιος", "μαΐ", "μάι", "μαι"], ["ιουνίου", "ιούνιος", "ιουν", "ιούν"],
    ["ιουλίου", "ιούλιος", "ιουλ", "ιούλ"], ["αυγούστου", "αύγουστος", "αυγ", "αύγ"],
    ["σεπτεμβρίου", "σεπτέμβριος", "σεπ"], ["οκτωβρίου", "οκτώβριος", "οκτ"],
    ["νοεμβρίου", "νοέμβριος", "νοε", "νοέ"], ["δεκεμβρίου", "δεκέμβριος", "δεκ"]]
  weekdays := [["δευτέρα", "δευ"], ["τρίτη", "τρί"], ["τετάρτη", "τετ"], ["πέμπτη", "πέμ"],
    ["παρασκευή", "παρ"], ["σάββατο", "σάβ"], ["κυριακή", "κυρ"]]

def dutch : Language where
  code := "nl"
  order := .dmy
  months := [["januari", "jan"], ["februari", "feb"], ["maart", "mrt"], ["april", "apr"], ["mei"],
    ["juni", "jun"], ["juli", "jul"], ["augustus", "aug"], ["september", "sep", "sept"],
    ["oktober", "okt"], ["november", "nov"], ["december", "dec"]]
  weekdays := [["maandag", "ma"], ["dinsdag", "di"], ["woensdag", "wo"], ["donderdag", "do"],
    ["vrijdag", "vr"], ["zaterdag", "za"], ["zondag", "zo"]]
  filler := ["om", "en", "van", "op", "uur"]
  year := ["jaar"]
  month := ["maand", "maanden"]
  week := ["week", "weken"]
  day := ["dag", "dagen"]
  hour := ["uur"]
  minute := ["minuut", "minuten", "min"]
  second := ["seconde", "seconden", "sec"]

def swedish : Language where
  code := "sv"
  order := .ymd
  months := [["januari", "jan"], ["februari", "feb"], ["mars", "mar"], ["april", "apr"], ["maj"],
    ["juni", "jun"], ["juli", "jul"], ["augusti", "aug"], ["september", "sep"], ["oktober", "okt"],
    ["november", "nov"], ["december", "dec"]]
  weekdays := [["måndag", "mån"], ["tisdag", "tis"], ["onsdag", "ons"], ["torsdag", "tors"],
    ["fredag", "fre"], ["lördag", "lör"], ["söndag", "sön"]]

def romanian : Language where
  code := "ro"
  order := .dmy
  months := [["ianuarie", "ian"], ["februarie", "feb"], ["martie", "mar"], ["aprilie", "apr"],
    ["mai"], ["iunie", "iun"], ["iulie", "iul"], ["august", "aug"], ["septembrie", "sept", "sep"],
    ["octombrie", "oct"], ["noiembrie", "nov"], ["decembrie", "dec"]]
  weekdays := [["luni", "lun"], ["marți", "mar"], ["miercuri", "mie"], ["joi"], ["vineri", "vin"],
    ["sâmbătă", "sâm"], ["duminică", "dum"]]

def hungarian : Language where
  code := "hu"
  order := .ymd
  months := [["január", "jan"], ["február", "febr"], ["március", "márc"], ["április", "ápr"],
    ["május", "máj"], ["június", "jún"], ["július", "júl"], ["augusztus", "aug"],
    ["szeptember", "szept"], ["október", "okt"], ["november", "nov"], ["december", "dec"]]
  weekdays := [["hétfő"], ["kedd"], ["szerda", "sze"], ["csütörtök", "cs"], ["péntek"],
    ["szombat", "szo"], ["vasárnap", "vas"]]

def danish : Language where
  code := "da"
  order := .dmy
  months := [["januar", "jan"], ["februar", "feb"], ["marts", "mar"], ["april", "apr"], ["maj"],
    ["juni", "jun"], ["juli", "jul"], ["august", "aug"], ["september", "sep"], ["oktober", "okt"],
    ["november", "nov"], ["december", "dec"]]
  weekdays := [["mandag", "man"], ["tirsdag", "tir"], ["onsdag", "ons"], ["torsdag", "tor"],
    ["fredag", "fre"], ["lørdag", "lør"], ["søndag", "søn"]]

def finnish : Language where
  code := "fi"
  order := .dmy
  months := [["tammikuuta", "tammikuu", "tammik", "tammi"],
    ["helmikuuta", "helmikuu", "helmik", "helmi"],
    ["maaliskuuta", "maaliskuu", "maalisk", "maalis"],
    ["huhtikuuta", "huhtikuu", "huhtik", "huhti"], ["toukokuuta", "toukokuu", "toukok", "touko"],
    ["kesäkuuta", "kesäkuu", "kesäk", "kesä"], ["heinäkuuta", "heinäkuu", "heinäk", "heinä"],
    ["elokuuta", "elokuu", "elok", "elo"], ["syyskuuta", "syyskuu", "syysk", "syys"],
    ["lokakuuta", "lokakuu", "lokak", "loka"], ["marraskuuta", "marraskuu", "marrask", "marras"],
    ["joulukuuta", "joulukuu", "jouluk", "joulu"]]
  weekdays := [["maanantai", "ma"], ["tiistai", "ti"], ["keskiviikko", "ke"], ["torstai", "to"],
    ["perjantai", "pe"], ["lauantai", "la"], ["sunnuntai", "su"]]

def norwegian : Language where
  code := "nb"
  order := .dmy
  months := [["januar", "jan"], ["februar", "feb"], ["mars", "mar"], ["april", "apr"], ["mai"],
    ["juni", "jun"], ["juli", "jul"], ["august", "aug"], ["september", "sep"], ["oktober", "okt"],
    ["november", "nov"], ["desember", "des"]]
  weekdays := [["mandag", "man"], ["tirsdag", "tir"], ["onsdag", "ons"], ["torsdag", "tor"],
    ["fredag", "fre"], ["lørdag", "lør"], ["søndag", "søn"]]

def lithuanian : Language where
  code := "lt"
  order := .ymd
  months := [["sausio", "sausis", "saus"], ["vasario", "vasaris", "vas"], ["kovo", "kovas", "kov"],
    ["balandžio", "balandis", "bal"], ["gegužės", "gegužė", "geg"],
    ["birželio", "birželis", "birž"], ["liepos", "liepa", "liep"],
    ["rugpjūčio", "rugpjūtis", "rugp"], ["rugsėjo", "rugsėjis", "rugs"],
    ["spalio", "spalis", "spal"], ["lapkričio", "lapkritis", "lapkr"],
    ["gruodžio", "gruodis", "gruod"]]
  weekdays := [["pirmadienis", "pr"], ["antradienis", "an"], ["trečiadienis", "tr"],
    ["ketvirtadienis", "kt"], ["penktadienis", "pn"], ["šeštadienis", "št"], ["sekmadienis", "sk"]]

def latvian : Language where
  code := "lv"
  order := .dmy
  months := [["janvāris", "janv"], ["februāris", "febr"], ["marts"], ["aprīlis", "apr"], ["maijs"],
    ["jūnijs", "jūn"], ["jūlijs", "jūl"], ["augusts", "aug"], ["septembris", "sept"],
    ["oktobris", "okt"], ["novembris", "nov"], ["decembris", "dec"]]
  weekdays := [["pirmdiena"], ["otrdiena"], ["trešdiena"], ["ceturtdiena"], ["piektdiena"],
    ["sestdiena"], ["svētdiena"]]

def estonian : Language where
  code := "et"
  order := .dmy
  months := [["jaanuar", "jaan"], ["veebruar", "veebr"], ["märts"], ["aprill", "apr"], ["mai"],
    ["juuni"], ["juuli"], ["august", "aug"], ["september", "sept"], ["oktoober", "okt"],
    ["november", "nov"], ["detsember", "dets"]]
  weekdays := [["esmaspäev"], ["teisipäev"], ["kolmapäev"], ["neljapäev"], ["reede"], ["laupäev"],
    ["pühapäev"]]

def catalan : Language where
  code := "ca"
  order := .dmy
  months := [["gener", "gen"], ["febrer", "febr"], ["març"], ["abril", "abr"], ["maig"], ["juny"],
    ["juliol", "jul"], ["agost", "ag"], ["setembre", "set"], ["octubre", "oct"],
    ["novembre", "nov"], ["desembre", "des"]]
  weekdays := [["dilluns", "dl"], ["dimarts", "dt"], ["dimecres", "dc"], ["dijous", "dj"],
    ["divendres", "dv"], ["dissabte", "ds"], ["diumenge", "dg"]]
  filler := ["de", "d\x27", "a les"]

def albanian : Language where
  code := "sq"
  order := .dmy
  months := [["janar", "jan"], ["shkurt", "shk"], ["mars", "mar"], ["prill", "pri"], ["maj"],
    ["qershor", "qer"], ["korrik", "korr"], ["gusht", "gush"], ["shtator", "sht"], ["tetor", "tet"],
    ["nëntor", "nën"], ["dhjetor", "dhj"]]

def icelandic : Language where
  code := "is"
  order := .dmy
  months := [["janúar", "jan"], ["febrúar", "feb"], ["mars", "mar"], ["apríl", "apr"], ["maí"],
    ["júní", "jún"], ["júlí", "júl"], ["ágúst", "ágú"], ["september", "sep"], ["október", "okt"],
    ["nóvember", "nóv"], ["desember", "des"]]

def basque : Language where
  code := "eu"
  order := .ymd
  months := [["urtarrila", "urt"], ["otsaila", "ots"], ["martxoa", "mar"], ["apirila", "api"],
    ["maiatza", "mai"], ["ekaina", "eka"], ["uztaila", "uzt"], ["abuztua", "abu"],
    ["iraila", "ira"], ["urria", "urr"], ["azaroa", "aza"], ["abendua", "abe"]]

def galician : Language where
  code := "gl"
  order := .dmy
  months := [["xaneiro", "xan"], ["febreiro", "feb"], ["marzo", "mar"], ["abril", "abr"], ["maio"],
    ["xuño", "xuñ"], ["xullo", "xul"], ["agosto", "ago"], ["setembro", "set"], ["outubro", "out"],
    ["novembro", "nov"], ["decembro", "dec"]]
  filler := ["de"]

def welsh : Language where
  code := "cy"
  order := .dmy
  months := [["ionawr", "ion"], ["chwefror", "chwef"], ["mawrth", "maw"], ["ebrill", "ebr"],
    ["mai"], ["mehefin", "meh"], ["gorffennaf", "gorff"], ["awst"], ["medi"], ["hydref", "hyd"],
    ["tachwedd", "tach"], ["rhagfyr", "rhag"]]

def irish : Language where
  code := "ga"
  order := .dmy
  months := [["eanáir", "ean"], ["feabhra", "feabh"], ["márta", "márta"], ["aibreán", "aib"],
    ["bealtaine", "beal"], ["meitheamh", "meith"], ["iúil"], ["lúnasa", "lún"],
    ["meán fómhair", "meán fómh"], ["deireadh fómhair", "deireadh fómh"], ["samhain", "samh"],
    ["nollaig", "noll"]]

end Kata.Calendar
