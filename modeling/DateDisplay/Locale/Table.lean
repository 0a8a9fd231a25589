import DateDisplay.Locale.Renderer
import DateDisplay.Locale.Tag

/-!
# Known locales

How sixty locales write a short date, and what they call months and weekdays.
`LocaleTable.provider` finds them by any spelling of their tag.

The table is a selection.  Besides locales of common languages it has some whose layouts, names
or tags are out of the ordinary.  A tag that is a spelling of none of them is unsupported here,
even if there is a locale of that name.
-/

namespace DateDisplay

/-- What is known about a locale: the layout of its short dates in the notation of
`DateLayout.ofFormat`, and the names of its months.  Other names are given where
the layout shows them. -/
structure LocaleData where
  tag : String
  format : String
  months : List String
  shortMonths : List String := []
  weekdays : List String := []
  shortWeekdays : List String := []

namespace LocaleData

/-- The names of months and weekdays. -/
def names (locale : LocaleData) : CalendarNames where
  months := locale.months.map String.toList
  shortMonths := locale.shortMonths.map String.toList
  weekdays := locale.weekdays.map String.toList
  shortWeekdays := locale.shortWeekdays.map String.toList

/-- The layout of short dates. -/
def layout (locale : LocaleData) : DateLayout :=
  .ofFormat locale.format.toList

/-- The renderer of a locale. -/
def renderer (locale : LocaleData) : Renderer :=
  .ofLayout locale.tag.toList locale.names locale.layout

end LocaleData

namespace LocaleTable

/-- The German names of the months. -/
def germanMonths : List String :=
  ["Januar", "Februar", "März", "April", "Mai", "Juni", "Juli", "August", "September",
   "Oktober", "November", "Dezember"]

/-- The French names of the months. -/
def frenchMonths : List String :=
  ["janvier", "février", "mars", "avril", "mai", "juin", "juillet", "août", "septembre",
   "octobre", "novembre", "décembre"]

/-- The Spanish names of the months. -/
def spanishMonths : List String :=
  ["enero", "febrero", "marzo", "abril", "mayo", "junio", "julio", "agosto", "septiembre",
   "octubre", "noviembre", "diciembre"]

/-- The Chinese names of the months. -/
def chineseMonths : List String :=
  ["一月", "二月", "三月", "四月", "五月", "六月", "七月", "八月", "九月", "十月", "十一月", "十二月"]

/-- The Catalan names of the months. -/
def catalanMonths : List String :=
  ["de gener", "de febrer", "de març", "d’abril", "de maig", "de juny", "de juliol",
   "d’agost", "de setembre", "d’octubre", "de novembre", "de desembre"]

/-- The locales of the selection. -/
def locales : List LocaleData := [
  { tag := "POSIX", format := "%m/%d/%y", months := CalendarNames.englishMonths },
  { tag := "en_US", format := "%m/%d/%Y", months := CalendarNames.englishMonths },
  { tag := "en_GB", format := "%d/%m/%y", months := CalendarNames.englishMonths },
  { tag := "en_CA", format := "%Y-%m-%d", months := CalendarNames.englishMonths },
  { tag := "en_HK", format := "%A, %B %d, %Y", months := CalendarNames.englishMonths,
    weekdays :=
      ["Sunday", "Monday", "Tuesday", "Wednesday", "Thursday", "Friday", "Saturday"] },
  { tag := "en_PH", format := "%A, %d %B, %Y", months := CalendarNames.englishMonths,
    weekdays :=
      ["Sunday", "Monday", "Tuesday", "Wednesday", "Thursday", "Friday", "Saturday"] },
  { tag := "en_ZA", format := "%d/%m/%Y", months := CalendarNames.englishMonths },
  { tag := "de_DE", format := "%d.%m.%Y",
    months := germanMonths },
  { tag := "de_AT", format := "%Y-%m-%d",
    months :=
      ["Jänner", "Februar", "März", "April", "Mai", "Juni", "Juli", "August", "September",
       "Oktober", "November", "Dezember"] },
  { tag := "de_CH", format := "%d.%m.%Y",
    months := germanMonths },
  { tag := "de_DE@euro", format := "%d.%m.%Y",
    months := germanMonths },
  { tag := "fr_FR", format := "%d/%m/%Y",
    months := frenchMonths },
  { tag := "fr_CA", format := "%Y-%m-%d",
    months := frenchMonths },
  { tag := "fr_CH", format := "%d. %m. %y",
    months := frenchMonths },
  { tag := "fr_FR@euro", format := "%d/%m/%Y",
    months := frenchMonths },
  { tag := "es_ES", format := "%d/%m/%y",
    months := spanishMonths },
  { tag := "es_MX", format := "%d/%m/%y",
    months := spanishMonths },
  { tag := "it_IT", format := "%d/%m/%Y",
    months :=
      ["gennaio", "febbraio", "marzo", "aprile", "maggio", "giugno", "luglio", "agosto",
       "settembre", "ottobre", "novembre", "dicembre"] },
  { tag := "pt_BR", format := "%d/%m/%Y",
    months :=
      ["janeiro", "fevereiro", "março", "abril", "maio", "junho", "julho", "agosto",
       "setembro", "outubro", "novembro", "dezembro"] },
  { tag := "nl_NL", format := "%d-%m-%y",
    months :=
      ["januari", "februari", "maart", "april", "mei", "juni", "juli", "augustus",
       "september", "oktober", "november", "december"] },
  { tag := "da_DK", format := "%d-%m-%Y",
    months :=
      ["januar", "februar", "marts", "april", "maj", "juni", "juli", "august",
       "september", "oktober", "november", "december"] },
  { tag := "sv_SE", format := "%Y-%m-%d",
    months :=
      ["januari", "februari", "mars", "april", "maj", "juni", "juli", "augusti",
       "september", "oktober", "november", "december"] },
  { tag := "fi_FI", format := "%d.%m.%Y",
    months :=
      ["tammikuu", "helmikuu", "maaliskuu", "huhtikuu", "toukokuu", "kesäkuu", "heinäkuu",
       "elokuu", "syyskuu", "lokakuu", "marraskuu", "joulukuu"] },
  { tag := "nb_NO", format := "%d. %b %Y",
    months :=
      ["januar", "februar", "mars", "april", "mai", "juni", "juli", "august", "september",
       "oktober", "november", "desember"],
    shortMonths :=
      ["jan.", "feb.", "mars", "april", "mai", "juni", "juli", "aug.", "sep.", "okt.",
       "nov.", "des."] },
  { tag := "is_IS", format := "%a %e.%b %Y",
    months :=
      ["janúar", "febrúar", "mars", "apríl", "maí", "júní", "júlí", "ágúst", "september",
       "október", "nóvember", "desember"],
    shortMonths :=
      ["jan", "feb", "mar", "apr", "maí", "jún", "júl", "ágú", "sep", "okt", "nóv", "des"],
    shortWeekdays :=
      ["sun", "mán", "þri", "mið", "fim", "fös", "lau"] },
  { tag := "fo_FO", format := "%d/%m-%Y",
    months :=
      ["januar", "februar", "mars", "apríl", "mai", "juni", "juli", "august", "september",
       "oktober", "november", "desember"] },
  { tag := "pl_PL", format := "%d.%m.%Y",
    months :=
      ["stycznia", "lutego", "marca", "kwietnia", "maja", "czerwca", "lipca", "sierpnia",
       "września", "października", "listopada", "grudnia"] },
  { tag := "cs_CZ", format := "%-d.%-m.%Y",
    months :=
      ["ledna", "února", "března", "dubna", "května", "června", "července", "srpna",
       "září", "října", "listopadu", "prosince"] },
  { tag := "sk_SK", format := "%d.%m.%Y",
    months :=
      ["január", "február", "marec", "apríl", "máj", "jún", "júl", "august", "september",
       "október", "november", "december"] },
  { tag := "sl_SI", format := "%d. %m. %Y",
    months :=
      ["januar", "februar", "marec", "april", "maj", "junij", "julij", "avgust",
       "september", "oktober", "november", "december"] },
  { tag := "hu_HU", format := "%Y-%m-%d",
    months :=
      ["január", "február", "március", "április", "május", "június", "július",
       "augusztus", "szeptember", "október", "november", "december"] },
  { tag := "ru_RU", format := "%d.%m.%Y",
    months :=
      ["января", "февраля", "марта", "апреля", "мая", "июня", "июля", "августа",
       "сентября", "октября", "ноября", "декабря"] },
  { tag := "uk_UA", format := "%d.%m.%y",
    months :=
      ["січня", "лютого", "березня", "квітня", "травня", "червня", "липня", "серпня",
       "вересня", "жовтня", "листопада", "грудня"] },
  { tag := "bg_BG", format := "%e.%m.%Y",
    months :=
      ["януари", "февруари", "март", "април", "май", "юни", "юли", "август", "септември",
       "октомври", "ноември", "декември"] },
  { tag := "sr_RS", format := "%d.%m.%Y.",
    months :=
      ["јануар", "фебруар", "март", "април", "мај", "јун", "јул", "август", "септембар",
       "октобар", "новембар", "децембар"] },
  { tag := "sr_RS@latin", format := "%d.%m.%Y.",
    months :=
      ["januar", "februar", "mart", "april", "maj", "jun", "jul", "avgust", "septembar",
       "oktobar", "novembar", "decembar"] },
  { tag := "lv_LV", format := "%Y.%m.%d.",
    months :=
      ["janvāris", "februāris", "marts", "aprīlis", "maijs", "jūnijs", "jūlijs",
       "augusts", "septembris", "oktobris", "novembris", "decembris"] },
  { tag := "lt_LT", format := "%Y-%m-%d",
    months :=
      ["sausio", "vasario", "kovo", "balandžio", "gegužės", "birželio", "liepos",
       "rugpjūčio", "rugsėjo", "spalio", "lapkričio", "gruodžio"] },
  { tag := "el_GR", format := "%d/%m/%Y",
    months :=
      ["Ιανουαρίου", "Φεβρουαρίου", "Μαρτίου", "Απριλίου", "Μαΐου", "Ιουνίου", "Ιουλίου",
       "Αυγούστου", "Σεπτεμβρίου", "Οκτωβρίου", "Νοεμβρίου", "Δεκεμβρίου"] },
  { tag := "tr_TR", format := "%d-%m-%Y",
    months :=
      ["Ocak", "Şubat", "Mart", "Nisan", "Mayıs", "Haziran", "Temmuz", "Ağustos", "Eylül",
       "Ekim", "Kasım", "Aralık"] },
  { tag := "vi_VN", format := "%d/%m/%Y",
    months :=
      ["Tháng 1", "Tháng 2", "Tháng 3", "Tháng 4", "Tháng 5", "Tháng 6", "Tháng 7",
       "Tháng 8", "Tháng 9", "Tháng 10", "Tháng 11", "Tháng 12"] },
  { tag := "ja_JP", format := "%Y年%m月%d日",
    months :=
      ["1月", "2月", "3月", "4月", "5月", "6月", "7月", "8月", "9月", "10月", "11月", "12月"] },
  { tag := "ko_KR", format := "%Y년 %m월 %d일",
    months :=
      ["1월", "2월", "3월", "4월", "5월", "6월", "7월", "8월", "9월", "10월", "11월", "12월"] },
  { tag := "zh_CN", format := "%Y年%m月%d日",
    months := chineseMonths },
  { tag := "zh_TW", format := "西元%Y年%m月%d日",
    months := chineseMonths },
  { tag := "zh_HK", format := "%Y年%m月%d日 %A",
    months := chineseMonths,
    weekdays :=
      ["星期日", "星期一", "星期二", "星期三", "星期四", "星期五", "星期六"] },
  { tag := "cmn_TW", format := "%Y年%m月%d號",
    months := chineseMonths },
  { tag := "ne_NP", format := "%y/%-m/%-d",
    months :=
      ["जनवरी", "फेब्रुअरी", "मार्च", "अप्रिल", "मे", "जुन", "जुलाई", "अगस्ट",
       "सेप्टेम्बर", "अक्टोबर", "नोभेम्बर", "डिसेम्बर"] },
  { tag := "hi_IN", format := "%-d/%-m/%y",
    months :=
      ["जनवरी", "फ़रवरी", "मार्च", "अप्रैल", "मई", "जून", "जुलाई", "अगस्त", "सितंबर",
       "अक्तूबर", "नवंबर", "दिसंबर"] },
  { tag := "brx_IN", format := "%-m/%-d/%y",
    months :=
      ["जानुवारी", "फेब्रुवारी", "मार्स", "एफ्रिल", "मे", "जुन", "जुलाइ", "आगस्थ",
       "सेबथेज्ब़र", "अखथबर", "नबेज्ब़र", "दिसेज्ब़र"] },
  { tag := "as_IN", format := "%e-%m-%Y",
    months :=
      ["জানুৱাৰী", "ফেব্ৰুৱাৰী", "মাৰ্চ", "এপ্ৰিল", "মে", "জুন", "জুলাই", "আগষ্ট",
       "ছেপ্তেম্বৰ", "অক্টোবৰ", "নৱেম্বৰ", "ডিচেম্বৰ"] },
  { tag := "ce_RU", format := "%Y.%d.%m",
    months :=
      ["Январь", "Февраль", "Март", "Апрель", "Май", "Июнь", "Июль", "Август", "Сентябрь",
       "Октябрь", "Ноябрь", "Декабрь"] },
  { tag := "eo", format := "%Y-%m-%d",
    months :=
      ["Januaro", "Februaro", "Marto", "Aprilo", "Majo", "Junio", "Julio", "Aŭgusto",
       "Septembro", "Oktobro", "Novembro", "Decembro"] },
  { tag := "ca_ES", format := "%-d/%-m/%y",
    months := catalanMonths },
  { tag := "ca_ES@valencia", format := "%-d/%-m/%y",
    months := catalanMonths },
  { tag := "nan_TW@latin", format := "%F",
    months :=
      ["1goe̍h", "2goe̍h", "3goe̍h", "4goe̍h", "5goe̍h", "6goe̍h", "7goe̍h", "8goe̍h",
       "9goe̍h", "10goe̍h", "11goe̍h", "12goe̍h"] },
  { tag := "kl_GL", format := "%b %d %Y",
    months :=
      ["januaarip", "februaarip", "marsip", "apriilip", "maajip", "juunip", "juulip",
       "aggustip", "septembarip", "oktobarip", "novembarip", "decembarip"],
    shortMonths :=
      ["jan", "feb", "mar", "apr", "maj", "jun", "jul", "aug", "sep", "okt", "nov", "dec"] },
  { tag := "ug_CN", format := "%a، %d-%m-%Y",
    months :=
      ["يانۋار", "فېۋرال", "مارت", "ئاپرېل", "ماي", "ئىيۇن", "ئىيۇل", "ئاۋغۇست",
       "سېنتەبىر", "ئۆكتەبىر", "نويابىر", "دېكابىر"],
    shortWeekdays :=
      ["ي", "د", "س", "چ", "پ", "ج", "ش"] },
  { tag := "eu_ES", format := "%a, %Y.eko %bren %da",
    months :=
      ["urtarrila", "otsaila", "martxoa", "apirila", "maiatza", "ekaina", "uztaila",
       "abuztua", "iraila", "urria", "azaroa", "abendua"],
    shortMonths :=
      ["urt", "ots", "mar", "api", "mai", "eka", "uzt", "abu", "ira", "urr", "aza", "abe"],
    shortWeekdays :=
      ["ig.", "al.", "ar.", "az.", "og.", "or.", "lr."] },
  { tag := "ar_SA", format := "%A %e %B %Y",
    months :=
      ["يناير", "فبراير", "مارس", "أبريل", "مايو", "يونيو", "يوليو", "أغسطس", "سبتمبر",
       "أكتوبر", "نوفمبر", "ديسمبر"],
    weekdays :=
      ["الأحد", "الإثنين", "الثلاثاء", "الأربعاء", "الخميس", "الجمعـة", "السبت"] }]

/-- The locale with exactly this tag. -/
def find? (tag : Text) : Option LocaleData :=
  locales.find? fun locale => locale.tag.toList == tag

/-- The locale that goes by one of the spellings of a tag, the first one that is
known deciding. -/
def provider : RendererProvider := fun tag =>
  match (LocaleTag.candidates tag).findSome? find? with
  | some locale => .ok locale.renderer
  | none => .error (.unsupported tag)

end LocaleTable

end DateDisplay
