import Kata.Calendar.Languages.Europe
import Kata.Calendar.Languages.Slavic
import Kata.Calendar.Languages.Asia
import Kata.Calendar.Languages.Africa

/-! The languages a written date is tried in, in order. -/

namespace Kata.Calendar

/-- The languages in the order they are tried. -/
def languages : List Language := [english, russian, spanish, turkish, persian, french, german,
  japanese, portuguese, vietnamese, chinese, arabic, italian, polish, indonesian, greek, dutch,
  korean, thai, hebrew, ukrainian, czech, swedish, romanian, hungarian, danish, serbian,
  serbianLatin, bengali, finnish, slovak, bulgarian, norwegian, croatian, lithuanian, malay,
  slovenian, hindi, latvian, estonian, catalan, azerbaijani, albanian, macedonian, armenian, kazakh,
  icelandic, georgian, belarusian, uzbek, urdu, tamil, bosnian, filipino, basque, galician,
  afrikaans, swahili, welsh, irish, nepali, marathi]

def lexicons : List (Language × Lexicon) := languages.map fun l => (l, l.lexicon)

end Kata.Calendar
