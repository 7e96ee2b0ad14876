import Subgen.Value

/-!
# The languages that a subtitle can have

`LanguageCode`, an enumeration whose members are compared by their code of ISO 639-1, and the names that
`LanguageCode.from_string` takes for one of them, in capital letters too. What `str.lower` makes of a text
goes by the tables of Unicode and is a parameter, `lower`.

The table is that of the source, row by row: the codes of ISO 639-1, 639-2/T and 639-2/B, and the English
and the native name. A name is stripped and put in lower case before it is compared, and so is each field
of a row; the first row with such a field is the language.
-/

namespace Subgen

/-- `LanguageCode`, a row of the table. -/
structure LanguageCode where
  iso6391 : Option Text
  iso6392T : Option Text
  iso6392B : Option Text
  nameEn : Option Text
  nameNative : Option Text

namespace LanguageCode

/-- No language. -/
protected def none : LanguageCode := ⟨.none, .none, .none, .none, .none⟩

/-- A row of the table with all its fields. -/
def language (iso6391 iso6392T iso6392B nameEn nameNative : String) : LanguageCode :=
  ⟨text iso6391, text iso6392T, text iso6392B, text nameEn, text nameNative⟩

/-- The members of the enumeration but `NONE`, in their order. -/
def languages : List LanguageCode :=
  [language "aa" "aar" "aar" "Afar" "Afar",
   language "af" "afr" "afr" "Afrikaans" "Afrikaans",
   language "am" "amh" "amh" "Amharic" "አማርኛ",
   language "ar" "ara" "ara" "Arabic" "العربية",
   language "as" "asm" "asm" "Assamese" "অসমীয়া",
   language "az" "aze" "aze" "Azerbaijani" "Azərbaycanca",
   language "ba" "bak" "bak" "Bashkir" "Башҡортса",
   language "be" "bel" "bel" "Belarusian" "Беларуская",
   language "bg" "bul" "bul" "Bulgarian" "Български",
   language "bn" "ben" "ben" "Bengali" "বাংলা",
   language "bo" "bod" "tib" "Tibetan" "བོད་ཡིག",
   language "br" "bre" "bre" "Breton" "Brezhoneg",
   language "bs" "bos" "bos" "Bosnian" "Bosanski",
   language "ca" "cat" "cat" "Catalan" "Català",
   language "cs" "ces" "cze" "Czech" "Čeština",
   language "cy" "cym" "wel" "Welsh" "Cymraeg",
   language "da" "dan" "dan" "Danish" "Dansk",
   language "de" "deu" "ger" "German" "Deutsch",
   language "el" "ell" "gre" "Greek" "Ελληνικά",
   language "en" "eng" "eng" "English" "English",
   language "es" "spa" "spa" "Spanish" "Español",
   language "et" "est" "est" "Estonian" "Eesti",
   language "eu" "eus" "baq" "Basque" "Euskara",
   language "fa" "fas" "per" "Persian" "فارسی",
   language "fi" "fin" "fin" "Finnish" "Suomi",
   language "fo" "fao" "fao" "Faroese" "Føroyskt",
   language "fr" "fra" "fre" "French" "Français",
   language "gl" "glg" "glg" "Galician" "Galego",
   language "gu" "guj" "guj" "Gujarati" "ગુજરાતી",
   language "ha" "hau" "hau" "Hausa" "Hausa",
   language "haw" "haw" "haw" "Hawaiian" "ʻŌlelo Hawaiʻi",
   language "he" "heb" "heb" "Hebrew" "עברית",
   language "hi" "hin" "hin" "Hindi" "हिन्दी",
   language "hr" "hrv" "hrv" "Croatian" "Hrvatski",
   language "ht" "hat" "hat" "Haitian Creole" "Kreyòl Ayisyen",
   language "hu" "hun" "hun" "Hungarian" "Magyar",
   language "hy" "hye" "arm" "Armenian" "Հայերեն",
   language "id" "ind" "ind" "Indonesian" "Bahasa Indonesia",
   language "is" "isl" "ice" "Icelandic" "Íslenska",
   language "it" "ita" "ita" "Italian" "Italiano",
   language "ja" "jpn" "jpn" "Japanese" "日本語",
   language "jw" "jav" "jav" "Javanese" "ꦧꦱꦗꦮ",
   language "ka" "kat" "geo" "Georgian" "ქართული",
   language "kk" "kaz" "kaz" "Kazakh" "Қазақша",
   language "km" "khm" "khm" "Khmer" "ភាសាខ្មែរ",
   language "kn" "kan" "kan" "Kannada" "ಕನ್ನಡ",
   language "ko" "kor" "kor" "Korean" "한국어",
   language "la" "lat" "lat" "Latin" "Latina",
   language "lb" "ltz" "ltz" "Luxembourgish" "Lëtzebuergesch",
   language "ln" "lin" "lin" "Lingala" "Lingála",
   language "lo" "lao" "lao" "Lao" "ພາສາລາວ",
   language "lt" "lit" "lit" "Lithuanian" "Lietuvių",
   language "lv" "lav" "lav" "Latvian" "Latviešu",
   language "mg" "mlg" "mlg" "Malagasy" "Malagasy",
   language "mi" "mri" "mao" "Maori" "Te Reo Māori",
   language "mk" "mkd" "mac" "Macedonian" "Македонски",
   language "ml" "mal" "mal" "Malayalam" "മലയാളം",
   language "mn" "mon" "mon" "Mongolian" "Монгол",
   language "mr" "mar" "mar" "Marathi" "मराठी",
   language "ms" "msa" "may" "Malay" "Bahasa Melayu",
   language "mt" "mlt" "mlt" "Maltese" "Malti",
   language "my" "mya" "bur" "Burmese" "မြန်မာစာ",
   language "ne" "nep" "nep" "Nepali" "नेपाली",
   language "nl" "nld" "dut" "Dutch" "Nederlands",
   language "nn" "nno" "nno" "Norwegian Nynorsk" "Nynorsk",
   language "no" "nor" "nor" "Norwegian" "Norsk",
   language "oc" "oci" "oci" "Occitan" "Occitan",
   language "pa" "pan" "pan" "Punjabi" "ਪੰਜਾਬੀ",
   language "pl" "pol" "pol" "Polish" "Polski",
   language "ps" "pus" "pus" "Pashto" "پښتو",
   language "pt" "por" "por" "Portuguese" "Português",
   language "ro" "ron" "rum" "Romanian" "Română",
   language "ru" "rus" "rus" "Russian" "Русский",
   language "sa" "san" "san" "Sanskrit" "संस्कृतम्",
   language "sd" "snd" "snd" "Sindhi" "سنڌي",
   language "si" "sin" "sin" "Sinhala" "සිංහල",
   language "sk" "slk" "slo" "Slovak" "Slovenčina",
   language "sl" "slv" "slv" "Slovene" "Slovenščina",
   language "sn" "sna" "sna" "Shona" "ChiShona",
   language "so" "som" "som" "Somali" "Soomaaliga",
   language "sq" "sqi" "alb" "Albanian" "Shqip",
   language "sr" "srp" "srp" "Serbian" "Српски",
   language "su" "sun" "sun" "Sundanese" "Basa Sunda",
   language "sv" "swe" "swe" "Swedish" "Svenska",
   language "sw" "swa" "swa" "Swahili" "Kiswahili",
   language "ta" "tam" "tam" "Tamil" "தமிழ்",
   language "te" "tel" "tel" "Telugu" "తెలుగు",
   language "tg" "tgk" "tgk" "Tajik" "Тоҷикӣ",
   language "th" "tha" "tha" "Thai" "ไทย",
   language "tk" "tuk" "tuk" "Turkmen" "Türkmençe",
   language "tl" "tgl" "tgl" "Tagalog" "Tagalog",
   language "tr" "tur" "tur" "Turkish" "Türkçe",
   language "tt" "tat" "tat" "Tatar" "Татарча",
   language "uk" "ukr" "ukr" "Ukrainian" "Українська",
   language "ur" "urd" "urd" "Urdu" "اردو",
   language "uz" "uzb" "uzb" "Uzbek" "Oʻzbek",
   language "vi" "vie" "vie" "Vietnamese" "Tiếng Việt",
   language "yi" "yid" "yid" "Yiddish" "ייִדיש",
   language "yo" "yor" "yor" "Yoruba" "Yorùbá",
   language "zh" "zho" "chi" "Chinese" "中文",
   language "yue" "yue" "yue" "Cantonese" "粵語"]

/-- `LanguageCode.__eq__`. -/
def eq (a b : LanguageCode) : Bool := a.iso6391 = b.iso6391

/-- `LanguageCode.from_string`. -/
def fromString (lower : Text → Text) (value : Text) : LanguageCode :=
  let value := some (lower (stripText value))
  (languages.find? fun lang =>
    value = lang.iso6391 ∨ value = lang.iso6392T ∨ value = lang.iso6392B ∨
      value = lang.nameEn.map lower ∨ value = lang.nameNative.map lower).getD .none

end LanguageCode

end Subgen
