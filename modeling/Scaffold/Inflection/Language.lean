import Scaffold.Inflection.RuleSet

/-!
The rule sets of the supported languages and the names they go by.
-/
namespace Scaffold.Inflection

/-- A rule for words that end as `patterns` say; the match gives way to `parts`. -/
private def ending (patterns : List Pattern) (parts : List Part) : Rule :=
  ⟨.sequence (patterns ++ [.finish]), parts⟩

/-- A rule that puts one ending in the place of another. -/
private def swap (old new : String) : Rule :=
  ending [.spelled old] [.text new]

/-- A rule that keeps one of several stems and changes the ending after it. -/
private def stem (stems : List String) (old new : String) : Rule :=
  ending [.keep (.anyOf stems), .spelled old] [.kept, .text new]

/-- A rule for whole words made of one of several stems and an ending. -/
private def whole (stems : List String) (old new : String) : Rule :=
  ending [.start, .keep (.anyOf stems), .spelled old] [.kept, .text new]

private def vowels : List Char :=
  "aeiou".toList

def english : RuleSet where
  language := "english"
  plural := [
    stem ["quiz"] "" "zes",
    whole ["ox"] "" "en",
    ending [.keep (.oneOf ['m', 'l']), .spelled "ouse"] [.kept, .text "ice"],
    ending [.keep (.anyOf ["matr", "vert", "ind"]), .anyOf ["ix", "ex"]] [.kept, .text "ices"],
    stem ["x", "ch", "ss", "sh"] "" "es",
    ending [.keep (.either (.noneOf ('y' :: vowels)) (.spelled "qu")), .spelled "y"]
      [.kept, .text "ies"],
    stem ["kni", "wi", "li"] "fe" "ves",
    stem ["wol", "hal", "shel", "cal", "sel", "el", "scar", "loa", "thie", "hoo"] "f" "ves",
    swap "sis" "ses",
    stem ["buffal", "tomat", "potat", "her", "ech"] "o" "oes",
    stem ["bu", "campu", "statu", "alia", "viru", "censu"] "s" "ses",
    stem ["octop"] "us" "i",
    ending [.keep (.both (.noneOf vowels) (.spelled "us"))] [.kept, .text "es"],
    whole ["ax", "test"] "is" "es",
    swap "s" "s",
    swap "" "s"]
  singular := [
    stem ["quiz"] "zes" "",
    stem ["matr"] "ices" "ix",
    stem ["vert", "ind"] "ices" "ex",
    whole ["ox"] "en" "",
    ending [.keep (.anyOf ["alias", "status", "bus", "campus", "virus", "census"]),
      .upTo 1 (.spelled "es")] [.kept],
    ending [.keep (.both (.noneOf vowels) (.spelled "us")), .spelled "es"] [.kept],
    stem ["octop"] "i" "us",
    whole ["ax", "test"] "es" "is",
    stem ["cris"] "es" "is",
    ending [.keep (.anyOf ["analy", "diagno", "parenthe", "progno", "synop", "the"]),
      .anyOf ["sis", "ses"]] [.kept, .text "sis"],
    stem ["shoe"] "s" "",
    stem ["buffal", "tomat", "potat", "her", "ech"] "oes" "o",
    stem ["x", "ch", "ss", "sh"] "es" "",
    ending [.keep (.oneOf ['m', 'l']), .spelled "ice"] [.kept, .text "ouse"],
    ending [.keep (.either (.noneOf ('y' :: vowels)) (.spelled "qu")), .spelled "ies"]
      [.kept, .text "y"],
    ending [.notAfter 'o', .keep (.anyOf ["kni", "wi", "li"]), .spelled "ves"]
      [.kept, .text "fe"],
    stem ["wol", "hal", "shel", "cal", "sel", "el", "scar", "loa", "thie", "hoo"] "ves" "f",
    stem ["ss"] "" "",
    swap "s" ""]
  irregular := [
    ("person", "people"), ("man", "men"), ("woman", "women"), ("child", "children"),
    ("goose", "geese"), ("tooth", "teeth"), ("foot", "feet"), ("criterion", "criteria"),
    ("cookie", "cookies"), ("movie", "movies"), ("zombie", "zombies"), ("cache", "caches"),
    ("leaf", "leaves")]
  uninflected := [
    "audio", "data", "deer", "equipment", "feedback", "fish", "hardware", "information", "media",
    "metadata", "money", "news", "police", "rice", "series", "sheep", "software", "species",
    "staff", "traffic"]

private def frontVowels : List Char :=
  "eöiü".toList

private def backVowels : List Char :=
  "aoıu".toList

/-- A rule for words whose last vowel is one of `harmony`, with at most six letters after it. -/
private def harmonic (harmony : List Char) (suffix : String) : Rule :=
  ending [.keep (.both (.oneOf harmony) (.upTo 6 (.noneOf (backVowels ++ frontVowels))))]
    [.kept, .text suffix]

def turkish : RuleSet where
  language := "turkish"
  plural := [harmonic frontVowels "ler", harmonic backVowels "lar"]
  singular := [ending [.spelled "l", .oneOf ['a', 'e'], .spelled "r"] []]
  irregular := [("ben", "biz"), ("sen", "siz"), ("o", "onlar")]

/-- A rule that drops the accent of the last vowel before a plural ending. -/
private def unaccent (accented plain : String) : Rule :=
  ending [.spelled accented, .keep (.oneOf ['s', 'n'])] [.text plain, .kept, .text "es"]

def spanish : RuleSet where
  language := "spanish"
  plural := [
    unaccent "ú" "u",
    unaccent "ó" "o",
    unaccent "í" "i",
    unaccent "é" "e",
    unaccent "á" "a",
    swap "z" "ces",
    ending [.keep (.both (.oneOf vowels) (.spelled "s"))] [.kept],
    ending [.keep (.noneOf "aeéiou".toList)] [.kept, .text "es"],
    swap "" "s"]
  singular := [
    swap "ereses" "erés",
    swap "iones" "ión",
    swap "ces" "z",
    swap "es" "",
    swap "s" ""]
  irregular := [
    ("el", "los"), ("papá", "papás"), ("mamá", "mamás"), ("sofá", "sofás"), ("mes", "meses")]
  uninflected := [
    "lunes", "martes", "miércoles", "jueves", "viernes", "cumpleaños", "virus", "atlas", "sida"]

private def ailStems : List String :=
  ["b", "cor", "ém", "gemm", "soupir", "trav", "vant", "vitr"]

def french : RuleSet where
  language := "french"
  plural := [
    stem ["s", "x", "z"] "" "",
    stem ailStems "ail" "aux",
    swap "ail" "ails",
    stem ["bal", "carnaval", "chacal", "festival", "récital", "régal"] "" "s",
    swap "al" "aux",
    stem ["bleu", "émeu", "landau", "pneu", "sarrau"] "" "s",
    stem ["bijou", "caillou", "chou", "genou", "hibou", "joujou", "pou", "eau", "eu"] "" "x",
    swap "" "s"]
  singular := [
    swap "eaux" "eau",
    stem ailStems "aux" "ail",
    swap "aux" "al",
    stem ["bijou", "caillou", "chou", "genou", "hibou", "joujou", "pou", "eu"] "x" "",
    swap "s" ""]
  irregular := [
    ("monsieur", "messieurs"), ("madame", "mesdames"), ("mademoiselle", "mesdemoiselles"),
    ("œil", "yeux"), ("ciel", "cieux")]

private def esStems : List String :=
  ["japon", "escoc", "ingl", "dinamarqu", "fregu", "portugu"]

def portuguese : RuleSet where
  language := "portuguese"
  plural := [
    whole esStems "ês" "eses",
    whole ["alem", "c", "p"] "ão" "ães",
    swap "ão" "ões",
    stem ["r", "z"] "" "es",
    swap "al" "ais",
    swap "el" "éis",
    swap "ol" "óis",
    swap "ul" "uis",
    ending [.keep (.noneOf "aeou".toList), .spelled "il"] [.kept, .text "is"],
    swap "m" "ns",
    swap "s" "s",
    swap "" "s"]
  singular := [
    whole esStems "eses" "ês",
    whole ["alem", "c", "p"] "ães" "ão",
    swap "ões" "ão",
    stem ["r", "z"] "es" "",
    swap "ais" "al",
    swap "éis" "el",
    swap "óis" "ol",
    swap "uis" "ul",
    ending [.keep (.noneOf "aeou".toList), .spelled "is"] [.kept, .text "il"],
    swap "ns" "m",
    swap "s" ""]
  irregular := [
    ("país", "países"), ("mão", "mãos"), ("irmão", "irmãos"), ("cidadão", "cidadãos")]
  uninflected := ["tórax", "tênis", "ônibus", "lápis", "fênix"]

def norwegian : RuleSet where
  language := "norwegian-bokmal"
  plural := [swap "e" "er", swap "" "er"]
  singular := [swap "er" ""]
  irregular := [("konto", "konti")]
  uninflected := ["barn", "fjell", "hus"]

/-- The names of the supported languages in order, each with its rule set. -/
def languages : List (String × RuleSet) := [
  ("en", english), ("english", english), ("es", spanish), ("fr", french), ("french", french),
  ("nb", norwegian), ("no", norwegian), ("norwegian-bokmal", norwegian),
  ("portuguese", portuguese), ("pt", portuguese), ("spanish", spanish), ("tr", turkish),
  ("turkish", turkish)]

/-- The language of a request that names none. -/
def defaultLanguage : String :=
  "english"

/-- How a language name is looked up: stripped, lower-cased, and with hyphens for underscores. -/
def languageKey (language : String) : String :=
  String.ofList ((Text.lower (Text.strip language)).toList.map fun c => if c == '_' then '-' else c)

/-- The rule set of a language. No name and the empty name stand for the default language. -/
def rulesFor? (language : Option String) : Option RuleSet :=
  match language with
  | none => some english
  | some name => if name.isEmpty then some english else languages.lookup (languageKey name)

/-- What is said about a language that has no rule set. -/
def unsupportedLanguage (language : String) : String :=
  "Unsupported language '" ++ language ++ "'. Supported: " ++
    Text.join ", " (languages.map (·.1)) ++ "."

end Scaffold.Inflection
