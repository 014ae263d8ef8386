import SuiteBench.Pattern.Property
import SuiteBench.Text.Age

/-!
# Pattern.Segment — the classes by which text is cut

Text is cut into what readers take for characters, into words and into sentences.  Each of the three
divides the characters into classes; a character that no class names belongs to none of them.  Further,
the characters that a version of the standard knows.
-/

namespace SuiteBench.CharSet

/-- The classes of one division, by their names. -/
abbrev Division := List (String × (Unit → CharSet))

/-! ### Characters as readers see them -/

/-- Leading consonants of syllable blocks. -/
def leadingJamo : CharSet := ofTable "1100-115F A960-A97C"

/-- Syllable blocks without a final consonant. -/
def openSyllable : CharSet :=
  table [⟨0xAC00, 0xD788, 28⟩]

/-- Format characters that show or count as text. -/
def shownFormat : CharSet := property "Prepended_Concatenation_Mark"

/-- Characters that never stand alone. -/
def extending : CharSet := .union graphemeExtend (property "Emoji_Modifier")

/-- The marks that take up space but are not part of the letter in front of them. -/
def looseMarks : CharSet :=
  ofTable "102B-102C 1038 1062-1064 1067-106D 1083 1087-108C 108F 109A-109C 1A61 1A63-1A64 AA7B
    AA7D 11720-11721"

/-- The division into what readers take for characters. -/
def clusterClasses : Division := [
  ("CR", fun _ => .one '\r'),
  ("LF", fun _ => .one '\n'),
  ("Control CN", fun _ =>
    (CharSet.union (categories ["Zl", "Zp", "Cc", "Cf"])
      (defaultIgnorable.without assigned)).without
      (unions [ofText "\r\n\u200C\u200D", shownFormat, extending])),
  ("Extend EX", fun _ => extending),
  ("ZWJ", fun _ => .one '\u200D'),
  ("Regional_Indicator RI", fun _ => property "Regional_Indicator"),
  ("Prepend PP", fun _ =>
    .union shownFormat (ofTable "D4E 111C2-111C3 113D1 1193F 11941 11A3A 11A84-11A89 11D46 11F02")),
  ("SpacingMark SM", fun _ =>
    (CharSet.union (category "Mc") (ofTable "E33 EB3")).without (.union extending looseMarks)),
  ("L", fun _ => leadingJamo),
  ("V", fun _ => ofTable "1160-11A7 D7B0-D7C6 16D63 16D67-16D6A"),
  ("T", fun _ => ofTable "11A8-11FF D7CB-D7FB"),
  ("LV", fun _ => openSyllable),
  ("LVT", fun _ => (CharSet.range '\uAC00' '\uD7A3').without openSyllable)]

/-! ### Words -/

/-- The characters of a script. -/
def script (name : String) : CharSet := (ofScript? (looseName name)).getD none

/-- The marks that belong to the word in front of them. -/
def wordExtending : CharSet :=
  (unions [extending, category "Mc"]).without (.one '\u200D')

/-- The letters of scripts that write no spaces between words. -/
def unspacedLetters : CharSet :=
  ofTable "E01-E30 E32-E33 E40-E46 E81-E82 E84 E86-E8A E8C-EA3 EA5 EA7-EB0 EB2-EB3 EBD EC0-EC4 EC6
    EDC-EDF 1000-102A 103F 1050-1055 105A-105D 1061 1065-1066 106E-1070 1075-1081 108E 1780-17B3
    17D7 17DC 1950-196D 1970-1974 1980-19AB 19B0-19C9 1A20-1A54 1AA7 A9E0-A9E4 A9E6-A9EF A9FA-A9FE
    AA60-AA76 AA7A AA7E-AAAF AAB1 AAB5-AAB6 AAB9-AABD AAC0 AAC2 AADB-AADD 11700-1171A 11740-11746"

/-- Signs that stand in words like letters. -/
def letterSigns : CharSet :=
  ofTable "B8 2C2-2C5 2D2-2D7 2DE-2DF 2E5-2EB 2ED 2EF-2FF 55A-55C 55E 58A 5F3 70F A708-A716
    A720-A721 A789-A78A AB5B"

/-- Angular syllabic letters and their signs. -/
def katakana : CharSet :=
  (CharSet.union (script "Katakana") (ofTable "3031-3035 309B-309C 30A0 30FC FF70")).without
    wordExtending

/-- Letters of the script in which quotes may stand within words. -/
def hebrewLetters : CharSet := .inter (script "Hebrew") (category "Lo")

/-- Format characters that count as digits. -/
def numberSigns : CharSet := shownFormat.without (.one '\u070F')

/-- Letters, as far as words are cut at spaces. -/
def wordLetters : CharSet :=
  (CharSet.union alphabetic letterSigns).without
    (unions [property "Ideographic", katakana, unspacedLetters, script "Hiragana", wordExtending,
      hebrewLetters])

/-- The division into words. -/
def wordClasses : Division := [
  ("CR", fun _ => .one '\r'),
  ("LF", fun _ => .one '\n'),
  ("Newline NL", fun _ => ofTable "B-C 85 2028-2029"),
  ("Extend", fun _ => wordExtending),
  ("ZWJ", fun _ => .one '\u200D'),
  ("Regional_Indicator RI", fun _ => property "Regional_Indicator"),
  ("Format FO", fun _ =>
    (category "Cf").without
      (unions [ofText "\u200B\u200C\u200D", shownFormat, wordExtending])),
  ("Katakana KA", fun _ => katakana),
  ("Hebrew_Letter HL", fun _ => hebrewLetters),
  ("ALetter LE", fun _ => wordLetters),
  ("Single_Quote SQ", fun _ => .one '\''),
  ("Double_Quote DQ", fun _ => .one '"'),
  ("MidNumLet MB", fun _ => ofTable "2E 2018-2019 2024 FE52 FF07 FF0E"),
  ("MidLetter ML", fun _ => ofTable "3A B7 387 55F 5F4 2027 FE13 FE55 FF1A"),
  ("MidNum MN", fun _ =>
    ofTable "2C 3B 37E 589 60C-60D 66C 7F8 2044 FE10 FE14 FE50 FE54 FF0C FF1B"),
  ("Numeric NU", fun _ => unions [category "Nd", .one '\u066B', numberSigns]),
  ("ExtendNumLet EX", fun _ => .union (category "Pc") (.one '\u202F')),
  ("WSegSpace", fun _ => ofTable "20 1680 2000-2006 2008-200A 205F 3000")]

/-! ### Sentences -/

/-- Marks and joiners that belong to the sentence in front of them. -/
def sentenceExtending : CharSet := unions [graphemeExtend, category "Mc", .one '\u200D']

/-- Full stops that may also stand within a sentence. -/
def fullStops : CharSet := ofTable "2E 2024 FE52 FF0E"

/-- Signs that end a sentence. -/
def sentenceEnds : CharSet := (property "Sentence_Terminal").without fullStops

/-- Small letters at which no sentence starts. -/
def sentenceLower : CharSet :=
  lowercase.without (.union graphemeExtend (ofTable "10D0-10FA 10FD-10FF"))

/-- Capital letters at which a sentence may start. -/
def sentenceUpper : CharSet :=
  (CharSet.union (category "Lt") uppercase).without (ofTable "1C90-1CBA 1CBD-1CBF")

/-- The division into sentences. -/
def sentenceClasses : Division := [
  ("CR", fun _ => .one '\r'),
  ("LF", fun _ => .one '\n'),
  ("Sep SE", fun _ => ofTable "85 2028-2029"),
  ("Extend EX", fun _ => sentenceExtending),
  ("Format FO", fun _ =>
    (category "Cf").without (unions [sentenceExtending, ofText "\u200C", shownFormat])),
  ("Sp", fun _ => (property "White_Space").without (ofTable "A D 85 2028-2029")),
  ("Lower LO", fun _ => sentenceLower),
  ("Upper UP", fun _ => sentenceUpper),
  ("OLetter LE", fun _ =>
    (CharSet.union alphabetic (ofText "\u05F3\u070F")).without
      (unions [sentenceLower, sentenceUpper, sentenceExtending])),
  ("Numeric NU", fun _ => unions [category "Nd", ofText "\u066B\u066C", numberSigns]),
  ("ATerm AT", fun _ => fullStops),
  ("STerm ST", fun _ => sentenceEnds),
  ("SContinue SC", fun _ =>
    ofTable "2C-2D 3A-3B 37E 55D 60C-60D 7F8 1802 1808 2013-2014 3001 FE10-FE11 FE13-FE14 FE31-FE32
      FE50-FE51 FE54-FE55 FE58 FE63 FF0C-FF0D FF1A-FF1B FF64"),
  ("Close CL", fun _ =>
    (CharSet.union (categories ["Ps", "Pe", "Pi", "Pf"])
      (ofTable "22 27 275B-2760 2E00-2E01 2E06-2E08 2E0B 1F676-1F678")).without
      (unions [ofText "\u05F3", fullStops, sentenceEnds]))]

/-! ### Versions -/

/-- The characters that a version of the standard knows. -/
def ofAge? (name : List Char) : Option CharSet :=
  let newer := Text.ageTables.reverse.dropWhile fun e => !isNamed name e.1
  if newer.isEmpty then Option.none else some (unions (newer.map fun e => ofTable e.2))

/-! ### Values of properties -/

/-- The characters whose property has a value. -/
def ofValue? (name value : String) : Option CharSet :=
  let value := looseName value
  let classOf (d : Division) : Option CharSet := (named? d value).map fun s => s ()
  match String.ofList (looseName name) with
  | "gc" | "generalcategory" => ofCategory? value
  | "sc" | "script" => ofScript? value
  | "scx" | "scriptextensions" => usedWithScript? value
  | "age" => ofAge? value
  | "gcb" | "graphemeclusterbreak" => classOf clusterClasses
  | "wb" | "wordbreak" => classOf wordClasses
  | "sb" | "sentencebreak" => classOf sentenceClasses
  | _ => Option.none

end SuiteBench.CharSet
