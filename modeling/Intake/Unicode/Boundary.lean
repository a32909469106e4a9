import Intake.Unicode.Derived
import Intake.Unicode.Script

set_option autoImplicit false

/-!
# Classes of characters at boundaries

Where a text may be cut between two characters, words or sentences depends on a class of each
character. There is one classification for each of the three.

## Main definitions

* `graphemeClass?`, `wordClass?`, `sentenceClass?` — the characters of a class, by its name.
-/

namespace Intake

namespace CharProperty

/-! ### Boundaries between what a reader takes for one character -/

/-- Consonants written before the syllable that they belong to. -/
def prependedConsonant : CharSet := .ofHex [
  "D4E 111C2-111C3 113D1 1193F 11941 11A3A 11A84-11A89 11D46 11F02"]

/-- Characters that do not stand apart from the one behind them. -/
def prepended : CharSet := prependedConcatenationMark.union prependedConsonant

/-- Spacing marks that stand apart from the character before them. -/
def separateMark : CharSet := .ofHex [
  "102B-102C 1038 1062-1064 1067-106D 1083 1087-108C 108F 109A-109C 1A61 1A63-1A64 AA7B AA7D",
  "11720-11721"]

/-- Characters that extend the one before them, among them the modifiers of emoji. -/
def extending : CharSet := graphemeExtend.union emojiModifier

/-- The joiner of emoji. -/
def joiner : CharSet := .ofPoints [0x200D]

/-- Controls. -/
def control : CharSet :=
  (CharSet.unions [category ["Zl", "Zp", "Cc", "Cf"], defaultIgnorable.diff assigned]).diff
    (.unions [.ofPoints [10, 13], joiner, prependedConcatenationMark, extending])

/-- Spacing marks that do not stand apart from the character before them. -/
def spacingMark : CharSet :=
  (CharSet.union (category ["Mc"]) (.ofPoints [0xE33, 0xEB3])).diff (extending.union separateMark)

/-- Hangul syllables. -/
def hangulSyllable : CharSet := .range 0xAC00 0xD7A3

/-- Hangul syllables without a final consonant: of the 28 syllables with the same front, the
first. -/
def openSyllable : CharSet := .ofPoints ((List.range 399).map fun i => 0xAC00 + 28 * i)

/-- The characters of a class at boundaries between characters, by its name in small letters. -/
def graphemeClass? : String → Option CharSet
  | "cn" | "control" => some control
  | "cr" => some (.ofPoints [13])
  | "ex" | "extend" => some extending
  | "l" => some (.ofHex ["1100-115F A960-A97C"])
  | "lf" => some (.ofPoints [10])
  | "lv" => some openSyllable
  | "lvt" => some (hangulSyllable.diff openSyllable)
  | "pp" | "prepend" => some prepended
  | "ri" | "regionalindicator" => some regionalIndicator
  | "sm" | "spacingmark" => some spacingMark
  | "t" => some (.ofHex ["11A8-11FF D7CB-D7FB"])
  | "v" => some (.ofHex ["1160-11A7 16D63 16D67-16D6A D7B0-D7C6"])
  | "zwj" => some joiner
  | _ => none

/-! ### Boundaries between words -/

/-- Signs that numbers begin with. -/
def numberSign : CharSet := .ofHex ["600-605 6DD 890-891 8E2 110BD 110CD"]

/-- Letters of Hebrew. -/
def hebrewLetter : CharSet := (charsOfScript "Hebr").inter (category ["Lo"])

/-- Characters of Katakana and signs used with it. -/
def katakana : CharSet :=
  (charsOfScript "Kana").union (.ofHex ["3031-3035 309B-309C 30A0 30FC FF70"])

/-- Signs and modifiers that count as letters within words. -/
def letterSign : CharSet := .ofHex [
  "2C2-2C5 2D2-2D7 2DE-2DF 2E5-2EB 2ED 2EF-2FF 55A-55C 55E 58A 5F3 70F A708-A716 A720-A721",
  "A789-A78A AB5B"]

/-- Letters of scripts that do not mark where words end. -/
def unspacedLetter : CharSet := .ofHex [
  "E01-E30 E32-E33 E40-E46 E81-E82 E84 E86-E8A E8C-EA3 EA5 EA7-EB0 EB2-EB3 EBD EC0-EC4 EC6 EDC-EDF",
  "1000-102A 103F 1050-1055 105A-105D 1061 1065-1066 106E-1070 1075-1081 108E 1780-17B3 17D7 17DC",
  "1950-196D 1970-1974 1980-19AB 19B0-19C9 1A20-1A54 1AA7 A9E0-A9E4 A9E6-A9EF A9FA-A9FE AA60-AA76",
  "AA7A AA7E-AAAF AAB1 AAB5-AAB6 AAB9-AABD AAC0 AAC2 AADB-AADD 11700-1171A 11740-11746"]

/-- Characters that extend the one before them within a word. -/
def wordExtending : CharSet := (extending.union (category ["Mc"])).diff joiner

/-- Letters of words other than Hebrew and Katakana. -/
def wordLetter : CharSet :=
  (alphabetic.union letterSign).diff
    (.unions [ideographic, katakana, unspacedLetter, charsOfScript "Hira", wordExtending,
      hebrewLetter])

/-- Format characters within words. -/
def wordFormat : CharSet :=
  (category ["Cf"]).diff (.unions [prepended, .range 0x200B 0x200D, wordExtending])

/-- The characters of a class at boundaries between words, by its name in small letters. -/
def wordClass? : String → Option CharSet
  | "cr" => some (.ofPoints [13])
  | "dq" | "doublequote" => some (.ofPoints [0x22])
  | "ex" | "extendnumlet" => some (.union (category ["Pc"]) (.ofPoints [0x202F]))
  | "extend" => some wordExtending
  | "fo" | "format" => some wordFormat
  | "hl" | "hebrewletter" => some hebrewLetter
  | "ka" | "katakana" => some katakana
  | "le" | "aletter" => some wordLetter
  | "lf" => some (.ofPoints [10])
  | "mb" | "midnumlet" => some (.ofHex ["2E 2018-2019 2024 FE52 FF07 FF0E"])
  | "ml" | "midletter" => some (.ofHex ["3A B7 387 55F 5F4 2027 FE13 FE55 FF1A"])
  | "mn" | "midnum" =>
    some (.ofHex ["2C 3B 37E 589 60C-60D 66C 7F8 2044 FE10 FE14 FE50 FE54 FF0C FF1B"])
  | "nl" | "newline" => some (.ofHex ["B-C 85 2028-2029"])
  | "nu" | "numeric" => some (.unions [digit, .ofPoints [0x66B], numberSign])
  | "ri" | "regionalindicator" => some regionalIndicator
  | "sq" | "singlequote" => some (.ofPoints [0x27])
  | "wsegspace" => some (.ofHex ["20 1680 2000-2006 2008-200A 205F 3000"])
  | "zwj" => some joiner
  | _ => none

/-! ### Boundaries between sentences -/

/-- Signs that may end a sentence or an abbreviation. -/
def fullStop : CharSet := .ofHex ["2E 2024 FE52 FF0E"]

/-- Ends of paragraphs. -/
def paragraphEnd : CharSet := .ofHex ["85 2028-2029"]

/-- Characters that extend the one before them within a sentence. -/
def sentenceExtending : CharSet := .unions [graphemeExtend, category ["Mc"], joiner]

/-- Lower-case letters within sentences. The ordinary letters of Georgian do not count. -/
def sentenceLower : CharSet :=
  lowercase.diff (.union graphemeExtend (.ofHex ["10D0-10FA 10FD-10FF"]))

/-- Upper-case letters within sentences. The capitals of Georgian do not count. -/
def sentenceUpper : CharSet :=
  (CharSet.union uppercase (category ["Lt"])).diff (.ofHex ["1C90-1CBA 1CBD-1CBF"])

/-- Quotation marks and brackets around sentences. -/
def sentenceClose : CharSet :=
  .union (category ["Ps", "Pe", "Pi", "Pf"])
    (.ofHex ["22 27 275B-2760 2E00-2E01 2E06-2E08 2E0B 1F676-1F678"])

/-- The characters of a class at boundaries between sentences, by its name in small letters. -/
def sentenceClass? : String → Option CharSet
  | "at" | "aterm" => some fullStop
  | "cl" | "close" => some sentenceClose
  | "cr" => some (.ofPoints [13])
  | "ex" | "extend" => some sentenceExtending
  | "fo" | "format" => some ((category ["Cf"]).diff (sentenceExtending.union numberSign))
  | "le" | "oletter" =>
    some ((CharSet.union alphabetic (.ofPoints [0x5F3])).diff
      (.unions [sentenceLower, sentenceUpper, sentenceExtending]))
  | "lf" => some (.ofPoints [10])
  | "lo" | "lower" => some sentenceLower
  | "nu" | "numeric" => some (.unions [digit, .ofHex ["66B-66C"], numberSign])
  | "sc" | "scontinue" =>
    some (.ofHex [
      "2C-2D 3A-3B 37E 55D 60C-60D 7F8 1802 1808 2013-2014 3001 FE10-FE11 FE13-FE14 FE31-FE32",
      "FE50-FE51 FE54-FE55 FE58 FE63 FF0C-FF0D FF1A-FF1B FF64"])
  | "se" | "sep" => some paragraphEnd
  | "sp" => some (blank.diff (.union paragraphEnd (.ofPoints [10, 13])))
  | "st" | "sterm" => some (sentenceTerminal.diff fullStop)
  | "up" | "upper" => some sentenceUpper
  | _ => none

end CharProperty

end Intake
