import NestedData.Unicode.Casing
import NestedData.Unicode.Emoji
import NestedData.Unicode.Ideograph
import NestedData.Unicode.Invisible
import NestedData.Unicode.Punctuation
import NestedData.Unicode.Script
/-!
Kinds of characters by which a text is parted into characters as they are seen, into words and into
sentences. Of each division a character has one kind; the kinds of those that have no part in it are
left out.
-/

namespace NestedData.Unicode

def scriptRanges (names : List String) : CodeRanges :=
  .unions ((scripts.filter fun s => s.names.any names.contains).map (·.ranges))

/-! Characters as they are seen. -/

namespace Grapheme

def joiner : CodeRanges := .single 0x200D
def carriageReturn : CodeRanges := .single 0x0D
def lineFeed : CodeRanges := .single 0x0A

def extend : CodeRanges := graphemeExtenders.union emojiModifiers

def prepend : CodeRanges :=
  prependedMarks.union
    (.ofHex "D4E 111C2-111C3 113D1 1193F 11941 11A3A 11A84-11A89 11D46 11F02")

def control : CodeRanges :=
  (CodeRanges.unions [Category.rangesOf [.lineSeparator, .paragraphSeparator, .control, .format],
    ignorables.inter Category.unassigneds]).diff
    (.unions [carriageReturn, lineFeed, joiner, extend, prepend])

def apartMarks : CodeRanges := .ofHex
  "102B-102C 1038 1062-1064 1067-106D 1083 1087-108C 108F 109A-109C 1A61 1A63-1A64 AA7B AA7D
  11720-11721"

def spacingMark : CodeRanges :=
  (Category.spacingMarks.union (.ofHex "E33 EB3")).diff (extend.union apartMarks)

def leading : CodeRanges := .ofHex "1100-115F A960-A97C"
def vowel : CodeRanges := .ofHex "1160-11A7 D7B0-D7C6 16D63 16D67-16D6A"
def trailing : CodeRanges := .ofHex "11A8-11FF D7CB-D7FB"
def leadingVowel : CodeRanges := .ofHex "AC00-D788/1C"
def leadingVowelTrailing : CodeRanges := (CodeRanges.ofHex "AC00-D7A3").diff leadingVowel

def kinds : List (List String × CodeRanges) :=
  [(["CR"], carriageReturn), (["LF"], lineFeed), (["Control", "CN"], control),
   (["Extend", "EX"], extend), (["ZWJ"], joiner), (["Prepend", "PP"], prepend),
   (["SpacingMark", "SM"], spacingMark), (["Regional_Indicator", "RI"], regionalIndicators),
   (["L"], leading), (["V"], vowel), (["T"], trailing), (["LV"], leadingVowel),
   (["LVT"], leadingVowelTrailing)]

end Grapheme

/-- Characters read as digits that are no decimal numbers: signs that stand before a number, and the
decimal separator of Arabic. -/
def furtherNumeric : CodeRanges := .ofHex "600-605 66B 6DD 890-891 8E2 19DA 110BD 110CD"

def attachedMarks : CodeRanges := graphemeExtenders.union Category.spacingMarks

/-! Words. -/

namespace Word

def numeric : CodeRanges := digits.union furtherNumeric

def extend : CodeRanges := attachedMarks.union emojiModifiers

def format : CodeRanges :=
  Category.formats.diff (.unions [.ofHex "200B-200D", prependedMarks, extend])

def katakana : CodeRanges :=
  ((scriptRanges ["Katakana"]).union (.ofHex "3031-3035 309B-309C 30A0 30FC FF70")).diff extend

def hebrewLetter : CodeRanges := (scriptRanges ["Hebrew"]).inter Category.otherLetters

def letterSigns : CodeRanges := .ofHex
  "B8 2C2-2C5 2D2-2D7 2DE-2DF 2E5-2EB 2ED 2EF-2FF 55A-55C 55E 58A 5F3 70F A708-A716 A720-A721
  A789-A78A AB5B"

def unspacedScripts : List String :=
  ["Thai", "Lao", "Myanmar", "Khmer", "Tai_Le", "New_Tai_Lue", "Tai_Tham", "Tai_Viet", "Ahom",
   "Hiragana"]

def letter : CodeRanges :=
  (letters.union letterSigns).diff
    (.unions [ideographs, katakana, scriptRanges unspacedScripts, extend, hebrewLetter])

def extendNumberLetter : CodeRanges := Category.connectorPunctuations.union (.single 0x202F)

def space : CodeRanges := Category.spaceSeparators.diff (.ofHex "A0 2007 202F")

def kinds : List (List String × CodeRanges) :=
  [(["CR"], .single 0x0D), (["LF"], .single 0x0A),
   (["Newline", "NL"], .ofHex "B-C 85 2028-2029"), (["Extend"], extend),
   (["ZWJ"], .single 0x200D), (["Format", "FO"], format), (["Katakana", "KA"], katakana),
   (["Hebrew_Letter", "HL"], hebrewLetter), (["ALetter", "LE"], letter),
   (["Single_Quote", "SQ"], .single 0x27), (["Double_Quote", "DQ"], .single 0x22),
   (["MidLetter", "ML"], .ofHex "3A B7 387 55F 5F4 2027 FE13 FE55 FF1A"),
   (["MidNum", "MN"], .ofHex
      "2C 3B 37E 589 60C-60D 66C 7F8 2044 FE10 FE14 FE50 FE54 FF0C FF1B"),
   (["MidNumLet", "MB"], .ofHex "2E 2018-2019 2024 FE52 FF07 FF0E"),
   (["Numeric", "NU"], numeric), (["ExtendNumLet", "EX"], extendNumberLetter),
   (["Regional_Indicator", "RI"], regionalIndicators), (["WSegSpace"], space)]

end Word

/-- Characters beside which the case of letters does not matter: marks, formats, modifiers, and
punctuation that may stand within a word. -/
def caseIgnorable : CodeRanges :=
  .unions [Category.rangesOf
      [.nonspacingMark, .enclosingMark, .format, .modifierLetter, .modifierSymbol],
    .ofHex "27 2E 3A B7 387 55F 5F4 2018-2019 2024 2027 FE13 FE52 FE55 FF07 FF0E FF1A"]

/-! Sentences. -/

namespace Sentence

def numeric : CodeRanges := Word.numeric.union (.single 0x66C)

def extend : CodeRanges := attachedMarks.union (.single 0x200D)

def format : CodeRanges := Category.formats.diff (extend.union numeric)

def breaks : CodeRanges := .ofHex "A D 85 2028-2029"

def georgianLower : CodeRanges := .ofHex "10D0-10FA 10FD-10FF"
def georgianUpper : CodeRanges := .ofHex "1C90-1CBA 1CBD-1CBF"

def lower : CodeRanges := lowercase.diff (graphemeExtenders.union georgianLower)

def upper : CodeRanges := (uppercase.union Category.titlecaseLetters).diff georgianUpper

def otherLetter : CodeRanges :=
  (letters.union (.single 0x5F3)).diff (.unions [lower, upper, extend])

def fullStop : CodeRanges := .ofHex "2E 2024 FE52 FF0E"

def close : CodeRanges :=
  .unions [Category.rangesOf
      [.openPunctuation, .closePunctuation, .initialPunctuation, .finalPunctuation],
    .ofHex "22 27 275B-2760 2E00-2E01 2E06-2E08 2E0B 1F676-1F678"]

def kinds : List (List String × CodeRanges) :=
  [(["CR"], .single 0x0D), (["LF"], .single 0x0A), (["Sep", "SE"], .ofHex "85 2028-2029"),
   (["Extend", "EX"], extend), (["Format", "FO"], format), (["Sp"], blanks.diff breaks),
   (["Lower", "LO"], lower), (["Upper", "UP"], upper), (["OLetter", "LE"], otherLetter),
   (["Numeric", "NU"], numeric), (["ATerm", "AT"], fullStop),
   (["SContinue", "SC"], .ofHex
      "2C-2D 3A-3B 37E 55D 60C-60D 7F8 1802 1808 2013-2014 3001 FE10-FE11 FE13-FE14 FE31-FE32
      FE50-FE51 FE54-FE55 FE58 FE63 FF0C-FF0D FF1A-FF1B FF64"),
   (["STerm", "ST"], sentenceEnds.diff fullStop), (["Close", "CL"], close)]

end Sentence
end NestedData.Unicode
