import NestedData.Unicode.Classes
import NestedData.Unicode.Punctuation
/-!
Identifiers: the characters that may begin one and those that may follow. The closed kinds leave out
characters whose compatibility forms are no identifiers.
-/

namespace NestedData.Unicode

def furtherIdentifierStarts : CodeRanges := .ofHex "1885-1886 2118 212E 309B-309C"

def furtherIdentifierParts : CodeRanges := .ofHex "B7 387 1369-1371 19DA 200C-200D 30FB FF65"

def patternCharacters : CodeRanges := patternSigns.union patternBlanks

def identifierStarts : CodeRanges :=
  (CodeRanges.unions [Category.rangesOf (.letterNumber :: Category.letters),
    furtherIdentifierStarts]).diff patternCharacters

def identifierParts : CodeRanges :=
  (CodeRanges.unions [identifierStarts, Category.rangesOf
    [.nonspacingMark, .spacingMark, .decimalNumber, .connectorPunctuation],
    furtherIdentifierParts]).diff patternCharacters

def openIdentifierStarts : CodeRanges := .ofHex
  "37A E33 EB3 309B-309C FC5E-FC63 FDFA-FDFB FE70-FE7E/2 FF9E-FF9F"

def openIdentifierParts : CodeRanges := .ofHex "37A 309B-309C FC5E-FC63 FDFA-FDFB FE70-FE7E/2"

def closedIdentifierStarts : CodeRanges := identifierStarts.diff openIdentifierStarts

def closedIdentifierParts : CodeRanges := identifierParts.diff openIdentifierParts

end NestedData.Unicode
