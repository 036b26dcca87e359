import NestedData.Unicode.Marks
/-!
Characters that came with the latest version of the standard. Names and shown text take them for
what they are; the sets that patterns speak of are those of the version before.
-/

namespace NestedData.Unicode

def recent : CodeRanges := .ofHex
  "88F C5C CDC 1ACF-1ADD 1AE0-1AEB 20C1 2B96 A7CE-A7CF A7D2 A7D4 A7F1 FBC3-FBD2 FD90-FD91
  FDC8-FDCE 10940-10959 10EC5-10EC7 10ED0-10ED8 10EFA-10EFB 11B60-11B67 11DB0-11DDB 11DE0-11DE9
  16EA0-16EB8 16EBB-16ED3 16FF2-16FF6 187F8-187FF 18D09-18D1E 18D80-18DF2 1CCFA-1CCFC
  1CEBA-1CED0 1CEE0-1CEF0 1E6C0-1E6DE 1E6E0-1E6F5 1E6FE-1E6FF 1F6D8 1F777-1F77A 1F8D0-1F8D8
  1FA54-1FA57 1FA8A 1FA8E 1FAC8 1FACD 1FAEA 1FAEF 1FBFA 2B73A-2B73F 2CEA2-2CEAD 323B0-33479"

def recentLetters : CodeRanges := .ofHex
  "88F C5C CDC A7CE-A7CF A7D2 A7D4 A7F1 10940-10959 10EC5-10EC7 10EFA-10EFB 11B60-11B67
  11DB0-11DDB 16EA0-16EB8 16EBB-16ED3 16FF2-16FF6 187F8-187FF 18D09-18D1E 18D80-18DF2
  1E6C0-1E6DE 1E6E0-1E6F5 1E6FE-1E6FF 2B73A-2B73F 2CEA2-2CEAD 323B0-33479"

def recentNumbers : CodeRanges := .ofHex "11DE0-11DE9 16FF4-16FF6"

def recentExtenders : CodeRanges := .ofHex
  "1ACF-1ADD 1AE0-1AEB 10EFA-10EFB 11B60 11B62-11B64 11B66 1E6E3 1E6E6 1E6EE-1E6EF 1E6F5"

def letterTable : CodeTable := .ofRanges (letters.union recentLetters)

def numberTable : CodeTable := .ofRanges (numbers.union recentNumbers)

def extenderTable : CodeTable := .ofRanges (graphemeExtenders.union recentExtenders)

def unprintableTable : CodeTable :=
  .ofRanges ((Category.rangesOf (Category.separators ++ Category.others)).diff
    (recent.union (.single 0x20)))

def isLetter (n : Nat) : Bool := letterTable.holds n

def isNumber (n : Nat) : Bool := numberTable.holds n

def isExtender (n : Nat) : Bool := extenderTable.holds n

def isUnprintable (n : Nat) : Bool := unprintableTable.holds n

end NestedData.Unicode
