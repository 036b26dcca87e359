import NestedData.Unicode.Marks
/-!
Code points that are not shown: ignorable ones, controls of the direction of writing, and numbers
that will never be characters; also the characters that should not be used.
-/

namespace NestedData.Unicode

def furtherIgnorables : CodeRanges := .ofHex
  "34F 115F-1160 17B4-17B5 2065 3164 FFA0 FFF0-FFF8 E0000 E0002-E001F E0080-E00FF E01F0-E0FFF"

def shownFormats : CodeRanges := .ofHex "FFF9-FFFB 13430-13440"

def ignorables : CodeRanges :=
  (CodeRanges.unions [furtherIgnorables, Category.formats, variationSelectors]).diff
    (.unions [blanks, shownFormats, prependedMarks])

def bidiControls : CodeRanges := .ofHex "61C 200E-200F 202A-202E 2066-2069"

def noncharacters : CodeRanges := .ofHex
  "FDD0-FDEF FFFE-FFFF 1FFFE-1FFFF 2FFFE-2FFFF 3FFFE-3FFFF 4FFFE-4FFFF 5FFFE-5FFFF 6FFFE-6FFFF
  7FFFE-7FFFF 8FFFE-8FFFF 9FFFE-9FFFF AFFFE-AFFFF BFFFE-BFFFF CFFFE-CFFFF DFFFE-DFFFF EFFFE-
  EFFFF FFFFE-FFFFF 10FFFE-10FFFF"

def deprecated : CodeRanges := .ofHex "149 673 F77 F79 17A3-17A4 206A-206F 2329-232A E0001"

end NestedData.Unicode
