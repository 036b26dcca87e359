import NestedData.Unicode.Age
import NestedData.Unicode.Boundaries
import NestedData.Unicode.Identifier
/-!
Sets of characters by the names of their properties. Names are compared without case, blanks,
hyphens and underscores, and so are characters outside of ASCII and a leading "is". A property is
named alone, by a general category or by a script, or with its value.
-/

namespace NestedData.Unicode

/-- A name without all that does not count in it. What is left of a name with a leading "is" may be
the abbreviation of another property; then the name is kept whole. -/
def plainName (name : List Char) : List Char :=
  let plain (cs : List Char) := (cs.filter fun c =>
    c.toNat < 0x80 && c != ' ' && c != '_' && c != '-').map Char.toLower
  match name with
  | i :: s :: rest =>
    if i.toLower = 'i' && s.toLower = 's' then
      if plain rest = ['c'] then ['i', 's', 'c'] else plain rest
    else plain name
  | _ => plain name

def stands (plain : List Char) (name : String) : Bool := plain == plainName name.toList

def namedIn? (plain : List Char) (table : List (List String × CodeRanges)) : Option CodeRanges :=
  (table.find? fun e => e.1.any (stands plain)).map (·.2)

def binaryProperties : List (List String × CodeRanges) :=
  [(["ASCII_Hex_Digit", "AHex"], asciiHexDigits), (["Alphabetic", "Alpha"], letters),
   (["Bidi_Control", "Bidi_C"], bidiControls), (["Case_Ignorable", "CI"], caseIgnorable),
   (["Cased"], cased), (["Changes_When_Casefolded", "CWCF"], changedByFolding),
   (["Changes_When_Casemapped", "CWCM"], changedByCasing),
   (["Changes_When_Lowercased", "CWL"], changedByLowercasing),
   (["Changes_When_Titlecased", "CWT"], changedByTitlecasing),
   (["Changes_When_Uppercased", "CWU"], changedByUppercasing), (["Dash"], dashes),
   (["Default_Ignorable_Code_Point", "DI"], ignorables), (["Deprecated", "Dep"], deprecated),
   (["Diacritic", "Dia"], diacritics), (["Emoji"], emoji),
   (["Emoji_Component", "EComp"], emojiComponents), (["Emoji_Modifier", "EMod"], emojiModifiers),
   (["Emoji_Modifier_Base", "EBase"], emojiModifierBases),
   (["Emoji_Presentation", "EPres"], emojiPresentations),
   (["Extended_Pictographic", "ExtPict"], pictographs), (["Extender", "Ext"], extenders),
   (["Grapheme_Base", "Gr_Base"], graphemeBases),
   (["Grapheme_Extend", "Gr_Ext"], graphemeExtenders),
   (["Grapheme_Link", "Gr_Link"], graphemeLinks), (["Hex_Digit", "Hex"], hexDigits),
   (["Hyphen"], hyphens), (["IDS_Binary_Operator", "IDSB"], binaryDescriptions),
   (["IDS_Trinary_Operator", "IDST"], trinaryDescriptions),
   (["IDS_Unary_Operator", "IDSU"], unaryDescriptions),
   (["ID_Compat_Math_Continue"], mathContinue), (["ID_Compat_Math_Start"], mathStart),
   (["ID_Continue", "IDC"], identifierParts), (["ID_Start", "IDS"], identifierStarts),
   (["Ideographic", "Ideo"], ideographs), (["Join_Control", "Join_C"], joinControls),
   (["Logical_Order_Exception", "LOE"], logicalOrderExceptions),
   (["Lowercase", "Lower"], lowercase), (["Math"], math),
   (["Modifier_Combining_Mark", "MCM"], modifierMarks),
   (["Noncharacter_Code_Point", "NChar"], noncharacters),
   (["Other_Alphabetic", "OAlpha"], furtherLetters),
   (["Other_Default_Ignorable_Code_Point", "ODI"], furtherIgnorables),
   (["Other_Grapheme_Extend", "OGr_Ext"], furtherExtenders),
   (["Other_ID_Continue", "OIDC"], furtherIdentifierParts),
   (["Other_ID_Start", "OIDS"], furtherIdentifierStarts),
   (["Other_Lowercase", "OLower"], furtherLowercase), (["Other_Math", "OMath"], furtherMath),
   (["Other_Uppercase", "OUpper"], furtherUppercase),
   (["Pattern_Syntax", "Pat_Syn"], patternSigns),
   (["Pattern_White_Space", "Pat_WS"], patternBlanks),
   (["Prepended_Concatenation_Mark", "PCM"], prependedMarks),
   (["Quotation_Mark", "QMark"], quotationMarks), (["Radical"], radicals),
   (["Regional_Indicator", "RI"], regionalIndicators),
   (["Sentence_Terminal", "STerm"], sentenceEnds), (["Soft_Dotted", "SD"], softDotted),
   (["Terminal_Punctuation", "Term"], terminals),
   (["Unified_Ideograph", "UIdeo"], unifiedIdeographs), (["Uppercase", "Upper"], uppercase),
   (["Variation_Selector", "VS"], variationSelectors),
   (["White_Space", "WSpace", "space"], blanks),
   (["XID_Continue", "XIDC"], closedIdentifierParts),
   (["XID_Start", "XIDS"], closedIdentifierStarts)]

def categoryNames : List (List String × List Category) :=
  [(["Uppercase_Letter", "Lu"], [.uppercaseLetter]),
   (["Lowercase_Letter", "Ll"], [.lowercaseLetter]),
   (["Titlecase_Letter", "Lt"], [.titlecaseLetter]),
   (["Cased_Letter", "LC"], Category.casedLetters),
   (["Modifier_Letter", "Lm"], [.modifierLetter]), (["Other_Letter", "Lo"], [.otherLetter]),
   (["Letter", "L"], Category.letters), (["Nonspacing_Mark", "Mn"], [.nonspacingMark]),
   (["Spacing_Mark", "Mc"], [.spacingMark]), (["Enclosing_Mark", "Me"], [.enclosingMark]),
   (["Mark", "M", "Combining_Mark"], Category.marks),
   (["Decimal_Number", "Nd", "digit"], [.decimalNumber]),
   (["Letter_Number", "Nl"], [.letterNumber]), (["Other_Number", "No"], [.otherNumber]),
   (["Number", "N"], Category.numbers),
   (["Connector_Punctuation", "Pc"], [.connectorPunctuation]),
   (["Dash_Punctuation", "Pd"], [.dashPunctuation]),
   (["Open_Punctuation", "Ps"], [.openPunctuation]),
   (["Close_Punctuation", "Pe"], [.closePunctuation]),
   (["Initial_Punctuation", "Pi"], [.initialPunctuation]),
   (["Final_Punctuation", "Pf"], [.finalPunctuation]),
   (["Other_Punctuation", "Po"], [.otherPunctuation]),
   (["Punctuation", "P", "punct"], Category.punctuation), (["Math_Symbol", "Sm"], [.mathSymbol]),
   (["Currency_Symbol", "Sc"], [.currencySymbol]), (["Modifier_Symbol", "Sk"], [.modifierSymbol]),
   (["Other_Symbol", "So"], [.otherSymbol]), (["Symbol", "S"], Category.symbols),
   (["Space_Separator", "Zs"], [.spaceSeparator]), (["Line_Separator", "Zl"], [.lineSeparator]),
   (["Paragraph_Separator", "Zp"], [.paragraphSeparator]),
   (["Separator", "Z"], Category.separators), (["Control", "Cc", "cntrl"], [.control]),
   (["Format", "Cf"], [.format]), (["Private_Use", "Co"], [.privateUse]),
   (["Unassigned", "Cn"], [.unassigned]), (["Other", "C"], Category.others)]

def categoryNamed? (plain : List Char) : Option CodeRanges :=
  if stands plain "Any" then some .full
  else if stands plain "Assigned" then some (CodeRanges.compl Category.unassigneds)
  else if stands plain "ASCII" then some [(0, 0x7F)]
  else (categoryNames.find? fun e => e.1.any (stands plain)).map fun e => Category.rangesOf e.2

def scriptNamed? (plain : List Char) : Option Script := Script.named? (stands plain)

/-- The set that a property stands for by its name alone. Three names of categories are those of
other properties as well, and are taken for the categories. -/
def propertyNamed? (name : List Char) : Option CodeRanges :=
  let plain := plainName name
  let category := (categoryNamed? plain).or ((scriptNamed? plain).map (·.ranges))
  if ["cf", "sc", "lc"].any (stands plain) then category
  else (namedIn? plain binaryProperties).or category

def versionNamed? (plain : List Char) : Option CodeRanges :=
  charactersOf? fun version =>
    plain == version.toList || plain == 'v' :: version.toList.filter (· != '.')

def valueNamed? (property value : List Char) : Option CodeRanges :=
  let plain := plainName value
  let asked (names : List String) := names.any (stands (plainName property))
  if asked ["General_Category", "gc"] then categoryNamed? plain
  else if asked ["Script", "sc"] then (scriptNamed? plain).map (·.ranges)
  else if asked ["Script_Extensions", "scx"] then (scriptNamed? plain).map (·.extendedRanges)
  else if asked ["Age"] then versionNamed? plain
  else if asked ["Grapheme_Cluster_Break", "GCB"] then namedIn? plain Grapheme.kinds
  else if asked ["Word_Break", "WB"] then namedIn? plain Word.kinds
  else if asked ["Sentence_Break", "SB"] then namedIn? plain Sentence.kinds
  else none

end NestedData.Unicode
