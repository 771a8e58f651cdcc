import AccessRules.Text.Case
import AccessRules.Text.PropertyTable

/-!
# Properties of characters

The properties of the Unicode standard that a character has or has not. Those that the standard
derives from others are derived here in the same way.
-/

namespace AccessRules.Text

/-! ## Sets that several properties are made of -/

/-- The blanks. -/
def blanks : CharSet :=
  .ofRanges ((0x9, 0xD) :: (0x20, 0x20) :: wideBlanks.map fun code => (code, code))

/-- The characters that are listed as ignorable beyond format characters and variation selectors. -/
def otherIgnorableCodePoints : CharSet := .ofTable otherIgnorableCodePointTable

/-- The characters that choose between variants of the one before them. -/
def variationSelectors : CharSet := .ofTable "180B-180D 180F FE00-FE0F E0100-E01EF"

/-- The format characters that stand before the digits they belong to. -/
def prependedMarks : CharSet := .ofTable "600-605 6DD 70F 890-891 8E2 110BD 110CD"

/-- The characters that need not be shown where they are not supported. -/
def defaultIgnorable : CharSet :=
  (CharSet.unions [otherIgnorableCodePoints, minorSet 'C' 'f', variationSelectors]).difference
    (.unions [blanks, prependedMarks, .ofTable "FFF9-FFFB 13430-1343F"])

/-- The skin tones. -/
def emojiModifiers : CharSet := .ofTable "1F3FB-1F3FF"

/-- The letters that flags are spelled with. -/
def regionalIndicators : CharSet := .ofTable "1F1E6-1F1FF"

/-- The characters that extend a grapheme beyond nonspacing and enclosing marks. -/
def otherGraphemeExtend : CharSet := .ofTable otherGraphemeExtendTable

/-- The characters that extend the grapheme before them. -/
def graphemeExtend : CharSet :=
  .unions [minorSet 'M' 'e', minorSet 'M' 'n', otherGraphemeExtend]

/-- The characters that may begin a grapheme on their own. -/
def graphemeBase : CharSet :=
  CharSet.complement (.unions [majorSet 'C', minorSet 'Z' 'l', minorSet 'Z' 'p', graphemeExtend])

/-- The code points that will never be characters. -/
def noncharacters : CharSet :=
  .ofRanges ((0xFDD0, 0xFDEF) :: (List.range 17).map fun plane =>
    (plane * 0x10000 + 0xFFFE, plane * 0x10000 + 0xFFFF))

/-- The characters of mathematics that are no mathematical symbols. -/
def otherMath : CharSet := .ofTable otherMathTable

/-- The characters that end sentences. -/
def sentenceTerminals : CharSet := .ofTable sentenceTerminalTable

/-- The ideographs. -/
def ideographic : CharSet := .ofTable ideographicTable

/-- The characters reserved for the syntax of patterns. -/
def patternSyntax : CharSet := .ofTable patternSyntaxTable

/-- The characters reserved for blanks in patterns. -/
def patternBlanks : CharSet := .ofTable "9-D 20 85 200E-200F 2028-2029"

/-- The characters that begin identifiers although they are no letters. -/
def otherIdentifierStart : CharSet := .ofTable "1885-1886 2118 212E 309B-309C"

/-- The characters that go on with identifiers beyond those that follow from the category. -/
def otherIdentifierContinue : CharSet := .ofTable "B7 387 1369-1371 19DA 200C-200D 30FB FF65"

/-- The characters that patterns reserve. -/
def patternReserved : CharSet := patternSyntax.union patternBlanks

/-- The characters that begin identifiers. -/
def identifierStart : CharSet :=
  (CharSet.unions [majorSet 'L', minorSet 'N' 'l', otherIdentifierStart]).difference patternReserved

/-- The characters that go on with identifiers. -/
def identifierContinue : CharSet :=
  (CharSet.unions [identifierStart, minorSet 'M' 'n', minorSet 'M' 'c', decimalDigits,
    minorSet 'P' 'c', otherIdentifierContinue]).difference patternReserved

/-- The characters of mathematics that begin identifiers in a compatible profile. -/
def compatMathStart : CharSet :=
  .ofTable
    ("2202 2207 221E 1D6C1 1D6DB 1D6FB 1D715 1D735 1D74F 1D76F 1D789 1D7A9 1D7C3")

/-- The characters that change in a title: those with an uppercase, but for the ones that have a
title form of their own or none. -/
def titled : CharSet :=
  (raised.difference
      ((minorSet 'L' 't').union (.ofTable "10D0-10FA 10FD-10FF"))).union
    (.ofTable "1C4 1C7 1CA 1F1")

/-- The characters that change when case is folded: those with a lowercase, but for the capital
letters of Cherokee, and some small letters. -/
def folded : CharSet :=
  (lowered.difference (.ofTable "13A0-13F5")).union
    (.ofTable
      ("B5 DF 149 17F 345 3C2 3D0-3D1 3D5-3D6 3F0-3F1 3F5 587 13F8-13FD 1C80-1C88 1E9A-1E9B "
        ++ "1F80-1F87 1F90-1F97 1FA0-1FA7 1FB2-1FB4 1FB7 1FC2-1FC4 1FC7 1FF2-1FF4 1FF7 "
        ++ "AB70-ABBF FB00-FB06 FB13-FB17"))

/-! ## The properties -/

/-- A property that a character has or has not. -/
inductive Property where
  | asciiHexDigit
  | alphabetic
  | bidiControl
  | bidiMirrored
  | caseIgnorable
  | cased
  | changesWhenCasefolded
  | changesWhenCasemapped
  | changesWhenLowercased
  | changesWhenTitlecased
  | changesWhenUppercased
  | dash
  | defaultIgnorable
  | deprecated
  | diacritic
  | emoji
  | emojiComponent
  | emojiModifier
  | emojiModifierBase
  | emojiPresentation
  | extendedPictographic
  | extender
  | graphemeBase
  | graphemeExtend
  | graphemeLink
  | hexDigit
  | hyphen
  | idsBinaryOperator
  | idsTrinaryOperator
  | idsUnaryOperator
  | idCompatMathContinue
  | idCompatMathStart
  | idContinue
  | idStart
  | ideographic
  | joinControl
  | logicalOrderException
  | lowercase
  | math
  | modifierCombiningMark
  | noncharacter
  | otherAlphabetic
  | otherDefaultIgnorable
  | otherGraphemeExtend
  | otherIdContinue
  | otherIdStart
  | otherLowercase
  | otherMath
  | otherUppercase
  | patternSyntax
  | patternWhiteSpace
  | prependedConcatenationMark
  | quotationMark
  | radical
  | regionalIndicator
  | sentenceTerminal
  | softDotted
  | terminalPunctuation
  | unifiedIdeograph
  | uppercase
  | variationSelector
  | whiteSpace
  | xidContinue
  | xidStart
deriving DecidableEq, Repr

namespace Property

/-- The characters with a property. -/
def members : Property → CharSet
  | .asciiHexDigit => .ofTable "30-39 41-46 61-66"
  | .alphabetic => Text.alphabetic
  | .bidiControl => .ofTable "61C 200E-200F 202A-202E 2066-2069"
  | .bidiMirrored => .ofTable mirroredTable
  | .caseIgnorable => Text.caseIgnorable
  | .cased => Text.cased
  | .changesWhenCasefolded => folded
  | .changesWhenCasemapped => lowered.union raised
  | .changesWhenLowercased => lowered
  | .changesWhenTitlecased => titled
  | .changesWhenUppercased => raised
  | .dash => .ofTable dashTable
  | .defaultIgnorable => Text.defaultIgnorable
  | .deprecated => .ofTable "149 673 F77 F79 17A3-17A4 206A-206F 2329-232A E0001"
  | .diacritic => .ofTable diacriticTable
  | .emoji => .ofTable emojiTable
  | .emojiComponent => .ofTable
      "23 2A 30-39 200D 20E3 FE0F 1F1E6-1F1FF 1F3FB-1F3FF 1F9B0-1F9B3 E0020-E007F"
  | .emojiModifier => Text.emojiModifiers
  | .emojiModifierBase => .ofTable emojiBaseTable
  | .emojiPresentation => .ofTable emojiPresentationTable
  | .extendedPictographic => .ofTable pictographicTable
  | .extender => .ofTable extenderTable
  | .graphemeBase => Text.graphemeBase
  | .graphemeExtend => Text.graphemeExtend
  | .graphemeLink => .ofTable graphemeLinkTable
  | .hexDigit => .ofTable "30-39 41-46 61-66 FF10-FF19 FF21-FF26 FF41-FF46"
  | .hyphen => .ofTable "2D AD 58A 1806 2010-2011 2E17 30FB FE63 FF0D FF65"
  | .idsBinaryOperator => .ofTable "2FF0-2FF1 2FF4-2FFD 31EF"
  | .idsTrinaryOperator => .ofTable "2FF2-2FF3"
  | .idsUnaryOperator => .ofTable "2FFE-2FFF"
  | .idCompatMathContinue => compatMathStart.union
      (.ofTable "B2-B3 B9 2070 2074-207E 2080-208E")
  | .idCompatMathStart => compatMathStart
  | .idContinue => identifierContinue
  | .idStart => identifierStart
  | .ideographic => Text.ideographic
  | .joinControl => joiners
  | .logicalOrderException => .ofTable
      "E40-E44 EC0-EC4 19B5-19B7 19BA AAB5-AAB6 AAB9 AABB-AABC"
  | .lowercase => Text.lowercase
  | .math => (minorSet 'S' 'm').union Text.otherMath
  | .modifierCombiningMark => .ofTable
      "654-655 658 6DC 6E3 6E7-6E8 8CA-8CB 8CD-8CF 8D3 8F3"
  | .noncharacter => Text.noncharacters
  | .otherAlphabetic => Text.otherAlphabetic
  | .otherDefaultIgnorable => otherIgnorableCodePoints
  | .otherGraphemeExtend => Text.otherGraphemeExtend
  | .otherIdContinue => otherIdentifierContinue
  | .otherIdStart => otherIdentifierStart
  | .otherLowercase => Text.otherLowercase
  | .otherMath => Text.otherMath
  | .otherUppercase => Text.otherUppercase
  | .patternSyntax => Text.patternSyntax
  | .patternWhiteSpace => Text.patternBlanks
  | .prependedConcatenationMark => prependedMarks
  | .quotationMark => .ofTable quotationMarkTable
  | .radical => .ofTable "2E80-2E99 2E9B-2EF3 2F00-2FD5"
  | .regionalIndicator => regionalIndicators
  | .sentenceTerminal => sentenceTerminals
  | .softDotted => .ofTable softDottedTable
  | .terminalPunctuation => .ofTable terminalPunctuationTable
  | .unifiedIdeograph => .ofTable unifiedIdeographTable
  | .uppercase => Text.uppercase
  | .variationSelector => variationSelectors
  | .whiteSpace => blanks
  | .xidContinue => identifierContinue.difference
      (.ofTable "37A 309B-309C FC5E-FC63 FDFA-FDFB FE70 FE72 FE74 FE76 FE78 FE7A FE7C FE7E")
  | .xidStart => identifierStart.difference
      (.ofTable
        ("37A E33 EB3 309B-309C FC5E-FC63 FDFA-FDFB FE70 FE72 FE74 FE76 FE78 FE7A FE7C FE7E "
          ++ "FF9E-FF9F"))

/-- The names of the properties, in small letters and without underscores: a long and a short one.
-/
def names : List (String × Property) :=
  [("asciihexdigit", .asciiHexDigit), ("ahex", .asciiHexDigit), ("alphabetic", .alphabetic),
    ("alpha", .alphabetic), ("bidicontrol", .bidiControl), ("bidic", .bidiControl),
    ("bidimirrored", .bidiMirrored), ("bidim", .bidiMirrored), ("caseignorable", .caseIgnorable),
    ("ci", .caseIgnorable), ("cased", .cased), ("changeswhencasefolded", .changesWhenCasefolded),
    ("cwcf", .changesWhenCasefolded), ("changeswhencasemapped", .changesWhenCasemapped),
    ("cwcm", .changesWhenCasemapped), ("changeswhenlowercased", .changesWhenLowercased),
    ("cwl", .changesWhenLowercased), ("changeswhentitlecased", .changesWhenTitlecased),
    ("cwt", .changesWhenTitlecased), ("changeswhenuppercased", .changesWhenUppercased),
    ("cwu", .changesWhenUppercased), ("dash", .dash),
    ("defaultignorablecodepoint", .defaultIgnorable), ("di", .defaultIgnorable),
    ("deprecated", .deprecated), ("dep", .deprecated), ("diacritic", .diacritic),
    ("dia", .diacritic), ("emoji", .emoji), ("emojicomponent", .emojiComponent),
    ("ecomp", .emojiComponent), ("emojimodifier", .emojiModifier), ("emod", .emojiModifier),
    ("emojimodifierbase", .emojiModifierBase), ("ebase", .emojiModifierBase),
    ("emojipresentation", .emojiPresentation), ("epres", .emojiPresentation),
    ("extendedpictographic", .extendedPictographic), ("extpict", .extendedPictographic),
    ("extender", .extender), ("ext", .extender), ("graphemebase", .graphemeBase),
    ("grbase", .graphemeBase), ("graphemeextend", .graphemeExtend), ("grext", .graphemeExtend),
    ("graphemelink", .graphemeLink), ("grlink", .graphemeLink), ("hexdigit", .hexDigit),
    ("hex", .hexDigit), ("hyphen", .hyphen), ("idsbinaryoperator", .idsBinaryOperator),
    ("idsb", .idsBinaryOperator), ("idstrinaryoperator", .idsTrinaryOperator),
    ("idst", .idsTrinaryOperator), ("idsunaryoperator", .idsUnaryOperator),
    ("idsu", .idsUnaryOperator), ("idcompatmathcontinue", .idCompatMathContinue),
    ("idcompatmathstart", .idCompatMathStart), ("idcontinue", .idContinue), ("idc", .idContinue),
    ("idstart", .idStart), ("ids", .idStart), ("ideographic", .ideographic),
    ("ideo", .ideographic), ("joincontrol", .joinControl), ("joinc", .joinControl),
    ("logicalorderexception", .logicalOrderException), ("loe", .logicalOrderException),
    ("lowercase", .lowercase), ("lower", .lowercase), ("math", .math),
    ("modifiercombiningmark", .modifierCombiningMark), ("mcm", .modifierCombiningMark),
    ("noncharactercodepoint", .noncharacter), ("nchar", .noncharacter),
    ("otheralphabetic", .otherAlphabetic), ("oalpha", .otherAlphabetic),
    ("otherdefaultignorablecodepoint", .otherDefaultIgnorable), ("odi", .otherDefaultIgnorable),
    ("othergraphemeextend", .otherGraphemeExtend), ("ogrext", .otherGraphemeExtend),
    ("otheridcontinue", .otherIdContinue), ("oidc", .otherIdContinue),
    ("otheridstart", .otherIdStart), ("oids", .otherIdStart), ("otherlowercase", .otherLowercase),
    ("olower", .otherLowercase), ("othermath", .otherMath), ("omath", .otherMath),
    ("otheruppercase", .otherUppercase), ("oupper", .otherUppercase),
    ("patternsyntax", .patternSyntax), ("patsyn", .patternSyntax),
    ("patternwhitespace", .patternWhiteSpace), ("patws", .patternWhiteSpace),
    ("prependedconcatenationmark", .prependedConcatenationMark),
    ("pcm", .prependedConcatenationMark), ("quotationmark", .quotationMark),
    ("qmark", .quotationMark), ("radical", .radical), ("regionalindicator", .regionalIndicator),
    ("ri", .regionalIndicator), ("sentenceterminal", .sentenceTerminal),
    ("sterm", .sentenceTerminal), ("softdotted", .softDotted), ("sd", .softDotted),
    ("terminalpunctuation", .terminalPunctuation), ("term", .terminalPunctuation),
    ("unifiedideograph", .unifiedIdeograph), ("uideo", .unifiedIdeograph),
    ("uppercase", .uppercase), ("upper", .uppercase), ("variationselector", .variationSelector),
    ("vs", .variationSelector), ("whitespace", .whiteSpace), ("wspace", .whiteSpace),
    ("space", .whiteSpace), ("xidcontinue", .xidContinue), ("xidc", .xidContinue),
    ("xidstart", .xidStart), ("xids", .xidStart) ]

/-- The property under a name. -/
def byName? (name : String) : Option Property := names.lookup name

end Property

end AccessRules.Text
