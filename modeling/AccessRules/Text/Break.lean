import AccessRules.Text.Property
import AccessRules.Text.Script

/-!
# Where text may be broken

The classes by which the Unicode standard divides text into graphemes, words and sentences. Every
class has a long and a short name, here in small letters and without underscores.
-/

namespace AccessRules.Text

/-- The classes of one division, each with its names. -/
abbrev BreakClasses := List (List String × CharSet)

/-- The class under a name. -/
def BreakClasses.byName? (classes : BreakClasses) (name : String) : Option CharSet :=
  (classes.find? fun entry => entry.1.contains name).map Prod.snd

/-! ## Sets that several classes are made of -/

/-- The character that ends a line alone or behind a carriage return. -/
def lineFeed : CharSet := .single '\n'

/-- The character that ends a line alone or before a line feed. -/
def carriageReturn : CharSet := .single '\r'

/-- The joiner that links the characters around it. -/
def zeroWidthJoiner : CharSet := .ofTable "200D"

/-- The format characters. -/
def formatCharacters : CharSet := minorSet 'C' 'f'

/-- The characters that extend what is before them, skin tones included. -/
def extending : CharSet := graphemeExtend.union emojiModifiers

/-- The marks that take room of their own. -/
def spacingMarks : CharSet := minorSet 'M' 'c'

/-- The prepended marks but for the abbreviation mark of Syriac. -/
def numberMarks : CharSet := prependedMarks.difference (.ofTable "70F")

/-! ## Graphemes -/

/-- The syllables of Hangul. -/
def hangulSyllables : CharSet := .ofTable "AC00-D7A3"

/-- The syllables of Hangul without a final consonant, one for each of the 28 finals there may be.
-/
def openSyllables : CharSet :=
  .ofRanges ((List.range 399).map fun index => (0xAC00 + 28 * index, 0xAC00 + 28 * index))

/-- The classes of graphemes. -/
def graphemeBreaks : BreakClasses :=
  [ (["control", "cn"],
      (CharSet.unions [minorSet 'Z' 'l', minorSet 'Z' 'p', minorSet 'C' 'c', formatCharacters,
        (minorSet 'C' 'n').intersection defaultIgnorable]).difference
          (.unions [carriageReturn, lineFeed, joiners, prependedMarks, extending])),
    (["cr"], carriageReturn),
    (["extend", "ex"], extending),
    (["l"], .ofTable "1100-115F A960-A97C"),
    (["lf"], lineFeed),
    (["lv"], openSyllables),
    (["lvt"], hangulSyllables.difference openSyllables),
    (["prepend", "pp"],
      prependedMarks.union
        (.ofTable "D4E 111C2-111C3 113D1 1193F 11941 11A3A 11A84-11A89 11D46 11F02")),
    (["regionalindicator", "ri"], regionalIndicators),
    (["spacingmark", "sm"],
      (spacingMarks.union (.ofTable "E33 EB3")).difference
        (extending.union
          (.ofTable
            ("102B-102C 1038 1062-1064 1067-106D 1083 1087-108C 108F 109A-109C 1A61 1A63-1A64 "
              ++ "AA7B AA7D 11720-11721")))),
    (["t"], .ofTable "11A8-11FF D7CB-D7FB"),
    (["v"], .ofTable "1160-11A7 D7B0-D7C6 16D63 16D67-16D6A"),
    (["zwj"], zeroWidthJoiner) ]

/-! ## Words -/

/-- The characters of scripts whose words only a dictionary can tell. -/
def dictionaryCharacters : CharSet :=
  .ofTable
    ("E01-E3A E40-E4E E81-E82 E84 E86-E8A E8C-EA3 EA5 EA7-EBD EC0-EC4 EC6 EC8-ECE EDC-EDF "
      ++ "1000-103F 1050-108F 109A-109F 1780-17D3 17D7 17DC-17DD 1950-196D 1970-1974 "
      ++ "1980-19AB 19B0-19C9 19DA 19DE-19DF 1A20-1A5E 1A60-1A7C 1AA0-1AAD A9E0-A9EF "
      ++ "A9FA-A9FE AA60-AAC2 AADB-AADF 11700-1171A 1171D-1172B 1173A-1173B 1173F-11746")

/-- The characters that extend words. -/
def wordExtending : CharSet := (extending.union spacingMarks).difference zeroWidthJoiner

/-- The letters of Hebrew. -/
def hebrewLetters : CharSet := (scriptSet "Hebr").intersection (minorSet 'L' 'o')

/-- The characters of Katakana and those that are used like them. -/
def katakana : CharSet :=
  ((scriptSet "Kana").union (.ofTable "3031-3035 309B-309C 30A0 30FC FF70")).difference
    wordExtending

/-- The characters of numbers in words. -/
def wordNumeric : CharSet := .unions [decimalDigits, numberMarks, .ofTable "66B"]

/-- The classes of words. -/
def wordBreaks : BreakClasses :=
  [ (["aletter", "le"],
      (alphabetic.difference
        (.unions [ideographic, katakana, dictionaryCharacters, scriptSet "Hira", wordExtending,
          hebrewLetters])).union
        (.ofTable
          ("B8 2C2-2C5 2D2-2D7 2DE-2DF 2E5-2EB 2ED 2EF-2FF 55A-55C 55E 58A 5F3 70F A708-A716 "
            ++ "A720-A721 A789-A78A AB5B"))),
    (["cr"], carriageReturn),
    (["doublequote", "dq"], .single '"'),
    (["extend"], wordExtending),
    (["extendnumlet", "ex"], (minorSet 'P' 'c').union (.ofTable "202F")),
    (["format", "fo"],
      formatCharacters.difference
        (.unions [.ofTable "200B", joiners, extending, prependedMarks])),
    (["hebrewletter", "hl"], hebrewLetters),
    (["katakana", "ka"], katakana),
    (["lf"], lineFeed),
    (["midletter", "ml"], .ofTable "3A B7 387 55F 5F4 2027 FE13 FE55 FF1A"),
    (["midnum", "mn"],
      .ofTable "2C 3B 37E 589 60C-60D 66C 7F8 2044 FE10 FE14 FE50 FE54 FF0C FF1B"),
    (["midnumlet", "mb"], .ofTable "2E 2018-2019 2024 FE52 FF07 FF0E"),
    (["newline", "nl"], .ofTable "B-C 85 2028-2029"),
    (["numeric", "nu"], wordNumeric),
    (["regionalindicator", "ri"], regionalIndicators),
    (["singlequote", "sq"], .single '\''),
    (["wsegspace"], (minorSet 'Z' 's').difference (.ofTable "A0 2007 202F")),
    (["zwj"], zeroWidthJoiner) ]

/-! ## Sentences -/

/-- The characters that extend sentences. -/
def sentenceExtending : CharSet := .unions [graphemeExtend, spacingMarks, zeroWidthJoiner]

/-- The characters of numbers in sentences. -/
def sentenceNumeric : CharSet := wordNumeric.union (.ofTable "66C")

/-- The small letters of sentences. -/
def sentenceLower : CharSet :=
  lowercase.difference (graphemeExtend.union (.ofTable "10D0-10FA 10FD-10FF"))

/-- The capital letters of sentences. -/
def sentenceUpper : CharSet :=
  ((minorSet 'L' 't').union uppercase).difference (.ofTable "1C90-1CBA 1CBD-1CBF")

/-- The full stops, which need not end a sentence. -/
def fullStops : CharSet := .ofTable "2E 2024 FE52 FF0E"

/-- The characters that part paragraphs. -/
def paragraphSeparators : CharSet := .ofTable "85 2028-2029"

/-- The classes of sentences. -/
def sentenceBreaks : BreakClasses :=
  [ (["aterm", "at"], fullStops),
    (["close", "cl"],
      (CharSet.unions [minorSet 'P' 's', minorSet 'P' 'e', minorSet 'P' 'i', minorSet 'P' 'f',
        .ofTable "22 27 275B-2760 2E00-2E01 2E06-2E08 2E0B 1F676-1F678"]).difference
          (fullStops.union sentenceTerminals)),
    (["cr"], carriageReturn),
    (["extend", "ex"], sentenceExtending),
    (["format", "fo"],
      formatCharacters.difference (.unions [joiners, sentenceExtending, sentenceNumeric])),
    (["lf"], lineFeed),
    (["lower", "lo"], sentenceLower),
    (["numeric", "nu"], sentenceNumeric),
    (["oletter", "le"],
      (alphabetic.union (.ofTable "5F3")).difference
        (.unions [sentenceLower, sentenceUpper, sentenceExtending])),
    (["scontinue", "sc"],
      .ofTable
        ("2C-2D 3A-3B 37E 55D 60C-60D 7F8 1802 1808 2013-2014 3001 FE10-FE11 FE13-FE14 FE31-FE32 "
          ++ "FE50-FE51 FE54-FE55 FE58 FE63 FF0C-FF0D FF1A-FF1B FF64")),
    (["sep", "se"], paragraphSeparators),
    (["sp"], blanks.difference (.unions [carriageReturn, lineFeed, paragraphSeparators])),
    (["sterm", "st"], sentenceTerminals.difference fullStops),
    (["upper", "up"], sentenceUpper) ]

end AccessRules.Text
