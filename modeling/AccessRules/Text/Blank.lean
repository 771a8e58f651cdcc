/-!
# Blanks

The characters that separate words: exactly those with the Unicode property `White_Space`. Rule
expressions may put them between any two tokens, and trimming a text removes them at both ends.
-/

namespace AccessRules.Text

/-- The blanks outside ASCII. -/
def wideBlanks : List Nat :=
  [0x85, 0xA0, 0x1680, 0x2000, 0x2001, 0x2002, 0x2003, 0x2004, 0x2005, 0x2006, 0x2007, 0x2008,
   0x2009, 0x200A, 0x2028, 0x2029, 0x202F, 0x205F, 0x3000]

/-- A character with the Unicode property `White_Space`. -/
def isBlank (character : Char) : Bool :=
  let code := character.toNat
  code == 0x20 || (0x9 ≤ code && code ≤ 0xD) || wideBlanks.contains code

/-- What follows the leading blanks. -/
def skipBlanks (text : List Char) : List Char :=
  text.dropWhile isBlank

/-- A text without the blanks at its two ends. -/
def trimChars (text : List Char) : List Char :=
  (skipBlanks (skipBlanks text).reverse).reverse

/-- A text without the blanks at its two ends. -/
def trim (text : String) : String :=
  String.ofList (trimChars text.toList)

end AccessRules.Text
