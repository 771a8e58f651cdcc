import AccessRules.Text.Blank
import AccessRules.Text.CategoryTable
import AccessRules.Text.CharSet

/-!
# Classes of characters

Every character has a general category; what counts as a letter, a digit or a part of a word follows
from it.
-/

namespace AccessRules.Text

/-- A general category: a class such as `L`, the letters, and a subclass such as `u`, the uppercase
ones. -/
structure Category where
  major : Char
  minor : Char
deriving DecidableEq, Repr

/-- The category of a code point that is no character. -/
def Category.unassigned : Category := ⟨'C', 'n'⟩

/-- The general category table: where each run of one category begins. -/
def categoryRuns : Array (Nat × Category) :=
  ((Table.entries categoryTable).filterMap fun entry =>
    match entry.reverse with
    | minor :: major :: start => some (Table.hex start.reverse, ⟨major, minor⟩)
    | _ => none).toArray

/-- The general category of a character. -/
def category (character : Char) : Category :=
  match Table.find? categoryRuns character.toNat with
  | some (_, category) => category
  | none => .unassigned

/-- The characters whose category passes a test. -/
def categorySet (keep : Category → Bool) : CharSet := CharSet.ofRuns keep categoryRuns

/-- The characters of a class of categories. -/
def majorSet (major : Char) : CharSet := categorySet fun category => category.major == major

/-- The characters of one category. -/
def minorSet (major minor : Char) : CharSet := categorySet (· == ⟨major, minor⟩)

/-- An ASCII letter or digit. -/
def isAsciiAlphanumeric (character : Char) : Bool :=
  ('a' ≤ character && character ≤ 'z') || ('A' ≤ character && character ≤ 'Z')
    || ('0' ≤ character && character ≤ '9')

/-- The alphabetic characters beyond letters and letter numbers. -/
def otherAlphabetic : CharSet := .ofTable otherAlphabeticTable

/-- The characters with the Unicode property `Alphabetic`. -/
def alphabetic : CharSet := .unions [majorSet 'L', minorSet 'N' 'l', otherAlphabetic]

/-- A character with the Unicode property `Alphabetic`. -/
def isAlphabetic (character : Char) : Bool := alphabetic.has character

/-- The decimal digits of any script. -/
def decimalDigits : CharSet := minorSet 'N' 'd'

/-- The zero-width characters that join the characters around them, or keep them apart. -/
def joiners : CharSet := .ofTable "200C-200D"

/-- The characters that words are made of: alphabetic characters, marks, decimal digits, connectors
and the two joiners. -/
def wordCharacters : CharSet :=
  .unions [alphabetic, majorSet 'M', decimalDigits, minorSet 'P' 'c', joiners]

/-- A character that words are made of. In ASCII these are the letters, the digits and the
underscore, and no blank is one. -/
def isWord (character : Char) : Bool :=
  if character.toNat < 0x80 then isAsciiAlphanumeric character || character == '_'
  else !isBlank character && wordCharacters.has character

/-- The uppercase characters that are no letters. -/
def otherUppercase : CharSet := .ofTable otherUppercaseTable

/-- The characters with the Unicode property `Uppercase`. -/
def uppercase : CharSet := (minorSet 'L' 'u').union otherUppercase

/-- The lowercase characters that are no lowercase letters. -/
def otherLowercase : CharSet := .ofTable otherLowercaseTable

/-- The characters with the Unicode property `Lowercase`. -/
def lowercase : CharSet := (minorSet 'L' 'l').union otherLowercase

/-- The characters with the Unicode property `Cased`. -/
def cased : CharSet := .unions [uppercase, lowercase, minorSet 'L' 't']

/-- The characters with the Unicode property `Case_Ignorable`, through which case mapping looks. -/
def caseIgnorable : CharSet :=
  .unions [minorSet 'M' 'n', minorSet 'M' 'e', minorSet 'C' 'f', minorSet 'L' 'm', minorSet 'S' 'k',
    .ofTable otherIgnorableTable]

end AccessRules.Text
