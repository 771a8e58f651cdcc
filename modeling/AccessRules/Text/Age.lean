import AccessRules.Text.AgeTable
import AccessRules.Text.CharSet

/-!
# Ages

The version of the Unicode standard that a character has been in from. Versions are compared by
their first number and then by their second.
-/

namespace AccessRules.Text

/-- A version of the standard. -/
structure Version where
  major : Nat
  minor : Nat
deriving DecidableEq, Repr

namespace Version

/-- The number that decimal digits spell. -/
def number (digits : List Char) : Nat :=
  digits.foldl (fun number digit => number * 10 + (digit.toNat - '0'.toNat)) 0

/-- The version in a text such as `15.1`. -/
def ofText? (text : List Char) : Option Version :=
  match Table.pieces (· == '.') text with
  | [major, minor] => some ⟨number major, number minor⟩
  | _ => none

/-- Whether a version is not later than another one. -/
def isUpTo (version limit : Version) : Bool :=
  version.major < limit.major || (version.major == limit.major && version.minor ≤ limit.minor)

/-- The version with its two numbers joined by a point. -/
def text (version : Version) : String := s!"{version.major}.{version.minor}"

/-- The version behind a letter, its two numbers written together. -/
def letters (version : Version) : String := s!"v{version.major}{version.minor}"

end Version

/-- The age table: where each run of one age begins. -/
def ageRuns : Array (Nat × Option Version) :=
  ((Table.entries ageTable).filterMap fun entry =>
    match Table.pieces (· == ':') entry with
    | [start, age] => some (Table.hex start, Version.ofText? age)
    | [start] => some (Table.hex start, none)
    | _ => none).toArray

/-- The versions in which characters were assigned, each once. -/
def versions : List Version := (ageRuns.toList.filterMap Prod.snd).eraseDups

/-- The characters that are in the standard as of a version. -/
def assignedBy (limit : Version) : CharSet :=
  .ofRuns (fun age => age.any fun version => version.isUpTo limit) ageRuns

/-- The version under a name: its numbers with a point between them, or together behind a `v`. -/
def versionByName? (name : String) : Option Version :=
  versions.find? fun version => version.text == name || version.letters == name

end AccessRules.Text
