import AccessRules.Text.CaseTable
import AccessRules.Text.Category

/-!
# Upper and lower case

The case mappings of the Unicode standard, in no particular language. A character may map to
several, and one mapping looks at its surroundings: a capital sigma at the end of a word has a form
of its own.
-/

namespace AccessRules.Text

/-- A run of characters that are mapped by one distance. -/
structure CaseRun where
  last : Nat
  step : Nat
  target : Nat
deriving DecidableEq, Repr

/-- The runs of a table, each under its first character. -/
def caseRuns (table : String) : Array (Nat × CaseRun) :=
  ((Table.entries table).filterMap fun entry =>
    match Table.numbers ',' entry with
    | [first, last, step, target] => some (first, ⟨last, step, target⟩)
    | _ => none).toArray

/-- What a run maps a code point to. -/
def CaseRun.image? (first : Nat) (run : CaseRun) (code : Nat) : Option Nat :=
  if first ≤ code ∧ code ≤ run.last ∧ (code - first) % run.step = 0 then
    some (run.target + (code - first))
  else none

/-- The mappings of a table to several characters. -/
def longMappings (table : String) : Array (Nat × List Char) :=
  ((Table.entries table).filterMap fun entry =>
    match Table.pieces (· == ':') entry with
    | [source, targets] =>
        some (Table.hex source, (Table.numbers ',' targets).map Char.ofNat)
    | _ => none).toArray

/-- What a character is mapped to: several characters, or one, or itself. -/
def mapCase (long : Array (Nat × List Char)) (runs : Array (Nat × CaseRun)) (character : Char) :
    List Char :=
  let code := character.toNat
  match Table.find? long code with
  | some (source, targets) => if source = code then targets else single code
  | none => single code
where
  /-- The one character a code point is mapped to. -/
  single (code : Nat) : List Char :=
    match Table.find? runs code with
    | some (first, run) => [((run.image? first code).map Char.ofNat).getD (Char.ofNat code)]
    | none => [Char.ofNat code]

/-- The runs of the uppercase table. -/
def uppercaseRuns : Array (Nat × CaseRun) := caseRuns uppercaseTable

/-- The uppercase mappings to several characters. -/
def longUppercase : Array (Nat × List Char) := longMappings longUppercaseTable

/-- The runs of the lowercase table. -/
def lowercaseRuns : Array (Nat × CaseRun) := caseRuns lowercaseTable

/-- The lowercase mappings to several characters. -/
def longLowercase : Array (Nat × List Char) := longMappings longLowercaseTable

/-- The uppercase of a character. -/
def upperChar (character : Char) : List Char :=
  if character.toNat < 0x80 then [character.toUpper]
  else mapCase longUppercase uppercaseRuns character

/-- The lowercase of a character outside any word. -/
def lowerChar (character : Char) : List Char :=
  if character.toNat < 0x80 then [character.toLower]
  else mapCase longLowercase lowercaseRuns character

/-- A text in uppercase. -/
def toUpper (text : String) : String :=
  String.ofList (text.toList.flatMap upperChar)

/-- Whether a cased character comes next when those that case mapping looks through are left out. -/
def nextIsCased (text : List Char) : Bool :=
  match text.dropWhile caseIgnorable.has with
  | [] => false
  | next :: _ => cased.has next

/-- Lowercase of what follows the characters before it, which are given nearest first. A capital
sigma behind a cased character and before none takes its final form. -/
def lowerAfter (before : List Char) : List Char → List Char
  | [] => []
  | character :: rest =>
      (if character = 'Σ' then
          (if nextIsCased before && !nextIsCased rest then ['ς'] else ['σ'])
        else lowerChar character) ++ lowerAfter (character :: before) rest

/-- A text in lowercase. -/
def toLower (text : String) : String :=
  String.ofList (lowerAfter [] text.toList)

/-- The code points that a run maps, each with its image. -/
def CaseRun.pairs (first : Nat) (run : CaseRun) : List (Nat × Nat) :=
  (List.range ((run.last - first) / run.step + 1)).map fun index =>
    (first + index * run.step, run.target + index * run.step)

/-- The code points that a run maps. -/
def CaseRun.sources (first : Nat) (run : CaseRun) : List (Nat × Nat) :=
  if run.step = 1 then [(first, run.last)]
  else (run.pairs first).map fun pair => (pair.1, pair.1)

/-- The pairs of code points that differ in case only. -/
def caseVariants : List (Nat × Nat) :=
  (caseRuns caseVariantTable).toList.flatMap fun (first, run) => run.pairs first

/-- A set with all characters that differ from a member in case only. -/
def CharSet.closeCase (set : CharSet) : CharSet :=
  .ofRanges (set.ranges ++ caseVariants.flatMap fun (small, great) =>
    (if CharSet.covers set.ranges small then [(great, great)] else [])
      ++ (if CharSet.covers set.ranges great then [(small, small)] else []))

/-- The letters of ASCII in a set, moved by a distance. -/
def CharSet.movedLetters (set : CharSet) (first last target : Nat) : List (Nat × Nat) :=
  (CharSet.overlap set.ranges [(first, last)]).map fun (low, high) =>
    (low - first + target, high - first + target)

/-- A set with all letters of ASCII that differ from a member in case only. -/
def CharSet.closeAsciiCase (set : CharSet) : CharSet :=
  .ofRanges (set.ranges ++ set.movedLetters 'a'.toNat 'z'.toNat 'A'.toNat
    ++ set.movedLetters 'A'.toNat 'Z'.toNat 'a'.toNat)

/-- The characters whose lowercase is another text. -/
def lowered : CharSet :=
  .ofRanges (('A'.toNat, 'Z'.toNat)
    :: (lowercaseRuns.toList.flatMap fun (first, run) => run.sources first)
    ++ longLowercase.toList.map fun (source, _) => (source, source))

/-- The characters whose uppercase is another text. -/
def raised : CharSet :=
  .ofRanges (('a'.toNat, 'z'.toNat)
    :: (uppercaseRuns.toList.flatMap fun (first, run) => run.sources first)
    ++ longUppercase.toList.map fun (source, _) => (source, source))

end AccessRules.Text
