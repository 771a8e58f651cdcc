import AccessRules.Text.Age
import AccessRules.Text.Break

/-!
# Character classes by name

The properties a pattern can name, alone or with a value, and the classes of ASCII. Names are
compared without regard to case, blanks, hyphens and underscores, and an `is` at their front does
not count.
-/

namespace AccessRules.Pattern

open Text (CharSet)

/-- The long names of the general categories, with the letters that stand for them. -/
def categoryNames : List (String × String) :=
  [ ("letter", "l"), ("uppercaseletter", "lu"), ("lowercaseletter", "ll"),
    ("titlecaseletter", "lt"),
    ("casedletter", "lc"), ("modifierletter", "lm"), ("otherletter", "lo"),
    ("mark", "m"), ("combiningmark", "m"), ("nonspacingmark", "mn"), ("spacingmark", "mc"),
    ("enclosingmark", "me"),
    ("number", "n"), ("decimalnumber", "nd"), ("digit", "nd"), ("letternumber", "nl"),
    ("othernumber", "no"),
    ("punctuation", "p"), ("punct", "p"), ("connectorpunctuation", "pc"), ("dashpunctuation", "pd"),
    ("openpunctuation", "ps"), ("closepunctuation", "pe"), ("initialpunctuation", "pi"),
    ("finalpunctuation", "pf"), ("otherpunctuation", "po"),
    ("symbol", "s"), ("mathsymbol", "sm"), ("currencysymbol", "sc"), ("modifiersymbol", "sk"),
    ("othersymbol", "so"),
    ("separator", "z"), ("spaceseparator", "zs"), ("lineseparator", "zl"),
    ("paragraphseparator", "zp"),
    ("other", "c"), ("control", "cc"), ("cntrl", "cc"), ("format", "cf"), ("privateuse", "co"),
    ("unassigned", "cn") ]

/-- The letters that stand for a class of categories or for one category. Surrogates are no
characters, so no category of theirs can be named. -/
def categoryLetters : List String :=
  [ "l", "lu", "ll", "lt", "lc", "lm", "lo", "m", "mn", "mc", "me", "n", "nd", "nl", "no", "p",
    "pc", "pd", "ps", "pe", "pi", "pf", "po", "s", "sm", "sc", "sk", "so", "z", "zs", "zl", "zp",
    "c", "cc", "cf", "co", "cn" ]

/-- A name in small letters and ASCII, without what separates its words. -/
def plainName (name : List Char) : List Char :=
  (name.filter fun character =>
    character.toNat < 0x80 && character != ' ' && character != '_' && character != '-').map
      Char.toLower

/-- A name without what does not count in it. An `is` counts if nothing but a `c` comes behind it,
for that is a name of its own. -/
def normalizeName (name : List Char) : String :=
  match name with
  | first :: second :: rest =>
      if first.toLower = 'i' ∧ second.toLower = 's' then
        match plainName rest with
        | ['c'] => "isc"
        | plain => String.ofList plain
      else String.ofList (plainName name)
  | _ => String.ofList (plainName name)

/-- The characters of a category or a class of categories. -/
def categorySet (letters : String) : CharSet :=
  match letters.toList with
  | ['l', 'c'] => .unions [Text.minorSet 'L' 'u', Text.minorSet 'L' 'l', Text.minorSet 'L' 't']
  | [major] => Text.majorSet major.toUpper
  | [major, minor] => Text.minorSet major.toUpper minor
  | _ => .empty

/-- The characters of a general category, by a normalized name. -/
def categoryByName? (name : String) : Option CharSet :=
  match name with
  | "any" => some .all
  | "assigned" => some (Text.minorSet 'C' 'n').complement
  | "ascii" => some .ascii
  | name =>
      match categoryNames.lookup name with
      | some letters => some (categorySet letters)
      | none => if categoryLetters.contains name then some (categorySet name) else none

/-- The characters of a script, by a normalized name. -/
def scriptByName? (name : String) : Option CharSet :=
  (Text.scriptByName? name).map Text.scriptSet

/-- The names of categories that are also names of properties, which must be spelled out. -/
def ambiguousNames : List String := ["cf", "sc", "lc"]

/-- The characters of a property written by its name alone: one that a character has or has not, a
general category, or a script. -/
def propertyByName? (name : List Char) : Option CharSet :=
  let normal := normalizeName name
  let binary := if ambiguousNames.contains normal then none else Text.Property.byName? normal
  ((binary.map Text.Property.members).or (categoryByName? normal)).or (scriptByName? normal)

/-- The characters whose property has a value. -/
def propertyByValue? (property value : List Char) : Option CharSet :=
  let normal := normalizeName value
  match normalizeName property with
  | "gc" => categoryByName? normal
  | "generalcategory" => categoryByName? normal
  | "sc" => scriptByName? normal
  | "script" => scriptByName? normal
  | "scx" => (Text.scriptByName? normal).map Text.scriptUseSet
  | "scriptextensions" => (Text.scriptByName? normal).map Text.scriptUseSet
  | "age" => (Text.versionByName? normal).map Text.assignedBy
  | "gcb" => Text.graphemeBreaks.byName? normal
  | "graphemeclusterbreak" => Text.graphemeBreaks.byName? normal
  | "wb" => Text.wordBreaks.byName? normal
  | "wordbreak" => Text.wordBreaks.byName? normal
  | "sb" => Text.sentenceBreaks.byName? normal
  | "sentencebreak" => Text.sentenceBreaks.byName? normal
  | _ => none

/-! ## What braces hold -/

/-- A text around the first place where a separator stands in it. -/
def splitAt? (separator text : List Char) : Option (List Char × List Char) :=
  match text with
  | [] => none
  | character :: rest =>
      if separator.isPrefixOf text then some ([], text.drop separator.length)
      else (splitAt? separator rest).map fun (before, behind) => (character :: before, behind)

/-- The set that a property in braces stands for, and whether its value is denied. An inequality
sign separates name and value wherever it stands, then a colon does, then an equality sign. -/
def property? (text : List Char) : Option (CharSet × Bool) :=
  match splitAt? ['!', '='] text with
  | some (name, value) => (propertyByValue? name value).map (·, true)
  | none =>
      match (splitAt? [':'] text).or (splitAt? ['='] text) with
      | some (name, value) => (propertyByValue? name value).map (·, false)
      | none => (propertyByName? text).map (·, false)

/-! ## ASCII -/

/-- The letters and digits of ASCII. -/
def asciiAlphanumerics : CharSet :=
  .unions [.range '0' '9', .range 'A' 'Z', .range 'a' 'z']

/-- The letters, the digits and the underscore of ASCII. -/
def asciiWord : CharSet := asciiAlphanumerics.union (.single '_')

/-- The blanks of ASCII. -/
def asciiBlanks : CharSet := (CharSet.range '\t' '\r').union (.single ' ')

/-- The classes of ASCII that stand in brackets and colons. -/
def asciiByName? (name : List Char) : Option CharSet :=
  match String.ofList name with
  | "alnum" => some asciiAlphanumerics
  | "alpha" => some ((CharSet.range 'A' 'Z').union (.range 'a' 'z'))
  | "ascii" => some .ascii
  | "blank" => some ((CharSet.single '\t').union (.single ' '))
  | "cntrl" => some ((CharSet.range '\x00' '\x1f').union (.single '\x7f'))
  | "digit" => some (.range '0' '9')
  | "graph" => some (.range '!' '~')
  | "lower" => some (.range 'a' 'z')
  | "print" => some (.range ' ' '~')
  | "punct" => some ((CharSet.range '!' '~').difference asciiAlphanumerics)
  | "space" => some asciiBlanks
  | "upper" => some (.range 'A' 'Z')
  | "word" => some asciiWord
  | "xdigit" => some (.unions [.range '0' '9', .range 'A' 'F', .range 'a' 'f'])
  | _ => none

end AccessRules.Pattern
