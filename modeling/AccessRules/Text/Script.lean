import AccessRules.Text.CharSet
import AccessRules.Text.ScriptTable

/-!
# Scripts

The characters of a script, and the characters that are used with it. Scripts are told by their four
letters.
-/

namespace AccessRules.Text

/-- The script table: where each run of one script begins. -/
def scriptRuns : Array (Nat × String) :=
  ((Table.entries scriptTable).map fun entry =>
    let digits := entry.length - 4
    (Table.hex (entry.take digits), String.ofList (entry.drop digits))).toArray

/-- The characters of a script. -/
def scriptSet (letters : String) : CharSet := .ofRuns (· == letters) scriptRuns

/-- A text cut into pieces of four letters. -/
def fourLetters : List Char → List String
  | first :: second :: third :: fourth :: rest =>
      String.ofList [first, second, third, fourth] :: fourLetters rest
  | _ => []

/-- The ranges of characters that are used with other scripts than their own. -/
def scriptExtensions : List ((Nat × Nat) × List String) :=
  (Table.entries scriptExtensionTable).filterMap fun entry =>
    match Table.pieces (· == '-') entry with
    | [first, last, letters] => some ((Table.hex first, Table.hex last), fourLetters letters)
    | _ => none

/-- The characters that are used with a script. -/
def scriptUseSet (letters : String) : CharSet :=
  ((scriptSet letters).difference (.ofRanges (scriptExtensions.map Prod.fst))).union
    (.ofRanges ((scriptExtensions.filter fun entry => entry.2.contains letters).map Prod.fst))

/-- The names of scripts with the letters that stand for them. -/
def scriptNames : List (String × String) :=
  (Table.entries scriptNameTable).filterMap fun entry =>
    match Table.pieces (· == '=') entry with
    | [name, letters] => some (String.ofList name, String.ofList letters)
    | _ => none

/-- The letters of the script under a name in small letters: its own, or its letters. -/
def scriptByName? (name : String) : Option String :=
  match scriptNames.lookup name with
  | some letters => some letters
  | none => (scriptNames.find? fun entry => entry.2.toLower == name).map Prod.snd

end AccessRules.Text
