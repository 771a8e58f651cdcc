import AccessRules.Pattern.Basic
import AccessRules.Pattern.Flags

/-!
# Escapes

What a backslash and the characters behind it stand for: one character, a set of characters, or a
place in the text. There is no referring back to groups.
-/

namespace AccessRules.Pattern

open Text (CharSet)

/-- What an escape stands for. -/
inductive Escape where
  | literal (character : Char)
  | set (members : CharSet)
  | place (place : Place)

namespace Escape

/-! ## Characters by number -/

/-- A hexadecimal digit. -/
def isHexDigit (character : Char) : Bool :=
  ('0' ≤ character && character ≤ '9') || ('a' ≤ character && character ≤ 'f')
    || ('A' ≤ character && character ≤ 'F')

/-- The character that hexadecimal digits name. -/
def scalar? (digits : List Char) : Option Char :=
  let code := Text.Table.hex (digits.map Char.toUpper)
  if digits.isEmpty || !digits.all isHexDigit then none
  else if code.isValidChar then some (Char.ofNat code)
  else none

/-- The character named by a number of hexadecimal digits, or by any number of them in braces.
Without Unicode, two digits name a byte, which is a character only within ASCII. -/
def hex? (flags : Flags) (length : Nat) (text : List Char) : Option (Escape × List Char) :=
  match flags.skip text with
  | '\x7b' :: rest =>
      match flags.braced? rest with
      | some (digits, behind) => (scalar? digits).map (.literal ·, behind)
      | none => none
  | text =>
      match flags.take? length text with
      | some (digits, behind) =>
          match scalar? digits with
          | some character =>
              if length = 2 ∧ !flags.unicode ∧ 0x7F < character.toNat then none
              else some (.literal character, behind)
          | none => none
      | none => none

/-! ## Properties -/

/-- A property: one letter, or what stands in braces. Its characters are joined by those that differ
in case only before the others are taken. -/
def property? (flags : Flags) (negated : Bool) (text : List Char) : Option (Escape × List Char) :=
  let finish (name rest : List Char) : Option (Escape × List Char) :=
    if !flags.unicode then none
    else
      (Pattern.property? name).map fun (members, denied) =>
        let members := flags.fold members
        (.set (if negated != denied then members.complement else members), rest)
  match flags.skip text with
  | '\x7b' :: rest => (flags.braced? rest).bind fun (name, behind) => finish name behind
  | letter :: rest => if letter = '\\' then none else finish [letter] rest
  | [] => none

/-! ## Places -/

/-- A part of the name of a word place. -/
def isPlaceNamePart (character : Char) : Bool :=
  ('a' ≤ character && character ≤ 'z') || ('A' ≤ character && character ≤ 'Z') || character == '-'

/-- The word places by name. -/
def placeByName? (name : String) : Option Place :=
  match name with
  | "start" => some .wordStart
  | "end" => some .wordEnd
  | "start-half" => some .halfStart
  | "end-half" => some .halfEnd
  | _ => none

/-- A boundary of a word, or the word place named in braces behind it. Braces that begin otherwise
than a name repeat the boundary; a name that is not closed well is refused. -/
def boundary? (flags : Flags) (text : List Char) : Option (Escape × List Char) :=
  match text with
  | '\x7b' :: rest =>
      match flags.span isPlaceNamePart (flags.skip rest) with
      | (_, []) => none
      | ([], _) => some (.place .wordBoundary, text)
      | (name, closing :: behind) =>
          if closing = '\x7d' then (placeByName? (String.ofList name)).map (.place ·, behind)
          else none
  | text => some (.place .wordBoundary, text)

/-! ## All escapes -/

/-- The letters and signs that stand for a character or a place of their own. -/
def simple? (letter : Char) : Option Escape :=
  match letter with
  | 'a' => some (.literal '\x07')
  | 'f' => some (.literal '\x0c')
  | 't' => some (.literal '\t')
  | 'n' => some (.literal '\n')
  | 'r' => some (.literal '\r')
  | 'v' => some (.literal '\x0b')
  | 'A' => some (.place .textStart)
  | 'z' => some (.place .textEnd)
  | 'B' => some (.place .noWordBoundary)
  | '<' => some (.place .wordStart)
  | '>' => some (.place .wordEnd)
  | letter =>
      if letter.toNat < 0x80 ∧ !Text.isAsciiAlphanumeric letter then some (.literal letter)
      else none

/-- The set of a letter, which is all but that set for a capital letter. -/
def classSet? (flags : Flags) (letter : Char) : Option CharSet :=
  match flags.setByLetter? letter with
  | some members => some members
  | none => (flags.setByLetter? letter.toLower).bind (flags.negate? true)

/-- What the text behind a backslash stands for, and what follows it. -/
def read? (flags : Flags) (text : List Char) : Option (Escape × List Char) :=
  match text with
  | [] => none
  | 'x' :: rest => hex? flags 2 rest
  | 'u' :: rest => hex? flags 4 rest
  | 'U' :: rest => hex? flags 8 rest
  | 'p' :: rest => property? flags false rest
  | 'P' :: rest => property? flags true rest
  | 'b' :: rest => boundary? flags rest
  | letter :: rest => (((classSet? flags letter).map .set).or (simple? letter)).map (·, rest)

end Escape

end AccessRules.Pattern
