/-!
# Reading tables

Tables of characters are kept as text: entries between blanks, numbers in hexadecimal. This module
reads them into arrays that are sorted by code point, and finds an entry by halving.
-/

namespace AccessRules.Text.Table

/-- The pieces of a text between the characters that separate them; pieces that are empty are left
out. -/
def pieces (separates : Char → Bool) (text : List Char) : List (List Char) :=
  let (piece, rest) := text.foldr (fun character (state : List Char × List (List Char)) =>
      if separates character then
        ([], if state.1.isEmpty then state.2 else state.1 :: state.2)
      else (character :: state.1, state.2))
    ([], [])
  if piece.isEmpty then rest else piece :: rest

/-- The entries of a table. -/
def entries (table : String) : List (List Char) :=
  pieces (fun character => character == ' ' || character == '\n') table.toList

/-- The number that hexadecimal digits spell, capital letters among them. -/
def hex (digits : List Char) : Nat :=
  digits.foldl (fun number digit =>
    number * 16
      + (if digit ≤ '9' then digit.toNat - '0'.toNat else digit.toNat - 'A'.toNat + 10)) 0

/-- The numbers of an entry. -/
def numbers (separator : Char) (entry : List Char) : List Nat :=
  (pieces (· == separator) entry).map hex

/-- The number of entries, of those from `low` up to `high`, whose code point is at most the given
one, the entries before `low` counted in. -/
def halve {α : Type} (code : Nat) (entries : Array (Nat × α)) (low high : Nat) : Nat :=
  if low < high then
    let middle := (low + high) / 2
    match entries[middle]? with
    | some (start, _) =>
        if start ≤ code then halve code entries (middle + 1) high
        else halve code entries low middle
    | none => low
  else low
termination_by high - low

/-- The last entry whose code point is at most the given one. -/
def find? {α : Type} (entries : Array (Nat × α)) (code : Nat) : Option (Nat × α) :=
  match halve code entries 0 entries.size with
  | 0 => none
  | above + 1 => entries[above]?

/-- The ranges of a table, each a code point with the last one of its range. -/
def ranges (table : String) : List (Nat × Nat) :=
  (entries table).filterMap fun entry =>
    match numbers '-' entry with
    | [first, last] => some (first, last)
    | [only] => some (only, only)
    | _ => none

end AccessRules.Text.Table
