import AccessRules.Text.Table

/-!
# Sets of characters

A set is given by the ranges of code points that it holds, so that it can be told apart from another
one, counted and laid out. The ranges stand in order and do not touch. A code point of a surrogate
may lie in a range but is no character.
-/

namespace AccessRules.Text

/-- A set of characters: its ranges, each a first and a last code point. -/
structure CharSet where
  ranges : List (Nat × Nat)
deriving DecidableEq, Repr

namespace CharSet

/-- Whether a code point lies in one of the ranges, which stand in order. -/
def covers : List (Nat × Nat) → Nat → Bool
  | [], _ => false
  | (first, last) :: rest, code => first ≤ code && (code ≤ last || covers rest code)

/-- Whether a character is a member. -/
def has (set : CharSet) (character : Char) : Bool :=
  covers set.ranges character.toNat

/-- The greatest code point. -/
def lastCode : Nat := 0x10FFFF

/-! ## Making sets -/

/-- A range and those behind it, which do not begin before it, with ranges that touch joined. -/
def joinFrom (first last : Nat) : List (Nat × Nat) → List (Nat × Nat)
  | [] => [(first, last)]
  | (next, bound) :: rest =>
      if next ≤ last + 1 then joinFrom first (max last bound) rest
      else (first, last) :: joinFrom next bound rest

/-- The set of all characters in some ranges. -/
def ofRanges (ranges : List (Nat × Nat)) : CharSet :=
  match ranges.mergeSort fun left right => decide (left.1 ≤ right.1) with
  | [] => ⟨[]⟩
  | (first, last) :: rest => ⟨joinFrom first last rest⟩

/-- The set that a table of ranges lists. -/
def ofTable (table : String) : CharSet := ofRanges (Table.ranges table)

/-- The ranges of the runs whose value passes a test; each run goes up to the next one. -/
def runRanges {α : Type} (keep : α → Bool) : List (Nat × α) → List (Nat × Nat)
  | [] => []
  | (first, value) :: rest =>
      let last := match rest with
        | [] => lastCode
        | (next, _) :: _ => next - 1
      if keep value then (first, last) :: runRanges keep rest else runRanges keep rest

/-- The set of the characters in the runs whose value passes a test. -/
def ofRuns {α : Type} (keep : α → Bool) (runs : Array (Nat × α)) : CharSet :=
  ofRanges (runRanges keep runs.toList)

/-- The set without a member. -/
def empty : CharSet := ⟨[]⟩

/-- The set of all characters. -/
def all : CharSet := ⟨[(0, lastCode)]⟩

/-- The set of one character. -/
def single (character : Char) : CharSet := ⟨[(character.toNat, character.toNat)]⟩

/-- The characters from the first to the last. -/
def range (first last : Char) : CharSet := ofRanges [(first.toNat, last.toNat)]

/-- The characters of ASCII. -/
def ascii : CharSet := ⟨[(0, 0x7F)]⟩

/-! ## Joining sets -/

/-- The members of either set. -/
def union (left right : CharSet) : CharSet := ofRanges (left.ranges ++ right.ranges)

/-- The members of any of the sets. -/
def unions (sets : List CharSet) : CharSet := ofRanges (sets.flatMap CharSet.ranges)

/-- The ranges between those given, from a code point on. -/
def gaps (next : Nat) : List (Nat × Nat) → List (Nat × Nat)
  | [] => if next ≤ lastCode then [(next, lastCode)] else []
  | (first, last) :: rest =>
      if next < first then (next, first - 1) :: gaps (last + 1) rest else gaps (last + 1) rest

/-- Whether a range holds a character and not surrogates alone. -/
def holdsCharacter (range : Nat × Nat) : Bool :=
  range.1 < 0xD800 || 0xDFFF < range.2

/-- All other characters. -/
def complement (set : CharSet) : CharSet := ⟨(gaps 0 set.ranges).filter holdsCharacter⟩

/-- What two lists of ranges have in common. -/
def overlap : List (Nat × Nat) → List (Nat × Nat) → List (Nat × Nat)
  | (first, last) :: left, (first', last') :: right =>
      let rest :=
        if last < last' then overlap left ((first', last') :: right)
        else overlap ((first, last) :: left) right
      if max first first' ≤ min last last' then (max first first', min last last') :: rest
      else rest
  | _, _ => []
termination_by left right => left.length + right.length

/-- The members of both sets. -/
def intersection (left right : CharSet) : CharSet := ⟨overlap left.ranges right.ranges⟩

/-- The members of the first set that are none of the second one. -/
def difference (left right : CharSet) : CharSet := left.intersection right.complement

/-- The members of one of two sets but not of the other. -/
def symmetricDifference (left right : CharSet) : CharSet :=
  (left.difference right).union (right.difference left)

/-! ## Looking at sets -/

/-- The only member, if there is but one. -/
def only? (set : CharSet) : Option Char :=
  match set.ranges with
  | [(first, last)] => if first = last then some (Char.ofNat first) else none
  | _ => none

/-- Whether no member lies outside ASCII. -/
def isAscii (set : CharSet) : Bool :=
  set.ranges.all fun range => range.2 < 0x80

end CharSet

end AccessRules.Text
