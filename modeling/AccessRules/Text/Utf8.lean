import AccessRules.Text.CharSet

/-!
# Bytes of characters

How characters are written as bytes: one byte within ASCII, else a first byte that tells how many
follow, and up to three bytes that hold six bits each. A set of characters is a list of sequences of
byte ranges.
-/

namespace AccessRules.Text.Utf8

/-- A range of bytes, its first and its last one. -/
abbrev ByteRange := Nat × Nat

/-- What is added to the six bits of a byte that is not the first. -/
def continuationMark : Nat := 0x80

/-- The bytes that may follow the first one. -/
def anyContinuation : ByteRange := (0x80, 0xBF)

/-- The sequences of byte ranges for the numbers from `first` to `last`, written in a leading byte
and as many others as given. The leading byte is marked. -/
def rangesFrom (mark : Nat) : Nat → Nat → Nat → List (List ByteRange)
  | 0, first, last => [[(mark + first, mark + last)]]
  | more + 1, first, last =>
      let size := Nat.pow 64 (more + 1)
      let low := first / size
      let high := last / size
      let under (lead : Nat) (rests : List (List ByteRange)) : List (List ByteRange) :=
        rests.map fun rest => (mark + lead, mark + lead) :: rest
      if low = high then under low (rangesFrom continuationMark more (first % size) (last % size))
      else
        let fromStart := first % size = 0
        let toEnd := last % size = size - 1
        let front := if fromStart then []
          else under low (rangesFrom continuationMark more (first % size) (size - 1))
        let back := if toEnd then []
          else under high (rangesFrom continuationMark more 0 (last % size))
        let lowFull := if fromStart then low else low + 1
        let highFull := if toEnd then high else high - 1
        let middle := if lowFull ≤ highFull then
            [(mark + lowFull, mark + highFull) :: List.replicate (more + 1) anyContinuation]
          else []
        front ++ middle ++ back

/-- The ranges of characters that are written alike: the number of bytes behind the first one, the
mark of the first one, and the characters. Surrogates are left out. -/
def lengthClasses : List (Nat × Nat × (Nat × Nat)) :=
  [ (0, 0, (0, 0x7F)), (1, 0xC0, (0x80, 0x7FF)), (2, 0xE0, (0x800, 0xD7FF)),
    (2, 0xE0, (0xE000, 0xFFFF)), (3, 0xF0, (0x10000, 0x10FFFF)) ]

/-- The sequences of byte ranges of a set, in the order of the characters. -/
def sequences (set : CharSet) : List (List ByteRange) :=
  lengthClasses.flatMap fun (more, mark, range) =>
    (CharSet.overlap set.ranges [range]).flatMap fun (first, last) =>
      rangesFrom mark more first last

/-- The bytes of a character. -/
def bytes (character : Char) : List Nat :=
  match sequences (.single character) with
  | [ranges] => ranges.map Prod.fst
  | _ => []

end AccessRules.Text.Utf8
