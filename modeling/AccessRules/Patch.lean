import AccessRules.Decimal.Reading
import AccessRules.Json.Basic
import AccessRules.Text.Blank

/-!
# Patches

A patch path such as `a.b[2].c` leads through a document by keys and array positions. Setting a
value at a path creates what is missing on the way and replaces scalars that stand in it.
-/

namespace AccessRules.Patch

/-- One step of a path. -/
inductive Segment where
  | key (key : String)
  | position (index : Nat)
deriving DecidableEq, Repr

/-- Positions that can be written in a path: those of a 64-bit machine. -/
def positionBound : Nat := UInt64.size

/-- The highest position a patch may lead to. -/
def greatestPosition : Nat := 4096

/-- The parts of a path between dots. -/
def splitDots : List Char → List (List Char)
  | [] => [[]]
  | '.' :: rest => [] :: splitDots rest
  | character :: rest =>
      match splitDots rest with
      | [] => [[character]]
      | part :: parts => (character :: part) :: parts

/-- The step between two brackets: a position if it is a number, blanks at its ends aside, and a key
otherwise. -/
def bracketed (inside : List Char) : Segment :=
  match Decimal.natural? positionBound (Text.trimChars inside) with
  | some index => .position index
  | none => .key (String.ofList inside)

theorem length_lt_of_dropWhile_eq_cons {accepts : Char → Bool} {text behind : List Char}
    {first : Char} (h : text.dropWhile accepts = first :: behind) :
    behind.length < text.length := by
  have := (List.dropWhile_suffix accepts (l := text)).length_le
  rw [h, List.length_cons] at this
  omega

/-- The steps in brackets at the front of a part; what follows the last one does not count, and
neither does a bracket that is not closed. -/
def bracketSegments : List Char → List Segment
  | '[' :: rest =>
      match closed : rest.dropWhile (· != ']') with
      | _ :: behind =>
          have := length_lt_of_dropWhile_eq_cons closed
          bracketed (rest.takeWhile (· != ']')) :: bracketSegments behind
      | [] => []
  | _ => []
termination_by text => text.length

/-- The steps of a part: a key, unless it is empty, and what stands in brackets. -/
def partSegments (part : List Char) : List Segment :=
  let key := part.takeWhile (· != '[')
  (if key.isEmpty then [] else [.key (String.ofList key)])
    ++ bracketSegments (part.dropWhile (· != '['))

/-- The steps of a path. -/
def segments (path : String) : List Segment :=
  (splitDots path.toList).flatMap partSegments

/-- The items with nulls added up to a number of them. -/
def extend (items : List Json) (count : Nat) : List Json :=
  items ++ List.replicate (count - items.length) .null

/-- The document with a value at the end of the steps, or the position that is out of range. What
stands in the way of a step and is no container of its kind is replaced by an empty one. -/
def setAt (value : Json) : List Segment → Json → Except Nat Json
  | [], _ => .ok value
  | .position index :: rest, document =>
      let items := match document with
        | .array items => items
        | _ => []
      if greatestPosition < index then .error index
      else
        let items := extend items (index + 1)
        match setAt value rest ((items[index]?).getD .null) with
        | .ok child => .ok (.array (items.set index child))
        | .error index => .error index
  | .key key :: rest, document =>
      let fields := match document with
        | .object fields => fields
        | _ => []
      match setAt value rest ((fields.lookup key).getD .null) with
      | .ok child => .ok (.object (Json.setField key child fields))
      | .error index => .error index

/-- The document with a value set at a path, or the position that is out of range. -/
def setPath (document : Json) (path : String) (value : Json) : Except Nat Json :=
  setAt value (segments path) document

end AccessRules.Patch
