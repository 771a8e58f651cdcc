import AccessRules.Pattern.Escape

/-!
# Sets in brackets

A set in brackets is read in one pass, with a stack of the brackets that are open. Operators between
sets bind alike and apply from left to right; each side of an operator is closed under case before
it applies, and a bracket before it is negated.
-/

namespace AccessRules.Pattern

open Text (CharSet)

/-- What joins two sets. -/
inductive SetOperator where
  | intersection
  | difference
  | symmetricDifference
deriving DecidableEq, Repr

/-- The members of the joined set. -/
def SetOperator.apply (operator : SetOperator) (left right : CharSet) : CharSet :=
  match operator with
  | .intersection => left.intersection right
  | .difference => left.difference right
  | .symmetricDifference => left.symmetricDifference right

/-- A set, and how deep what it was read from nests. -/
structure NestedSet where
  members : CharSet
  depth : Nat

/-- A bracket that is open: whether it is negated, what stands before the last operator in it, and
the items since then with their number. -/
structure Bracket where
  negated : Bool
  before : Option (NestedSet × SetOperator)
  items : NestedSet
  count : Nat

namespace Bracket

/-- A bracket without items. -/
def opened (negated : Bool) : Bracket := ⟨negated, none, ⟨.empty, 0⟩, 0⟩

/-- A bracket with a further item. -/
def add (bracket : Bracket) (item : NestedSet) : Bracket :=
  { bracket with
    items := ⟨bracket.items.members.union item.members, max bracket.items.depth item.depth⟩
    count := bracket.count + 1 }

/-- The items since the last operator; two or more of them nest once more. -/
def side (bracket : Bracket) : NestedSet :=
  if bracket.count < 2 then bracket.items
  else { bracket.items with depth := bracket.items.depth + 1 }

/-- What a bracket holds so far, its last operator applied. -/
def joined (flags : Flags) (bracket : Bracket) : NestedSet :=
  let right := bracket.side
  match bracket.before with
  | none => right
  | some (left, operator) =>
      ⟨operator.apply (flags.fold left.members) (flags.fold right.members),
        max left.depth right.depth + 1⟩

/-- A bracket in which an operator follows what has been read. -/
def follow (flags : Flags) (bracket : Bracket) (operator : SetOperator) : Bracket :=
  { opened bracket.negated with before := some (bracket.joined flags, operator) }

/-- The set of a bracket at its end. -/
def close? (flags : Flags) (bracket : Bracket) : Option NestedSet :=
  let joined := bracket.joined flags
  (flags.negate? bracket.negated (flags.fold joined.members)).map fun members =>
    ⟨members, joined.depth + 1⟩

/-! ## Opening -/

/-- Hyphens at the front, which are items. -/
def leadingHyphens (flags : Flags) (bracket : Bracket) (text : List Char) : Bracket × List Char :=
  match text with
  | '-' :: rest => leadingHyphens flags (bracket.add ⟨.single '-', 0⟩) (flags.skip rest)
  | text => (bracket, text)
termination_by text.length
decreasing_by exact Nat.lt_succ_of_le (flags.length_skip_le rest)

/-- Opens a bracket, its first character passed: a caret negates it, and a closing bracket that
comes first is an item. -/
def openFirst (flags : Flags) (text : List Char) : Bracket × List Char :=
  let (negated, text) := match flags.skip text with
    | '^' :: rest => (true, flags.skip rest)
    | text => (false, text)
  match leadingHyphens flags (opened negated) text with
  | (bracket, ']' :: rest) =>
      if bracket.count = 0 then (bracket.add ⟨.single ']', 0⟩, flags.skip rest)
      else (bracket, ']' :: rest)
  | (bracket, text) => (bracket, text)

/-! ## Items -/

/-- A class of ASCII in brackets and colons, its opening bracket passed, and whether it is negated.
-/
def asciiClass? (text : List Char) : Option (CharSet × Bool × List Char) :=
  match text with
  | ':' :: rest =>
      let (negated, rest) := match rest with
        | '^' :: rest => (true, rest)
        | rest => (false, rest)
      match rest.dropWhile (· != ':') with
      | ':' :: ']' :: behind =>
          (asciiByName? (rest.takeWhile (· != ':'))).map fun members => (members, negated, behind)
      | _ => none
  | _ => none

/-- A character as an item; without Unicode, those outside ASCII are refused. -/
def literal? (flags : Flags) (character : Char) : Option Escape :=
  if flags.unicode || character.toNat < 0x80 then some (.literal character) else none

/-- One character or set. Places are no items. -/
def item? (flags : Flags) (text : List Char) : Option (Escape × List Char) :=
  match text with
  | [] => none
  | '\\' :: rest =>
      match Escape.read? flags rest with
      | some (.literal character, rest) => (literal? flags character).map (·, rest)
      | some (.set members, rest) => some (.set members, rest)
      | _ => none
  | character :: rest => (literal? flags character).map (·, rest)

/-- The characters that an escape stands for. -/
def alone : Escape → CharSet
  | .literal character => .single character
  | .set members => members
  | .place _ => .empty

/-- The characters between two escapes that are characters and stand in order. -/
def between? : Escape → Escape → Option CharSet
  | .literal first, .literal last => if first ≤ last then some (.range first last) else none
  | _, _ => none

/-- One item or a range of characters. A hyphen before a closing bracket or another hyphen makes no
range. -/
def range? (flags : Flags) (text : List Char) : Option (CharSet × List Char) :=
  match item? flags text with
  | none => none
  | some (first, rest) =>
      match flags.skip rest with
      | [] => none
      | '-' :: behind =>
          if flags.peek? behind = some ']' ∨ flags.peek? behind = some '-' then
            some (alone first, '-' :: behind)
          else
            match item? flags (flags.skip behind) with
            | some (last, rest) => (between? first last).map (·, rest)
            | none => none
      | rest => some (alone first, rest)

/-! ## Reading -/

/-- The brackets that are open, the innermost first, and the text that follows. -/
structure Open where
  inner : Bracket
  outer : List Bracket
  rest : List Char

/-- Reads on by one item, operator or bracket; the last bracket to be closed gives the whole set. -/
def step? (flags : Flags) (state : Open) : Option (Open ⊕ (NestedSet × List Char)) :=
  match flags.skip state.rest with
  | [] => none
  | '[' :: rest =>
      match asciiClass? rest with
      | some (members, negated, rest) =>
          (flags.negate? negated (flags.fold members)).map fun members =>
            .inl { state with inner := state.inner.add ⟨members, 0⟩, rest := rest }
      | none =>
          let (inner, rest) := openFirst flags rest
          some (.inl ⟨inner, state.inner :: state.outer, rest⟩)
  | ']' :: rest =>
      match state.inner.close? flags, state.outer with
      | some closed, parent :: outer => some (.inl ⟨parent.add closed, outer, rest⟩)
      | some closed, [] => some (.inr (closed, rest))
      | none, _ => none
  | '&' :: '&' :: rest =>
      some (.inl { state with inner := state.inner.follow flags .intersection, rest })
  | '-' :: '-' :: rest =>
      some (.inl { state with inner := state.inner.follow flags .difference, rest })
  | '~' :: '~' :: rest =>
      some (.inl { state with inner := state.inner.follow flags .symmetricDifference, rest })
  | text =>
      (range? flags text).map fun (members, rest) =>
        .inl { state with inner := state.inner.add ⟨members, 0⟩, rest := rest }

/-- Reads to the end of the outermost bracket. -/
def toEnd? (flags : Flags) (state : Open) : Option (NestedSet × List Char) :=
  match step? flags state with
  | none => none
  | some (.inr closed) => some closed
  | some (.inl next) =>
      if next.rest.length < state.rest.length then toEnd? flags next else none
termination_by state.rest.length

/-- The set in brackets, the opening one passed, and what follows it. -/
def read? (flags : Flags) (text : List Char) : Option (NestedSet × List Char) :=
  let (bracket, rest) := openFirst flags text
  toEnd? flags ⟨bracket, [], rest⟩

end Bracket

end AccessRules.Pattern
