import AccessRules.Pattern.Bracket
import AccessRules.Pattern.Room.Nodes

/-!
# Reading patterns

Patterns are read in one pass with a stack of open groups. Flags hold from where they are set to the
end of the group, also across the choices in it. There is no looking around: patterns that ask for
it are refused, and so is everything without a meaning, what nests too deep and what would take too
much room.
-/

namespace AccessRules.Pattern.Parser

/-! ## Groups and repetitions -/

/-- An item that has been read: its node, which is missing for flags, and how deep it nests. -/
structure Item where
  node : Option Node
  depth : Nat

/-- A group that is open: its number if it is kept, and what surrounds it. -/
structure Group where
  index : Option Nat
  flags : Flags
  choices : List Item
  items : List Item

/-- A pattern that is being read. Choices and items are kept last first. -/
structure State where
  rest : List Char
  flags : Flags
  choices : List Item
  items : List Item
  groups : List Group
  count : Nat
  names : List (List Char)

/-- The depth of something that holds items. -/
def depthAround (items : List Item) : Nat :=
  items.foldl (fun depth item => max depth item.depth) 0 + 1

/-- The items of a choice in a row. -/
def inRow (items : List Item) : Item :=
  let node := Node.inRow (items.filterMap Item.node).reverse
  match items with
  | [] => ⟨some node, 0⟩
  | [item] => ⟨some node, item.depth⟩
  | items => ⟨some node, depthAround items⟩

/-- The node of an item; flags match the empty text. -/
def Item.nodeOrEmpty (item : Item) : Node := item.node.getD .empty

/-- The choices of a group. -/
def among (choices : List Item) (items : List Item) : Item :=
  match choices with
  | [] => inRow items
  | choices =>
      let choices := inRow items :: choices
      ⟨some (Node.among (choices.map Item.nodeOrEmpty).reverse), depthAround choices⟩

/-- The state with a further item. -/
def State.push (node : Node) (depth : Nat) (rest : List Char) (state : State) : State :=
  { state with items := ⟨some node, depth⟩ :: state.items, rest := rest }

/-- Flags up to a colon or a closing parenthesis: the flags, that character, and whether there were
any. -/
def groupFlags? (flags : Flags) (negated pending : Bool) (seen : List Char) :
    List Char → Option (Flags × Char × Bool × List Char)
  | [] => none
  | letter :: rest =>
      if letter = ':' ∨ letter = ')' then
        if pending then none else some (flags, letter, !(seen.isEmpty && !negated), rest)
      else if letter = '-' then
        if negated then none else groupFlags? flags true true seen rest
      else if seen.contains letter then none
      else
        match flags.set? letter (!negated) with
        | some flags => groupFlags? flags negated false (letter :: seen) rest
        | none => none

/-- Whether a character may stand in the name of a group. -/
def isGroupNamePart (first : Bool) (character : Char) : Bool :=
  character == '_' || Text.isAlphabetic character
    || (!first && (character == '.' || character == '[' || character == ']'
      || (Text.category character).major == 'N'))

/-- The name of a group up to its closing angle. -/
def groupName? (text : List Char) : Option (List Char × List Char) :=
  let name := text.takeWhile (· != '>')
  match name, text.dropWhile (· != '>') with
  | first :: others, _ :: rest =>
      if isGroupNamePart true first && others.all (isGroupNamePart false) then some (name, rest)
      else none
  | _, _ => none

/-- Opens a group that is kept. -/
def State.openKept (state : State) (rest : List Char) : State :=
  { state with
    rest := rest
    choices := []
    items := []
    groups := ⟨some (state.count + 1), state.flags, state.choices, state.items⟩ :: state.groups
    count := state.count + 1 }

/-- Opens a named group. -/
def openNamed? (state : State) (text : List Char) : Option State :=
  match groupName? text with
  | none => none
  | some (name, rest) =>
      if state.names.contains name then none
      else some { state.openKept rest with names := name :: state.names }

/-- Opens a group, its parenthesis passed, or sets flags. -/
def openGroup? (state : State) (text : List Char) : Option State :=
  match state.flags.skip text with
  | '?' :: '=' :: _ => none
  | '?' :: '!' :: _ => none
  | '?' :: '<' :: '=' :: _ => none
  | '?' :: '<' :: '!' :: _ => none
  | '?' :: 'P' :: '<' :: rest => openNamed? state rest
  | '?' :: '<' :: rest => openNamed? state rest
  | '?' :: rest =>
      match groupFlags? state.flags false false [] rest with
      | none => none
      | some (flags, ')', given, rest) =>
          if given then
            some { state with flags := flags, items := ⟨none, 0⟩ :: state.items, rest := rest }
          else none
      | some (flags, _, _, rest) =>
          some { state with
            rest := rest
            flags := flags
            choices := []
            items := []
            groups := ⟨none, state.flags, state.choices, state.items⟩ :: state.groups }
  | rest => some (state.openKept rest)

/-- Closes the innermost group. -/
def closeGroup? (state : State) (rest : List Char) : Option State :=
  match state.groups with
  | [] => none
  | group :: groups =>
      let inner := among state.choices state.items
      let node := match group.index with
        | some index => Node.group index inner.nodeOrEmpty
        | none => inner.nodeOrEmpty
      some { state with
        rest := rest
        flags := group.flags
        choices := group.choices
        items := ⟨some node, inner.depth + 1⟩ :: group.items
        groups := groups }

/-- Repeats the last item; flags and nothing cannot be repeated. A question mark behind makes it
prefer fewer times. -/
def repeatLast? (state : State) (least : Nat) (most : Option Nat) (rest : List Char) :
    Option State :=
  let (lazy, rest) := match rest with
    | '?' :: rest => (true, rest)
    | rest => (false, rest)
  match state.items with
  | ⟨some node, depth⟩ :: items =>
      let greedy := lazy == state.flags.swapGreed
      let repeated := node.times least most greedy
      some { state with items := ⟨some repeated, depth + 1⟩ :: items, rest := rest }
  | _ => none

/-- A number below `2 ^ 32` with blanks around it. -/
def decimal? (flags : Flags) (text : List Char) : Option Nat × List Char :=
  let (digits, rest) := flags.span (fun character => '0' ≤ character && character ≤ '9')
    (text.dropWhile Text.isBlank)
  let value := digits.foldl (fun number digit => number * 10 + (digit.toNat - '0'.toNat)) 0
  (if digits.isEmpty || UInt32.size ≤ value then none else some value,
    flags.skip (rest.dropWhile Text.isBlank))

/-- A counted repetition, its brace passed. -/
def counted? (state : State) (text : List Char) : Option State :=
  let flags := state.flags
  match decimal? flags (flags.skip text) with
  | (some least, '\x7d' :: rest) => repeatLast? state least (some least) (flags.skip rest)
  | (some least, ',' :: rest) =>
      match flags.skip rest with
      | '\x7d' :: rest => repeatLast? state least none (flags.skip rest)
      | rest =>
          match decimal? flags rest with
          | (some most, '\x7d' :: rest) =>
              if least ≤ most then repeatLast? state least (some most) (flags.skip rest) else none
          | _ => none
  | _ => none

/-! ## Patterns -/

/-- A character as a node. -/
def literal (flags : Flags) (character : Char) : Node :=
  .ofSet (flags.fold (.single character))

/-- A place as a node; only places that ask for words tell their kinds apart. -/
def place (flags : Flags) (here : Place) : Node :=
  .place (here.asksForWords && !flags.unicode) here

/-- What an escape stands for as a node. -/
def escapeNode (flags : Flags) : Escape → Node
  | .literal character => literal flags character
  | .set members => .ofSet members
  | .place here => place flags here

/-- The place of a caret. -/
def caret (flags : Flags) : Place :=
  if !flags.multiLine then .textStart
  else if flags.carriageReturns then .anyLineStart
  else .lineStart

/-- The place of a dollar sign. -/
def dollar (flags : Flags) : Place :=
  if !flags.multiLine then .textEnd
  else if flags.carriageReturns then .anyLineEnd
  else .lineEnd

/-- Reads one item of a pattern that is not at its end. -/
def item? (state : State) (character : Char) (rest : List Char) : Option State :=
  let flags := state.flags
  match character with
  | '(' => openGroup? state rest
  | ')' => closeGroup? state rest
  | '|' =>
      some { state with rest := rest, choices := inRow state.items :: state.choices, items := [] }
  | '[' =>
      (Bracket.read? flags rest).map fun (set, rest) =>
        state.push (.ofSet set.members) set.depth rest
  | '?' => repeatLast? state 0 (some 1) rest
  | '*' => repeatLast? state 0 none rest
  | '+' => repeatLast? state 1 none rest
  | '\x7b' =>
      match state.items with
      | ⟨some _, _⟩ :: _ => counted? state rest
      | _ => none
  | '\\' =>
      (Escape.read? flags rest).map fun (escape, rest) =>
        state.push (escapeNode flags escape) 0 rest
  | '.' => if flags.unicode then some (state.push (.ofSet flags.dot) 0 rest) else none
  | '^' => some (state.push (place flags (caret flags)) 0 rest)
  | '$' => some (state.push (place flags (dollar flags)) 0 rest)
  | character => some (state.push (literal flags character) 0 rest)

/-- How deep items may nest. -/
def greatestDepth : Nat := 250

/-- The node of a whole pattern, unless it nests too deep or its programs take too much room. -/
def confine? (item : Item) : Option Node :=
  let node := item.nodeOrEmpty
  if item.depth ≤ greatestDepth ∧ node.fits then some node else none

/-- Reads a pattern to its end. -/
def toEnd (state : State) : Option Node :=
  match state.flags.skip state.rest with
  | [] => if state.groups.isEmpty then confine? (among state.choices state.items) else none
  | character :: rest =>
      match item? state character rest with
      | none => none
      | some next => if next.rest.length < state.rest.length then toEnd next else none
termination_by state.rest.length

end Parser

/-- The pattern a text is, if it is one. -/
def parse? (text : String) : Option Node :=
  Parser.toEnd ⟨text.toList, .default, [], [], [], 0, []⟩

end AccessRules.Pattern
