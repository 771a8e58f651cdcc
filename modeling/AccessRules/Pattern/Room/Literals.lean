import AccessRules.Pattern.Room.Basic
import AccessRules.Text.Utf8

/-!
# Room for literals

A choice between literals is laid out as one tree of their bytes, in which literals share what they
begin with. The order of preference is kept: what comes behind a literal that ends stands in a group
of its own.
-/

namespace AccessRules.Pattern

/-- A tree of bytes. Its groups of edges stand last first; every group but the first one follows a
literal that ends here. -/
inductive ByteTree where
  | node (groups : List (List (Nat × ByteTree)))

namespace ByteTree

/-- The tree without a literal. -/
def empty : ByteTree := .node [[]]

/-- The groups of a tree. -/
def groups : ByteTree → List (List (Nat × ByteTree))
  | .node groups => groups

/-- Whether nothing goes on from here. -/
def isLeaf (tree : ByteTree) : Bool := tree.groups.all List.isEmpty

/-- A tree in which a literal ends here. -/
def ended (tree : ByteTree) : ByteTree :=
  if tree.isLeaf && 1 < tree.groups.length then tree else .node ([] :: tree.groups)

/-- What an edge of the current group leads to. -/
def behind (byte : Nat) (tree : ByteTree) : ByteTree :=
  ((tree.groups.headD []).lookup byte).getD empty

/-- A tree whose current group leads to another tree. -/
def withBehind (byte : Nat) (child tree : ByteTree) : ByteTree :=
  let group := tree.groups.headD []
  .node (((byte, child) :: group.filter fun edge => edge.1 != byte) :: tree.groups.tail)

/-- Adds the bytes of a literal. -/
def insert : List Nat → ByteTree → ByteTree
  | [], tree => tree.ended
  | byte :: rest, tree => tree.withBehind byte (insert rest (tree.behind byte))

mutual

/-- Takes room for a tree: a state for each group with edges, and one that branches to the groups
and to the end. -/
def take : ByteTree → Room → Room
  | .node groups, room =>
      let filled := (groups.filter fun group => !group.isEmpty).length
      ((takeGroups groups room).takeStates 1).takeBranches (filled + (groups.length - 1))

/-- Takes room for the groups of a tree. -/
def takeGroups : List (List (Nat × ByteTree)) → Room → Room
  | [], room => room
  | group :: groups, room =>
      let room := takeEdges group room
      let room := if group.isEmpty then room else room.takeStates 1
      takeGroups groups (if group.length < 2 then room else room.takeEdges group.length)

/-- Takes room for the trees that edges lead to; a leaf needs none of its own. -/
def takeEdges : List (Nat × ByteTree) → Room → Room
  | [], room => room
  | (_, child) :: edges, room => takeEdges edges (if child.isLeaf then room else take child room)

end

end ByteTree

/-- The bytes of a literal in the order in which they are read. -/
def Direction.bytes (direction : Direction) (text : List Char) : List Nat :=
  match direction with
  | .forward => text.flatMap Text.Utf8.bytes
  | .backward => (text.flatMap Text.Utf8.bytes).reverse

/-- Takes room for a choice between literals: the state at their end, and the tree. -/
def Room.takeLiterals (direction : Direction) (texts : List (List Char)) (room : Room) : Room :=
  (texts.foldl (fun tree text => tree.insert (direction.bytes text)) ByteTree.empty).take
    (room.takeStates 1)

end AccessRules.Pattern
