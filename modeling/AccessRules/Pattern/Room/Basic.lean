/-!
# Room

The room that the program of a pattern takes: a number of states, and what some of them take beyond
that. The limits are stated in bytes.
-/

namespace AccessRules.Pattern

/-- The direction in which a program reads a text. -/
inductive Direction where
  | forward
  | backward
deriving DecidableEq, Repr

/-- The room that has been taken: the number of states, and the bytes that they take beyond their
own size. -/
structure Room where
  states : Nat
  extra : Nat
deriving DecidableEq, Repr

namespace Room

/-- Nothing taken yet. -/
def empty : Room := ⟨0, 0⟩

/-- The bytes of a state. -/
def stateSize : Nat := 32

/-- The bytes of an edge, which leads from one state to another on a range of bytes. -/
def edgeSize : Nat := 8

/-- The bytes of a branch, which leads from one state to another on nothing. -/
def branchSize : Nat := 4

/-- The bytes that may be taken. -/
def limit : Nat := 10 * Nat.pow 2 20

/-- Whether the room that has been taken lies within the limit. -/
def isEnough (room : Room) : Bool :=
  stateSize * room.states + room.extra ≤ limit

/-- Takes room for some states. -/
def takeStates (count : Nat) (room : Room) : Room :=
  { room with states := room.states + count }

/-- Takes room for some edges. -/
def takeEdges (count : Nat) (room : Room) : Room :=
  { room with extra := room.extra + edgeSize * count }

/-- Takes room for some branches. -/
def takeBranches (count : Nat) (room : Room) : Room :=
  { room with extra := room.extra + branchSize * count }

/-- Takes room for the same thing again and again, as long as there is enough. -/
def takeTimes (take : Room → Room) : Nat → Room → Room
  | 0, room => room
  | more + 1, room => if room.isEnough then takeTimes take more (take room) else room

end Room

end AccessRules.Pattern
