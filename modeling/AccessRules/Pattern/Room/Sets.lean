import AccessRules.Pattern.Room.Basic
import AccessRules.Text.Utf8

/-!
# Room for sets

A set of characters is laid out as states over bytes. States that lead to the same places are
shared, as far as they are remembered: there is only so much memory, and what is new takes the place
of what was there.
-/

namespace AccessRules.Pattern

open Text (CharSet)
open Text.Utf8 (ByteRange)

/-! ## Memory -/

/-- A memory with a number of places; in a place stand a key and the state that is remembered for
it. -/
abbrev Memory := Array (Option (List Nat × Nat))

namespace Memory

/-- A memory in which nothing stands. -/
def blank (places : Nat) : Memory := Array.replicate places none

/-- The place of a key, which mixes its numbers. -/
def placeOf (memory : Memory) (key : List Nat) : Nat :=
  let mixed : UInt64 := key.foldl (fun mixed number => (mixed ^^^ number.toUInt64) * 1099511628211)
    14695981039346656037
  mixed.toNat % memory.size

/-- The state that is remembered for a key. -/
def remembered? (memory : Memory) (key : List Nat) : Option Nat :=
  match memory[memory.placeOf key]? with
  | some (some (other, state)) => if other = key then some state else none
  | _ => none

/-- Remembers a state for a key. -/
def remember (key : List Nat) (state : Nat) (memory : Memory) : Memory :=
  memory.setIfInBounds (memory.placeOf key) (some (key, state))

end Memory

/-- A layout under way: the room taken, and the states that may be shared. -/
structure Layout where
  room : Room
  memory : Memory

/-! ## Forward -/

/-- An edge to a state. -/
structure Edge where
  bytes : ByteRange
  next : Nat

/-- The numbers of an edge. -/
def Edge.key (edge : Edge) : List Nat := [edge.bytes.1, edge.bytes.2, edge.next]

/-- A state that is not finished: its edges so far, and the range of the edge that leads to what is
being laid out. -/
structure Growth where
  edges : List Edge
  bytes : ByteRange

namespace Layout

/-- The state with the given edges, which may be remembered. -/
def shared (edges : List Edge) (layout : Layout) : Nat × Layout :=
  let key := edges.flatMap Edge.key
  match layout.memory.remembered? key with
  | some state => (state, layout)
  | none =>
      let state := layout.room.states
      (state,
        { room := (layout.room.takeStates 1).takeEdges edges.length
          memory := layout.memory.remember key state })

/-- Finishes unfinished states, the last of which leads to the goal, and tells the first one. -/
def finish (goal : Nat) : List Growth → Layout → Nat × Layout
  | [], layout => (goal, layout)
  | growth :: deeper, layout =>
      let (next, layout) := finish goal deeper layout
      shared (growth.edges ++ [⟨growth.bytes, next⟩]) layout

/-- Lays out one more sequence of byte ranges: where it goes ways of its own, the unfinished states
of the sequence before are finished. -/
def extend (goal : Nat) : List Growth → List ByteRange → Layout → List Growth × Layout
  | growth :: deeper, bytes :: rest, layout =>
      if growth.bytes = bytes then
        let (deeper, layout) := extend goal deeper rest layout
        (growth :: deeper, layout)
      else
        let (next, layout) := finish goal deeper layout
        (⟨growth.edges ++ [⟨growth.bytes, next⟩], bytes⟩ :: rest.map (Growth.mk []), layout)
  | [], rest, layout => (rest.map (Growth.mk []), layout)
  | growths, [], layout => (growths, layout)

end Layout

/-- The number of states that are remembered forward. -/
def forwardPlaces : Nat := 10000

/-- Takes room for a set that is read forward. -/
def Room.takeForward (set : CharSet) (room : Room) : Room :=
  let goal := room.states
  let (growths, layout) := (Text.Utf8.sequences set).foldl
    (fun (growths, layout) ranges => Layout.extend goal growths ranges layout)
    ([], ⟨room.takeStates 1, .blank forwardPlaces⟩)
  (Layout.finish goal growths layout).2.room

/-! ## Backward -/

/-- Lays out the state that leads to another one on a range of bytes, unless it is remembered. -/
def Layout.before (state : Nat) (bytes : ByteRange) (layout : Layout) : Nat × Layout :=
  let key := [state, bytes.1, bytes.2]
  match layout.memory.remembered? key with
  | some state => (state, layout)
  | none =>
      let state := layout.room.states
      (state,
        { room := layout.room.takeStates 1, memory := layout.memory.remember key state })

/-- Lays out a sequence of byte ranges that is read from its end, and a branch to it. -/
def Layout.branch (goal : Nat) (ranges : List ByteRange) (layout : Layout) : Layout :=
  let (_, layout) := ranges.foldl (fun (state, layout) bytes => layout.before state bytes)
    (goal, layout)
  { layout with room := layout.room.takeBranches 1 }

/-- The number of states that are remembered backward. -/
def backwardPlaces : Nat := 1000

/-- Takes room for a set that is read backward: a state that branches to the sequences, and the
state after them. -/
def Room.takeBackward (set : CharSet) (room : Room) : Room :=
  let goal := room.states + 1
  let start : Layout := ⟨room.takeStates 2, .blank backwardPlaces⟩
  ((Text.Utf8.sequences set).foldl (fun layout ranges => layout.branch goal ranges) start).room

/-! ## Either way -/

/-- Takes room for a set; within ASCII one state holds all its edges. -/
def Room.takeSet (direction : Direction) (set : CharSet) (room : Room) : Room :=
  if set.isAscii then (room.takeStates 2).takeEdges set.ranges.length
  else
    match direction with
    | .forward => room.takeForward set
    | .backward => room.takeBackward set

end AccessRules.Pattern
