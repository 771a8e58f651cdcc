import AccessRules.Pattern.Basic
import AccessRules.Pattern.Room.Literals
import AccessRules.Pattern.Room.Sets

/-!
# Room for patterns

A pattern needs room for a program that reads forward and for one that reads backward. Patterns
whose programs do not fit are refused, so that counted repetitions cannot multiply without bound.
-/

namespace AccessRules.Pattern

open Text (CharSet)

namespace Room

/-- Takes room for what may come once or not at all: a branch before it and a state behind it. -/
def takeOptional (take : Room → Room) (room : Room) : Room :=
  ((take (room.takeStates 1)).takeStates 1).takeBranches 2

/-- Takes room for what may come any number of times, but at least so often. What may pass over
nothing needs two branches where it need not come. -/
def takeUnbounded (take : Room → Room) (mayBeEmpty : Bool) (least : Nat) (room : Room) : Room :=
  match least with
  | 0 =>
      if mayBeEmpty then ((take room).takeStates 3).takeBranches 4
      else (take (room.takeStates 1)).takeBranches 2
  | more + 1 => ((take (takeTimes take more room)).takeStates 1).takeBranches 2

/-- Takes room for what comes so often, and up to so many times more. -/
def takeBounded (take : Room → Room) (least more : Nat) (room : Room) : Room :=
  let room := if least = 0 then room.takeStates 1 else takeTimes take least room
  if more = 0 then room
  else takeTimes (fun room => (take (room.takeStates 1)).takeBranches 2) more (room.takeStates 1)

/-- Takes room for a repetition. -/
def takeRepeated (take : Room → Room) (mayBeEmpty : Bool) (least : Nat) (most : Option Nat)
    (room : Room) : Room :=
  match most with
  | none => takeUnbounded take mayBeEmpty least room
  | some most =>
      if least = 0 ∧ most = 1 then takeOptional take room
      else takeBounded take least (most - least) room

end Room

namespace Node

/-- The text of a literal. -/
def text? : Node → Option (List Char)
  | .literal text => some text
  | _ => none

mutual

/-- Takes room for a node. Groups are noted forward only. -/
def takeRoom (direction : Direction) : Node → Room → Room
  | .empty, room => room.takeStates 1
  | .literal text, room => room.takeStates (direction.bytes text).length
  | .set members, room => room.takeSet direction members
  | .place _ _, room => room.takeStates 1
  | .repeated node least most _, room =>
      Room.takeRepeated (takeRoom direction node) node.mayBeEmpty least most room
  | .group _ node, room =>
      match direction with
      | .forward => (takeRoom direction node (room.takeStates 1)).takeStates 1
      | .backward => takeRoom direction node room
  | .sequence nodes, room => takeInRow direction nodes room
  | .choice nodes, room =>
      match nodes.mapM text? with
      | some texts => room.takeLiterals direction texts
      | none => takeAmong direction 0 nodes room

/-- Takes room for nodes in a row, in the order in which they are read. -/
def takeInRow (direction : Direction) : List Node → Room → Room
  | [], room => room
  | node :: nodes, room =>
      match direction with
      | .forward => takeInRow direction nodes (takeRoom direction node room)
      | .backward => takeRoom direction node (takeInRow direction nodes room)

/-- Takes room for choices, with a branch to each. What branches and what follows comes once there
are two of them. -/
def takeAmong (direction : Direction) (before : Nat) : List Node → Room → Room
  | [], room => room
  | node :: nodes, room =>
      let room := (takeRoom direction node room).takeBranches 1
      takeAmong direction (before + 1) nodes (if before = 1 then room.takeStates 2 else room)

end

mutual

/-- Whether every match is bound to the end of the text at which reading starts. -/
def isBound (direction : Direction) : Node → Bool
  | .empty => false
  | .literal _ => false
  | .set _ => false
  | .place _ here =>
      match direction with
      | .forward => here == .textStart
      | .backward => here == .textEnd
  | .repeated node least _ _ => 0 < least && isBound direction node
  | .group _ node => isBound direction node
  | .sequence nodes => isBoundInRow direction nodes
  | .choice nodes => areBound direction nodes

/-- Whether a node that is read before any character binds the row. -/
def isBoundInRow (direction : Direction) : List Node → Bool
  | [] => false
  | node :: nodes =>
      match direction with
      | .forward => isBound direction node || (node.alwaysEmpty && isBoundInRow direction nodes)
      | .backward => isBoundInRow direction nodes || (allEmpty nodes && isBound direction node)

/-- Whether all nodes are bound. -/
def areBound (direction : Direction) : List Node → Bool
  | [] => true
  | node :: nodes => isBound direction node && areBound direction nodes

end

/-- The room that the program of a pattern takes: what passes over the text before a match that is
not bound, the whole match as a group, and the state in which the pattern has matched. -/
def room (direction : Direction) (node : Node) : Room :=
  let start := if node.isBound direction then Room.empty.takeStates 1
    else ((Room.empty.takeStates 3).takeEdges 1).takeBranches 2
  ((group 0 node).takeRoom direction start).takeStates 1

/-- Whether the programs of a pattern fit. -/
def fits (node : Node) : Bool :=
  (node.room .forward).isEnough && (node.room .backward).isEnough

end Node

end AccessRules.Pattern
