import AccessRules.Pattern.Basic

/-!
# Programs

A pattern is run as a list of numbered instructions. Those of a node are laid down so that they go
on at a given number when the node has matched; a loop is laid down by reserving its number first.
-/

namespace AccessRules.Pattern

open Text (CharSet)

/-- One instruction. -/
inductive Instruction where
  /-- The pattern has matched. -/
  | accept
  /-- Passes over a character of the set. -/
  | step (members : CharSet) (next : Nat)
  /-- Goes on at either number, the first one preferred. -/
  | fork (preferred other : Nat)
  /-- Goes on if the place is here; words are made of ASCII alone, or of any characters. -/
  | check (ascii : Bool) (place : Place) (next : Nat)
  /-- Notes the position in a slot. -/
  | mark (slot next : Nat)

/-- The instructions by number. -/
abbrev Program := Array Instruction

namespace Program

/-- Adds an instruction and tells its number. -/
def lay (instruction : Instruction) (program : Program) : Nat × Program :=
  (program.size, program.push instruction)

/-- A fork in which a greedy repetition prefers to go on. -/
def loopFork (greedy : Bool) (onward exit : Nat) : Instruction :=
  if greedy then .fork onward exit else .fork exit onward

/-- Lays down the characters of a literal. -/
def layLiteral : List Char → Nat → Program → Nat × Program
  | [], next, program => (next, program)
  | character :: rest, next, program =>
      let (start, program) := layLiteral rest next program
      lay (.step (.single character) start) program

/-- Lays something down so many times, each time going on at the one before. -/
def layTimes (lay : Nat → Program → Nat × Program) : Nat → Nat → Program → Nat × Program
  | 0, next, program => (next, program)
  | more + 1, next, program =>
      let (start, program) := lay next program
      layTimes lay more start program

/-- Lays down something that may be left out, up to so many times, each time nested in the one
before. -/
def layOptional (lay : Nat → Program → Nat × Program) (greedy : Bool) (exit : Nat) :
    Nat → Nat → Program → Nat × Program
  | 0, next, program => (next, program)
  | more + 1, next, program =>
      let (start, program) := lay next program
      let (fork, program) := Program.lay (loopFork greedy start exit) program
      layOptional lay greedy exit more fork program

/-- Lays down a loop that is gone through at least so many times. What may pass over nothing is gone
through once before the loop is left, unless it is left out. -/
def layLoop (lay : Nat → Program → Nat × Program) (mayBeEmpty greedy : Bool) (least next : Nat)
    (program : Program) : Nat × Program :=
  let (loop, program) := Program.lay .accept program
  let (start, program) := lay loop program
  let program := program.setIfInBounds loop (loopFork greedy start next)
  match least with
  | 0 => if mayBeEmpty then Program.lay (loopFork greedy start next) program else (loop, program)
  | more + 1 => layTimes lay more start program

mutual

/-- Lays down the instructions of a node, going on at `next`, and tells where they start. -/
def layNode : Node → Nat → Program → Nat × Program
  | .empty, next, program => (next, program)
  | .literal text, next, program => layLiteral text next program
  | .set members, next, program => lay (.step members next) program
  | .place ascii here, next, program => lay (.check ascii here next) program
  | .repeated node least most greedy, next, program =>
      match most with
      | some most =>
          let (start, program) := layOptional (layNode node) greedy next (most - least) next program
          layTimes (layNode node) least start program
      | none => layLoop (layNode node) node.mayBeEmpty greedy least next program
  | .group index node, next, program =>
      let (close, program) := lay (.mark (2 * index + 1) next) program
      let (start, program) := layNode node close program
      lay (.mark (2 * index) start) program
  | .sequence nodes, next, program => layInRow nodes next program
  | .choice nodes, next, program => layAmong nodes next program

/-- Lays down nodes in a row. -/
def layInRow : List Node → Nat → Program → Nat × Program
  | [], next, program => (next, program)
  | node :: nodes, next, program =>
      let (start, program) := layInRow nodes next program
      layNode node start program

/-- Lays down choices, which all go on alike. Among none, nothing matches. -/
def layAmong : List Node → Nat → Program → Nat × Program
  | [], next, program => lay (.step .empty next) program
  | [node], next, program => layNode node next program
  | node :: nodes, next, program =>
      let (first, program) := layNode node next program
      let (others, program) := layAmong nodes next program
      lay (.fork first others) program

end

/-- The program of a pattern, with the number it starts at. The whole match is group 0. -/
def ofNode (node : Node) : Nat × Program :=
  layNode (.group 0 node) 0 #[.accept]

end Program

end AccessRules.Pattern
