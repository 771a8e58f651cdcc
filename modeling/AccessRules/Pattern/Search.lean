import AccessRules.Pattern.Program

/-!
# Searching for a pattern

All ways through a program are followed at once, as threads in their order of preference. At each
position a thread that reaches an instruction another one has reached before is dropped: whatever it
could still match, the other one matches with preference. As long as nothing has been found, a
thread that starts here comes last. So the leftmost match counts, and of those that start there the
preferred one.
-/

namespace AccessRules.Pattern

/-- Where a thread stands, and the positions it has noted. -/
structure Thread where
  number : Nat
  slots : List (Option Nat)
deriving DecidableEq, Repr

/-- The surroundings of a position. -/
structure Position where
  index : Nat
  before : Option Char
  after : Option Char
deriving DecidableEq, Repr

/-- Whether a place is at a position. -/
def Position.isAt (position : Position) (ascii : Bool) (place : Place) : Bool :=
  place.holds (isWordPart ascii) position.before position.after

/-- The threads that wait for a character or have matched, after all others have gone as far as they
get at one position. An instruction that has been reached is noted, and at most `left` of them are
still to be reached; the threads that have settled are kept last first. -/
def settle (program : Program) (position : Position) (reached : Array Bool) (left : Nat)
    (settled threads : List Thread) : List Thread :=
  match left, threads with
  | 0, _ => settled.reverse
  | _, [] => settled.reverse
  | left + 1, thread :: others =>
      if reached.getD thread.number true then
        settle program position reached (left + 1) settled others
      else
        let reached := reached.setIfInBounds thread.number true
        match program[thread.number]? with
        | some .accept => settle program position reached left (thread :: settled) others
        | some (.step _ _) => settle program position reached left (thread :: settled) others
        | some (.fork preferred other) =>
            settle program position reached left settled
              ({ thread with number := preferred } :: { thread with number := other } :: others)
        | some (.check ascii place next) =>
            if position.isAt ascii place then
              settle program position reached left settled
                ({ thread with number := next } :: others)
            else settle program position reached left settled others
        | some (.mark slot next) =>
            settle program position reached left settled
              ({ number := next, slots := thread.slots.set slot (some position.index) } :: others)
        | none => settle program position reached left settled others
termination_by (left, threads.length)

/-- Passes every thread over a character, up to the first that has matched; what that one noted is
the match so far. The threads that have passed are kept last first. -/
def advance (program : Program) (character : Char) (moved : List Thread) :
    List Thread → List Thread × Option (List (Option Nat))
  | [] => (moved.reverse, none)
  | thread :: others =>
      match program[thread.number]? with
      | some .accept => (moved.reverse, some thread.slots)
      | some (.step members next) =>
          if members.has character then
            advance program character ({ thread with number := next } :: moved) others
          else advance program character moved others
      | _ => advance program character moved others

/-- What the first of the threads that have matched noted. -/
def firstAccepted (program : Program) : List Thread → Option (List (Option Nat))
  | [] => none
  | thread :: others =>
      match program[thread.number]? with
      | some .accept => some thread.slots
      | _ => firstAccepted program others

/-- The threads at a position, with a new one behind them as long as nothing has been found. -/
def settleAt (program : Program) (position : Position) (start : Thread)
    (found : Option (List (Option Nat))) (threads : List Thread) : List Thread :=
  settle program position (Array.replicate program.size false) program.size []
    (if found.isNone then threads ++ [start] else threads)

/-- Runs threads over the rest of a text, from a position on. The match found last is the preferred
one, for threads behind it have been dropped. -/
def run (program : Program) (start : Thread) (index : Nat) (before : Option Char)
    (threads : List Thread) (found : Option (List (Option Nat))) :
    List Char → Option (List (Option Nat))
  | [] =>
      let settled := settleAt program ⟨index, before, none⟩ start found threads
      (firstAccepted program settled).or found
  | character :: rest =>
      let settled := settleAt program ⟨index, before, some character⟩ start found threads
      let (moved, accepted) := advance program character [] settled
      let found := accepted.or found
      if moved.isEmpty && found.isSome then found
      else run program start (index + 1) (some character) moved found rest

/-- The texts between the pairs of noted positions. -/
def groupTexts (text : List Char) : List (Option Nat) → List (Option String)
  | first :: last :: rest =>
      (match first, last with
        | some first, some last => some (String.ofList ((text.drop first).take (last - first)))
        | _, _ => none) :: groupTexts text rest
  | _ => []

/-- The texts of the whole match and of every group, if the pattern is found. -/
def Node.search? (node : Node) (text : String) : Option (List (Option String)) :=
  let (start, program) := Program.ofNode node
  let slots := List.replicate (2 * (node.highestGroup + 1)) none
  (run program ⟨start, slots⟩ 0 none [] none text.toList).map (groupTexts text.toList)

end AccessRules.Pattern
