import AccessRules.Text.Case

/-!
# Patterns

The tree of a regular expression in its simplest form: texts, sets of characters, places in the
text, sequence, choice, repetition and groups. Of several ways to match, the one that its choices
prefer from left to right counts.
-/

namespace AccessRules.Pattern

open Text (CharSet)

/-- A place in the text: its ends, the ends of a line, or where a word begins or ends. -/
inductive Place where
  | textStart
  | textEnd
  | lineStart
  | lineEnd
  /-- The start of a line where carriage returns end lines too. -/
  | anyLineStart
  /-- The end of a line where carriage returns end lines too. -/
  | anyLineEnd
  | wordBoundary
  | noWordBoundary
  | wordStart
  | wordEnd
  /-- No part of a word before it. -/
  | halfStart
  /-- No part of a word behind it. -/
  | halfEnd
deriving DecidableEq, Repr

namespace Place

/-- Whether a place asks for words. -/
def asksForWords : Place → Bool
  | .textStart | .textEnd | .lineStart | .lineEnd | .anyLineStart | .anyLineEnd => false
  | .wordBoundary | .noWordBoundary | .wordStart | .wordEnd | .halfStart | .halfEnd => true

/-- Whether a place lies between two neighbours; the ends of the text have none. A word is made of
the characters that the test accepts. -/
def holds (inWord : Char → Bool) (before after : Option Char) : Place → Bool
  | .textStart => before.isNone
  | .textEnd => after.isNone
  | .lineStart => before.isNone || before == some '\n'
  | .lineEnd => after.isNone || after == some '\n'
  | .anyLineStart =>
      before.isNone || before == some '\n' || (before == some '\r' && after != some '\n')
  | .anyLineEnd =>
      after.isNone || after == some '\r' || (after == some '\n' && before != some '\r')
  | .wordBoundary => before.any inWord != after.any inWord
  | .noWordBoundary => before.any inWord == after.any inWord
  | .wordStart => !before.any inWord && after.any inWord
  | .wordEnd => before.any inWord && !after.any inWord
  | .halfStart => !before.any inWord
  | .halfEnd => !after.any inWord

end Place

/-- Whether words hold a character: they are made of ASCII alone, or of any characters. -/
def isWordPart (ascii : Bool) (character : Char) : Bool :=
  if ascii then Text.isAsciiAlphanumeric character || character == '_'
  else Text.isWord character

/-- The tree of a pattern. -/
inductive Node where
  | empty
  /-- One or more characters in a row. -/
  | literal (text : List Char)
  /-- One character of a set; a set of one character is a literal. -/
  | set (members : CharSet)
  /-- A place; words are made of ASCII alone, or of any characters. -/
  | place (ascii : Bool) (place : Place)
  /-- From `least` to `most` times, without a bound if there is no `most`; a greedy repetition
  prefers to go on. -/
  | repeated (node : Node) (least : Nat) (most : Option Nat) (greedy : Bool)
  | group (index : Nat) (node : Node)
  /-- Two or more nodes in a row, of which none is empty or a sequence. -/
  | sequence (nodes : List Node)
  /-- Two or more choices in their order of preference, of which none is a choice. -/
  | choice (nodes : List Node)

namespace Node

/-! ## What a node may pass over -/

mutual

/-- The least number of characters that a match passes over; there is none if nothing matches. -/
def leastLength? : Node → Option Nat
  | .empty => some 0
  | .literal text => some text.length
  | .set members => if members.ranges.isEmpty then none else some 1
  | .place _ _ => some 0
  | .repeated node least _ _ => node.leastLength?.map (least * ·)
  | .group _ node => node.leastLength?
  | .sequence nodes => leastSum? nodes
  | .choice nodes => leastOfAll? nodes

/-- The sum of the least lengths. -/
def leastSum? : List Node → Option Nat
  | [] => some 0
  | node :: nodes =>
      match node.leastLength?, leastSum? nodes with
      | some first, some rest => some (first + rest)
      | _, _ => none

/-- The least of the least lengths, if all of them are known. -/
def leastOfAll? : List Node → Option Nat
  | [] => none
  | [node] => node.leastLength?
  | node :: nodes =>
      match node.leastLength?, leastOfAll? nodes with
      | some first, some rest => some (min first rest)
      | _, _ => none

end

/-- Whether some match may pass over nothing, or there is no match at all. -/
def mayBeEmpty (node : Node) : Bool :=
  match node.leastLength? with
  | some length => length == 0
  | none => true

mutual

/-- Whether a node never passes over a character. -/
def alwaysEmpty : Node → Bool
  | .empty => true
  | .literal _ => false
  | .set _ => false
  | .place _ _ => true
  | .repeated node _ most _ => most.isSome && node.alwaysEmpty
  | .group _ node => node.alwaysEmpty
  | .sequence nodes => allEmpty nodes
  | .choice nodes => allEmpty nodes

/-- Whether none of the nodes passes over a character. -/
def allEmpty : List Node → Bool
  | [] => true
  | node :: nodes => node.alwaysEmpty && allEmpty nodes

end

mutual

/-- The highest group in a tree, 0 if there is none. -/
def highestGroup : Node → Nat
  | .empty => 0
  | .literal _ => 0
  | .set _ => 0
  | .place _ _ => 0
  | .repeated node _ _ _ => node.highestGroup
  | .group index node => max index node.highestGroup
  | .sequence nodes => highestOfAll nodes
  | .choice nodes => highestOfAll nodes

/-- The highest group in some trees. -/
def highestOfAll : List Node → Nat
  | [] => 0
  | node :: nodes => max node.highestGroup (highestOfAll nodes)

end

mutual

/-- Whether two trees are equal. -/
def same : Node → Node → Bool
  | .empty, .empty => true
  | .literal text, .literal other => text == other
  | .set members, .set others => members == others
  | .place ascii here, .place ascii' there => ascii == ascii' && here == there
  | .repeated node least most greedy, .repeated node' least' most' greedy' =>
      least == least' && most == most' && greedy == greedy' && same node node'
  | .group index node, .group index' node' => index == index' && same node node'
  | .sequence nodes, .sequence others => sameNodes nodes others
  | .choice nodes, .choice others => sameNodes nodes others
  | _, _ => false

/-- Whether two lists of trees are equal. -/
def sameNodes : List Node → List Node → Bool
  | [], [] => true
  | node :: nodes, other :: others => same node other && sameNodes nodes others
  | _, _ => false

end

/-! ## Making nodes -/

/-- One character of a set. -/
def ofSet (members : CharSet) : Node :=
  match members.only? with
  | some character => .literal [character]
  | none => .set members

/-- A node as the items of a sequence. -/
def items : Node → List Node
  | .empty => []
  | .sequence nodes => nodes
  | node => [node]

/-- Nodes with the literals in a row joined. -/
def joinLiterals : List Node → List Node
  | [] => []
  | .literal text :: nodes =>
      match joinLiterals nodes with
      | .literal more :: rest => .literal (text ++ more) :: rest
      | rest => .literal text :: rest
  | node :: nodes => node :: joinLiterals nodes

/-- Nodes in a row. -/
def inRow (nodes : List Node) : Node :=
  match joinLiterals (nodes.flatMap items) with
  | [] => .empty
  | [node] => node
  | nodes => .sequence nodes

/-- A node as a list of choices. -/
def choices : Node → List Node
  | .choice nodes => nodes
  | node => [node]

/-- The only character of a literal. -/
def only? : Node → Option Char
  | .literal [character] => some character
  | _ => none

/-- The members of a set. -/
def members? : Node → Option CharSet
  | .set members => some members
  | _ => none

/-- The front that two lists of nodes have in common. -/
def commonFront : List Node → List Node → List Node
  | node :: nodes, other :: others =>
      if same node other then node :: commonFront nodes others else []
  | _, _ => []

/-- The items of a sequence. -/
def sequenceItems? : Node → Option (List Node)
  | .sequence nodes => some nodes
  | _ => none

/-- The front that sequences have in common, with what is left of each. Choices that are no
sequences have none. -/
def splitFront? (nodes : List Node) : Option (List Node × List (List Node)) :=
  match nodes.mapM sequenceItems? with
  | some (first :: rest) =>
      match rest.foldl commonFront first with
      | [] => none
      | front => some (front, (first :: rest).map (List.drop front.length))
  | _ => none

/-- The choices between characters or between sets as one set. -/
def unite? (nodes : List Node) : Option CharSet :=
  match nodes.mapM only? with
  | some characters => some (.unions (characters.map CharSet.single))
  | none => (nodes.mapM members?).map CharSet.unions

/-- A choice that has no sequences with a common front. -/
def amongDistinct (nodes : List Node) : Node :=
  match nodes.flatMap choices with
  | [] => .set .empty
  | [node] => node
  | nodes =>
      match unite? nodes with
      | some members => ofSet members
      | none => .choice nodes

/-- A choice between nodes. Characters and sets become one set, and what all choices begin with is
taken out in front. -/
def among (nodes : List Node) : Node :=
  match splitFront? (nodes.flatMap choices) with
  | none => amongDistinct nodes
  | some (front, rests) =>
      if nodes.length < 2 then amongDistinct nodes
      else inRow (front ++ [amongDistinct (rests.map inRow)])

/-- A repetition: what never passes over a character is tried once at most, what is tried no time is
nothing, and what is tried once is itself. -/
def times (node : Node) (least : Nat) (most : Option Nat) (greedy : Bool) : Node :=
  let least := if node.alwaysEmpty then min least 1 else least
  let most := if node.alwaysEmpty then some (min (most.getD 1) 1) else most
  if least = 0 ∧ most = some 0 then .empty
  else if least = 1 ∧ most = some 1 then node
  else .repeated node least most greedy

end Node

end AccessRules.Pattern
