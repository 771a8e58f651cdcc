import AccessRules.Path.Template
import AccessRules.Pattern.Parser
import AccessRules.Proofs.Pattern.Preference

/-!
# The regular expression of a path template

The text that a template has as a regular expression is read as a row of nodes, one for each piece,
between the ends of the text: the escapes are such that every literal character is read as itself.
-/

namespace AccessRules

open Text (CharSet)
open Pattern (Node)

namespace Path

/-! ### Nodes of pieces -/

/-- All characters but one, which is not the first of all. -/
def allBut (refused : Char) : CharSet :=
  ⟨[(0, refused.toNat - 1), (refused.toNat + 1, CharSet.lastCode)]⟩

/-- A run of characters of one line. -/
def starNode : Node := .repeated (.set (allBut '\n')) 0 none true

/-- A run of characters between slashes, as a group with a number. -/
def variableNode (number : Nat) : Node := .group number (.repeated (.set (allBut '/')) 1 none true)

/-- The nodes of pieces, behind so many groups. -/
def nodes : Nat → List Piece → List Node
  | _, [] => []
  | groups, .literal character :: pieces => .literal [character] :: nodes groups pieces
  | groups, .star :: pieces => starNode :: nodes groups pieces
  | groups, .captured _ :: pieces =>
      variableNode (groups + 1) :: nodes (groups + 1) pieces

/-- The nodes of a template, from one end of a text to the other. -/
def Template.expression (template : Template) : Node :=
  .inRow (.place false .textStart :: nodes 0 template.pieces ++ [.place false .textEnd])

end Path

/-! ### Reading them -/

namespace Pattern

open AccessRules.Path (allBut starNode variableNode)

namespace Bracket

theorem openFirst_noSlash (rest : List Char) :
    openFirst .default ('^' :: '/' :: ']' :: rest) = (opened true, '/' :: ']' :: rest) := by
  have noHyphen : leadingHyphens .default (opened true) ('/' :: ']' :: rest)
      = (opened true, '/' :: ']' :: rest) := by
    rw [leadingHyphens]
    rintro _ ⟨⟩
  unfold openFirst
  simp only [Flags.default, Flags.skip] at noHyphen ⊢
  simp [noHyphen]

theorem union_slash : CharSet.empty.union (.single '/') = .single '/' := by
  simp [CharSet.union, CharSet.empty, CharSet.single, CharSet.ofRanges, CharSet.joinFrom]

/-- The set in the expression of a variable. -/
theorem read?_noSlash (rest : List Char) :
    read? .default ('^' :: '/' :: ']' :: rest) = some (⟨allBut '/', 1⟩, rest) := by
  have slash : step? .default ⟨opened true, [], '/' :: ']' :: rest⟩
      = some (.inl ⟨⟨true, none, ⟨.single '/', 0⟩, 1⟩, [], ']' :: rest⟩) := by
    rw [← union_slash]
    rfl
  have closing : step? .default ⟨⟨true, none, ⟨.single '/', 0⟩, 1⟩, [], ']' :: rest⟩
      = some (.inr (⟨allBut '/', 1⟩, rest)) := rfl
  rw [read?, openFirst_noSlash]
  simp only []
  unfold toEnd?
  rw [slash]
  simp only [List.length_cons, Nat.lt_succ_self, if_true]
  unfold toEnd?
  rw [closing]

end Bracket

/-- Behind a backslash, what would mean something else is itself. -/
theorem Escape.read?_special (rest : List Char) : ∀ character ∈ Path.specialCharacters,
    read? .default (character :: rest) = some (.literal character, rest) := by
  intro character special
  simp only [Path.specialCharacters, List.mem_cons, List.not_mem_nil, or_false] at special
  rcases special with rfl | rfl | rfl | rfl | rfl | rfl | rfl | rfl | rfl | rfl | rfl | rfl | rfl
    | rfl | rfl | rfl | rfl | rfl <;> rfl

namespace Parser

theorem literal_default (character : Char) : literal .default character = .literal [character] := by
  simp [literal, Flags.default, Flags.fold, Node.ofSet, CharSet.only?, CharSet.single]

/-- A character that is not escaped means nothing but itself. -/
theorem item?_plain {state : State} (plain : state.flags = .default) {character : Char}
    (notSpecial : character ∉ Path.specialCharacters) (rest : List Char) :
    item? state character rest = some (state.push (.literal [character]) 0 rest) := by
  unfold item?
  split
  case h_13 =>
    show some (state.push (literal state.flags character) 0 rest) = _
    rw [plain, literal_default]
  all_goals exact absurd (by decide) notSpecial

/-- Reading on by an item. -/
theorem toEnd_of_item? {state next : State} {character : Char} {rest : List Char}
    (plain : state.flags = .default) (here : state.rest = character :: rest)
    (reads : item? state character rest = some next)
    (shorter : next.rest.length < (character :: rest).length) : toEnd state = toEnd next := by
  have noLayout : state.flags.skip state.rest = character :: rest := by
    rw [plain, here]
    rfl
  rw [toEnd, noLayout]
  simp only [reads]
  rw [if_pos (by rw [here]; exact shorter)]

variable {items : List Item} {groups : Nat} {rest : List Char}

/-- A state of reading outside of all groups. -/
def outside (text : List Char) (items : List Item) (groups : Nat) : State :=
  ⟨text, .default, [], items, [], groups, []⟩

theorem toEnd_plain {character : Char} (notSpecial : character ∉ Path.specialCharacters) :
    toEnd (outside (character :: rest) items groups)
      = toEnd (outside rest (⟨some (.literal [character]), 0⟩ :: items) groups) :=
  toEnd_of_item? rfl rfl (item?_plain rfl notSpecial rest) (Nat.lt_succ_self _)

theorem toEnd_escaped {character : Char} (special : character ∈ Path.specialCharacters) :
    toEnd (outside ('\\' :: character :: rest) items groups)
      = toEnd (outside rest (⟨some (.literal [character]), 0⟩ :: items) groups) := by
  refine toEnd_of_item? rfl rfl ?_ (Nat.lt_succ_of_lt (Nat.lt_succ_self _))
  have reads : item? (outside ('\\' :: character :: rest) items groups) '\\' (character :: rest)
      = (Escape.read? .default (character :: rest)).map fun found =>
        (outside ('\\' :: character :: rest) items groups).push (escapeNode .default found.1) 0
          found.2 :=
    rfl
  rw [reads, Escape.read?_special rest character special]
  show some (State.push (literal .default character) 0 rest _) = _
  rw [literal_default]
  rfl

/-- A repetition without a question mark behind it prefers to go on. -/
theorem repeatLast?_greedy {state : State} {node : Node} {depth : Nat} {behind : List Item}
    (plain : state.flags = .default) (isLast : state.items = ⟨some node, depth⟩ :: behind)
    (least : Nat) (most : Option Nat) (noMark : rest.head? ≠ some '?') :
    repeatLast? state least most rest
      = some { state with items := ⟨some (node.times least most true), depth + 1⟩ :: behind,
                          rest := rest } := by
  cases rest with
  | nil => simp only [repeatLast?, isLast, plain, Flags.default, beq_self_eq_true]
  | cons mark rest =>
      have isNoMark : mark ≠ '?' := fun isMark => noMark (congrArg some isMark)
      simp [repeatLast?, isLast, plain, Flags.default, isNoMark]

theorem item?_star (state : State) : item? state '*' rest = repeatLast? state 0 none rest := by
  rw [item?]

theorem item?_plus (state : State) : item? state '+' rest = repeatLast? state 1 none rest := by
  rw [item?]

theorem toEnd_star (noMark : rest.head? ≠ some '?') :
    toEnd (outside ('.' :: '*' :: rest) items groups)
      = toEnd (outside rest (⟨some starNode, 1⟩ :: items) groups) := by
  have dot : toEnd (outside ('.' :: '*' :: rest) items groups)
      = toEnd (outside ('*' :: rest) (⟨some (.set (allBut '\n')), 0⟩ :: items) groups) :=
    toEnd_of_item? rfl rfl rfl (Nat.lt_succ_self _)
  have repetition : item? (outside ('*' :: rest) (⟨some (.set (allBut '\n')), 0⟩ :: items) groups)
      '*' rest = some (outside rest (⟨some starNode, 1⟩ :: items) groups) := by
    rw [item?_star, repeatLast?_greedy rfl rfl 0 none noMark]
    rfl
  rw [dot]
  exact toEnd_of_item? rfl rfl repetition (Nat.lt_succ_self _)

/-- The state within the group of a variable. -/
def within (text : List Char) (inside items : List Item) (groups : Nat) : State :=
  ⟨text, .default, [], inside, [⟨some (groups + 1), .default, [], items⟩], groups + 1, []⟩

theorem toEnd_variable :
    toEnd (outside ('(' :: '[' :: '^' :: '/' :: ']' :: '+' :: ')' :: rest) items groups)
      = toEnd (outside rest (⟨some (variableNode (groups + 1)), 3⟩ :: items) (groups + 1)) := by
  have opening :
      toEnd (outside ('(' :: '[' :: '^' :: '/' :: ']' :: '+' :: ')' :: rest) items groups)
      = toEnd (within ('[' :: '^' :: '/' :: ']' :: '+' :: ')' :: rest) [] items groups) :=
    toEnd_of_item? rfl rfl rfl (Nat.lt_succ_self _)
  have bracket : item? (within ('[' :: '^' :: '/' :: ']' :: '+' :: ')' :: rest) [] items groups) '['
      ('^' :: '/' :: ']' :: '+' :: ')' :: rest)
      = some (within ('+' :: ')' :: rest) [⟨some (.set (allBut '/')), 1⟩] items groups) := by
    show (Bracket.read? .default ('^' :: '/' :: ']' :: '+' :: ')' :: rest)).map _ = _
    rw [Bracket.read?_noSlash]
    rfl
  have repetition : item? (within ('+' :: ')' :: rest) [⟨some (.set (allBut '/')), 1⟩] items groups)
      '+' (')' :: rest)
      = some (within (')' :: rest) [⟨some (.repeated (.set (allBut '/')) 1 none true), 2⟩] items
        groups) := by
    rw [item?_plus, repeatLast?_greedy rfl rfl 1 none (by simp)]
    rfl
  have closing : item? (within (')' :: rest) [⟨some (.repeated (.set (allBut '/')) 1 none true), 2⟩]
      items groups) ')' rest
      = some (outside rest (⟨some (variableNode (groups + 1)), 3⟩ :: items) (groups + 1)) := rfl
  rw [opening, toEnd_of_item? rfl rfl bracket (by simp [within]),
    toEnd_of_item? rfl rfl repetition (by simp [within]),
    toEnd_of_item? rfl rfl closing (by simp [outside])]

/-- The items hold these nodes and nest only so deep. -/
structure Holds (items : List Item) (nodes : List Node) : Prop where
  nodes : (items.filterMap Item.node).reverse = nodes
  shallow : ∀ item ∈ items, item.depth ≤ 3

theorem Holds.push {nodes : List Node} (holds : Holds items nodes) (node : Node) {depth : Nat}
    (shallow : depth ≤ 3) : Holds (⟨some node, depth⟩ :: items) (nodes ++ [node]) where
  nodes := by simp [holds.nodes]
  shallow := List.forall_mem_cons.mpr ⟨shallow, holds.shallow⟩

/-- The text of a literal is the character, with a backslash before it if it is special. -/
theorem toList_pattern_literal (character : Char) :
    (Path.Piece.literal character).pattern.toList
      = if character ∈ Path.specialCharacters then ['\\', character] else [character] := by
  by_cases special : character ∈ Path.specialCharacters
  · rw [Path.Piece.pattern, if_pos (List.contains_iff_mem.mpr special), if_pos special,
      String.toList_ofList]
  · rw [Path.Piece.pattern, if_neg fun isSpecial => special (List.contains_iff_mem.mp isSpecial),
      if_neg special, String.toList_singleton]

/-- The text of pieces, up to the end of the pattern. -/
def patternText (pieces : List Path.Piece) : List Char :=
  pieces.flatMap (fun piece => piece.pattern.toList) ++ ['$']

theorem patternText_cons (piece : Path.Piece) (pieces : List Path.Piece) :
    patternText (piece :: pieces) = piece.pattern.toList ++ patternText pieces := by
  rw [patternText, List.flatMap_cons, List.append_assoc, patternText]

/-- No piece begins with a question mark that is not escaped. -/
theorem head?_patternText (pieces : List Path.Piece) : (patternText pieces).head? ≠ some '?' := by
  cases pieces with
  | nil => decide
  | cons piece pieces =>
      rw [patternText_cons]
      cases piece with
      | literal character =>
          rw [toList_pattern_literal]
          split
          · simp
          · next notSpecial =>
            simp only [List.singleton_append, List.head?_cons, ne_eq, Option.some.injEq]
            rintro rfl
            exact notSpecial (by decide)
      | star => simp [Path.Piece.pattern]
      | captured name => simp [Path.Piece.pattern]

/-- Reading pieces leaves their nodes. -/
theorem toEnd_pieces : ∀ (pieces : List Path.Piece) {items : List Item} (groups : Nat)
    {before : List Node}, Holds items before → ∃ items' groups',
      toEnd (outside (patternText pieces) items groups) = toEnd (outside ['$'] items' groups')
        ∧ Holds items' (before ++ Path.nodes groups pieces)
  | [], items, groups, before, holds => by
      refine ⟨items, groups, rfl, ?_⟩
      rw [Path.nodes, List.append_nil]
      exact holds
  | .literal character :: pieces, items, groups, before, holds => by
      obtain ⟨items', groups', reads, holds'⟩ :=
        toEnd_pieces pieces groups (holds.push (.literal [character]) (Nat.zero_le 3))
      refine ⟨items', groups', ?_, by simpa [Path.nodes] using holds'⟩
      rw [← reads, patternText_cons, toList_pattern_literal]
      split
      · next special => exact toEnd_escaped special
      · next notSpecial => exact toEnd_plain notSpecial
  | .star :: pieces, items, groups, before, holds => by
      obtain ⟨items', groups', reads, holds'⟩ := toEnd_pieces pieces groups
        (holds.push starNode (by decide : 1 ≤ 3))
      refine ⟨items', groups', ?_, by simpa [Path.nodes] using holds'⟩
      rw [← reads, patternText_cons]
      exact toEnd_star (head?_patternText pieces)
  | .captured name :: pieces, items, groups, before, holds => by
      obtain ⟨items', groups', reads, holds'⟩ := toEnd_pieces pieces (groups + 1)
        (holds.push (variableNode (groups + 1)) (Nat.le_refl 3))
      refine ⟨items', groups', ?_, by simpa [Path.nodes] using holds'⟩
      have isVariable : (Path.Piece.captured name).pattern.toList
          = ['(', '[', '^', '/', ']', '+', ')'] := by simp [Path.Piece.pattern]
      rw [← reads, patternText_cons, isVariable]
      exact toEnd_variable

theorem depthAround_le {bound : Nat} (shallow : ∀ item ∈ items, item.depth ≤ bound) :
    depthAround items ≤ bound + 1 := by
  have folded : ∀ (items : List Item) (start : Nat), start ≤ bound →
      (∀ item ∈ items, item.depth ≤ bound) →
      items.foldl (fun depth item => max depth item.depth) start ≤ bound := by
    intro items
    induction items with
    | nil => exact fun _ within _ => within
    | cons item items inductionHypothesis =>
        intro start within shallow
        obtain ⟨here, rest⟩ := List.forall_mem_cons.mp shallow
        exact inductionHypothesis _ (Nat.max_le.mpr ⟨within, here⟩) rest
  exact Nat.succ_le_succ (folded items 0 (Nat.zero_le _) shallow)

/-- The items of a whole pattern nest little. -/
theorem confine?_among {nodes : List Node} (holds : Holds items nodes) :
    confine? (among [] items)
      = if (Node.inRow nodes).fits then some (Node.inRow nodes) else none := by
  have node : (among [] items).nodeOrEmpty = Node.inRow nodes := by
    rw [← holds.nodes]
    rcases items with _ | ⟨item, _ | ⟨other, items⟩⟩ <;> rfl
  have shallow : (among [] items).depth ≤ 4 := by
    rcases items with _ | ⟨item, _ | ⟨other, items⟩⟩
    · exact Nat.zero_le 4
    · exact Nat.le_succ_of_le (holds.shallow item (by simp))
    · exact depthAround_le holds.shallow
  have within : (among [] items).depth ≤ greatestDepth := Nat.le_trans shallow (by decide)
  simp only [confine?, node, within, true_and]

end Parser

end Pattern

namespace Path.Template

open Pattern.Parser

/-- The text that a template has as a regular expression is read as its row of nodes, unless a
program for that takes too much room. -/
theorem parse?_pattern (template : Template) : Pattern.parse? template.pattern
    = if template.expression.fits then some template.expression else none := by
  have text : template.pattern.toList = '^' :: patternText template.pieces := by
    rw [pattern, String.toList_append, String.toList_append, String.toList_join, List.flatMap_map]
    rfl
  have opening : toEnd (outside ('^' :: patternText template.pieces) [] 0)
      = toEnd (outside (patternText template.pieces) [⟨some (.place false .textStart), 0⟩] 0) :=
    toEnd_of_item? rfl rfl rfl (Nat.lt_succ_self _)
  have holds : Holds [⟨some (.place false .textStart), 0⟩] [.place false .textStart] :=
    ⟨rfl, by simp⟩
  obtain ⟨items, groups, reads, holdsAll⟩ := toEnd_pieces template.pieces 0 holds
  have closing : toEnd (outside ['$'] items groups)
      = toEnd (outside [] (⟨some (.place false .textEnd), 0⟩ :: items) groups) :=
    toEnd_of_item? rfl rfl rfl (Nat.lt_succ_self _)
  have ending : toEnd (outside [] (⟨some (.place false .textEnd), 0⟩ :: items) groups)
      = confine? (among [] (⟨some (.place false .textEnd), 0⟩ :: items)) := by
    rw [toEnd]
    rfl
  rw [Pattern.parse?, text]
  show toEnd (outside ('^' :: patternText template.pieces) [] 0) = _
  rw [opening, reads, closing, ending, confine?_among (holdsAll.push _ (Nat.zero_le 3))]
  rfl

end Path.Template

/-! ### Matching by them -/

namespace Path

open Pattern

theorem has_allBut {refused : Char} (notFirst : 0 < refused.toNat) (character : Char) :
    (allBut refused).has character = (character != refused) := by
  have known : character.toNat ≤ CharSet.lastCode := by
    rcases character.valid with below | ⟨_, below⟩
    · exact Nat.le_of_lt (Nat.lt_trans below (by decide))
    · exact Nat.le_of_lt_succ below
  have same : character = refused ↔ character.toNat = refused.toNat := Char.toNat_inj.symm
  rw [Bool.eq_iff_iff, bne_iff_ne, ne_eq, same]
  simp only [CharSet.has, allBut, CharSet.covers, Bool.and_eq_true, Bool.or_eq_true,
    decide_eq_true_eq, Bool.false_eq_true]
  omega

theorem ways_allBut {refused : Char} (notFirst : 0 < refused.toNat) :
    (Node.set (allBut refused)).ways = Spot.step (· != refused) := by
  funext spot
  rw [Node.ways, funext (has_allBut notFirst)]

theorem ways_starNode (spot : Spot) :
    starNode.ways spot = spot.anyTimes (Spot.step starAccepts) true := by
  rw [starNode, Node.ways, ways_allBut (by decide), Spot.times, List.flatMap_singleton]
  rfl

theorem ways_variableNode (number : Nat) (spot : Spot) :
    (variableNode number).ways spot = ((spot.step variableAccepts).flatMap
      (Spot.anyTimes (Spot.step variableAccepts) true)).map (spot.note number) := by
  have once : Spot.times (Spot.step variableAccepts) 1 spot = spot.step variableAccepts :=
    List.flatMap_singleton' _
  rw [variableNode, Node.ways, Node.ways, ways_allBut (by decide)]
  exact congrArg (fun steps => (List.flatMap _ steps).map (spot.note number)) once

/-- Trying the greedy ways through a repetition finds the longest run behind which the rest can go
on. -/
theorem findSome?_anyTimes {α β : Type} {accepts : Char → Bool} {goOn : List Char → Option α}
    {onward : Spot → Option β} {result : List Char × α → β} {spot : Spot} {text : List Char}
    (here : spot.rest = text) (goesOn : ∀ run rest, run ++ rest = text →
      onward (spot.passed run rest) = (goOn rest).map fun found => result (run, found)) :
    (spot.anyTimes (Spot.step accepts) true).findSome? onward
      = (longestRun accepts goOn text).map result := by
  have stopping : onward spot = ((goOn text).map ([], ·)).map result := by
    rw [Option.map_map, ← Spot.passed_nil spot, here]
    exact goesOn [] text rfl
  induction text generalizing spot result with
  | nil => rw [Spot.anyTimes_step_nil here, longestRun, List.findSome?_singleton, stopping]
  | cons first text inductionHypothesis =>
      have goesOnLater : ∀ run rest, run ++ rest = text →
          onward ((spot.passed [first] text).passed run rest)
            = (goOn rest).map fun found => result (first :: run, found) := by
        intro run rest joined
        rw [Spot.passed_cons]
        exact goesOn (first :: run) rest (congrArg (first :: ·) joined)
      have later : ((spot.passed [first] text).anyTimes (Spot.step accepts) true).findSome? onward
          = (longestRun accepts goOn text).map fun found => result (first :: found.1, found.2) :=
        inductionHypothesis (spot.rest_passed [first] text) goesOnLater
          (by rw [Option.map_map]; exact goesOn [first] text rfl)
      rw [Spot.anyTimes_step_cons here, longestRun]
      split
      · rw [List.findSome?_append, later, List.findSome?_singleton, stopping]
        cases longestRun accepts goOn text <;> rfl
      · rw [List.findSome?_singleton, stopping]

/-- The ways through the nodes of pieces find the values that matching the pieces finds. -/
theorem texts_nodes (pieces : List Piece) (groups : Nat) (spot : Spot) :
    (Node.waysInRow (nodes groups pieces ++ [.place false .textEnd]) spot).head?.map Spot.texts
      = (matchPieces pieces spot.rest).map fun values =>
          spot.texts ++ (values.map String.ofList).zipIdx (groups + 1) := by
  induction pieces generalizing groups spot with
  | nil =>
      rw [nodes, List.nil_append, Node.waysInRow_singleton, Node.ways]
      cases here : spot.rest <;> simp [Place.holds, matchPieces]
  | cons piece pieces inductionHypothesis =>
      cases piece with
      | literal character =>
          rw [nodes, List.cons_append, Node.waysInRow, Node.texts_flatMap, Node.ways]
          simp only [inductionHypothesis]
          cases here : spot.rest with
          | nil => simp [Spot.steps, Spot.step, here, matchPieces]
          | cons first rest =>
              by_cases same : first = character <;>
                simp [Spot.steps, Spot.step, here, matchPieces, same]
      | star =>
          rw [nodes, List.cons_append, Node.waysInRow, Node.texts_flatMap, ways_starNode,
            matchPieces, Option.map_map]
          refine findSome?_anyTimes rfl fun run rest joined => ?_
          rw [inductionHypothesis]
          rfl
      | captured name =>
          rw [nodes, List.cons_append, Node.waysInRow, Node.texts_flatMap, ways_variableNode,
            List.findSome?_map]
          cases here : spot.rest with
          | nil =>
              rw [spot.step_nil here, matchPieces]
              rfl
          | cons first rest =>
              rw [Spot.step_cons here, matchPieces]
              split
              · rw [List.flatMap_singleton, Option.map_map]
                refine findSome?_anyTimes (spot.rest_passed [first] rest)
                  fun run rest' joined => ?_
                rw [Function.comp_apply, inductionHypothesis, Spot.passed_cons]
                have whole : (first :: run) ++ rest' = spot.rest := by rw [here, ← joined]; rfl
                obtain ⟨eqRest, eqTexts⟩ := Spot.note_passed whole (groups + 1)
                rw [eqRest, eqTexts]
                simp
              · rfl

/-- The preferred match of the expression tells the values of the variables, and there is one
exactly if the template matches. -/
theorem Template.preferred?_expression (template : Template) (name : String) :
    template.expression.preferred? name = (template.captures? name).map (·.zipIdx 1) := by
  rw [expression, List.cons_append, Node.preferred?_textStart, texts_nodes, captures?, matchText_eq,
    Option.map_map]
  rfl

end Path

end AccessRules
