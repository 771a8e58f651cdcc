import AccessRules.Pattern.Basic

/-!
# Preferred matches

All the ways through a node from a place in a text, in the order in which its choices prefer them:
a greedy repetition goes on before it ends, and a choice tries its nodes in their order. A search
takes the leftmost place from which there is a way, and the first one of those.

Going round a repetition without a bound always passes over something, so the ways are finitely
many.
-/

namespace AccessRules.Pattern

/-- A place that a way has come to: the character before it, what is left of the text, and the texts
of the groups on the way with their numbers. -/
structure Spot where
  before : Option Char
  rest : List Char
  texts : List (String × Nat)

namespace Spot

/-- The place behind a run of characters. -/
def passed (spot : Spot) (run rest : List Char) : Spot :=
  { spot with before := run.getLast?.or spot.before, rest := rest }

/-- Passes over a character that is accepted. -/
def step (accepts : Char → Bool) (spot : Spot) : List Spot :=
  match spot.rest with
  | [] => []
  | character :: rest => if accepts character then [spot.passed [character] rest] else []

/-- Passes over a text. -/
def steps : List Char → Spot → List Spot
  | [], spot => [spot]
  | character :: text, spot => (spot.step (· == character)).flatMap (steps text)

/-- The text of a group that ends here and began at another place. -/
def note (start : Spot) (number : Nat) (spot : Spot) : Spot :=
  let run := start.rest.take (start.rest.length - spot.rest.length)
  { spot with texts := spot.texts ++ [(String.ofList run, number)] }

/-- So many times one after the other. -/
def times (ways : Spot → List Spot) : Nat → Spot → List Spot
  | 0, spot => [spot]
  | more + 1, spot => (ways spot).flatMap (times ways more)

/-- At most so many times one after the other. -/
def upTo (ways : Spot → List Spot) (greedy : Bool) : Nat → Spot → List Spot
  | 0, spot => [spot]
  | more + 1, spot =>
      let onward := (ways spot).flatMap (upTo ways greedy more)
      if greedy then onward ++ [spot] else spot :: onward

/-- Any number of times one after the other, each time over something. -/
def anyTimes (ways : Spot → List Spot) (greedy : Bool) (spot : Spot) : List Spot :=
  upTo (fun spot => (ways spot).filter fun next => next.rest.length < spot.rest.length) greedy
    spot.rest.length spot

@[simp] theorem passed_nil (spot : Spot) : spot.passed [] spot.rest = spot := rfl

@[simp] theorem texts_passed (spot : Spot) (run rest : List Char) :
    (spot.passed run rest).texts = spot.texts := rfl

@[simp] theorem rest_passed (spot : Spot) (run rest : List Char) :
    (spot.passed run rest).rest = rest := rfl

theorem passed_cons (spot : Spot) (character : Char) (run here rest : List Char) :
    (spot.passed [character] here).passed run rest = spot.passed (character :: run) rest := by
  simp only [passed, List.getLast?_cons, List.getLast?_nil]
  cases run.getLast? <;> rfl

/-- The text of a group is the run that it passed over. -/
theorem note_passed {start : Spot} {run rest : List Char} (joined : run ++ rest = start.rest)
    (number : Nat) : (start.note number (start.passed run rest)).rest = rest
      ∧ (start.note number (start.passed run rest)).texts
        = start.texts ++ [(String.ofList run, number)] := by
  refine ⟨rfl, ?_⟩
  rw [note, ← joined]
  simp

theorem step_nil {accepts : Char → Bool} {spot : Spot} (ended : spot.rest = []) :
    spot.step accepts = [] := by
  rw [step, ended]

theorem step_cons {accepts : Char → Bool} {spot : Spot} {character : Char} {rest : List Char}
    (here : spot.rest = character :: rest) :
    spot.step accepts = if accepts character then [spot.passed [character] rest] else [] := by
  rw [step, here]

/-- At the end of the text, nothing more can be passed over. -/
theorem anyTimes_step_nil {accepts : Char → Bool} {spot : Spot} (ended : spot.rest = []) :
    anyTimes (step accepts) true spot = [spot] := by
  rw [anyTimes, ended]
  rfl

/-- A greedy repetition of one character passes over the next one first, if it can. -/
theorem anyTimes_step_cons {accepts : Char → Bool} {spot : Spot} {character : Char}
    {rest : List Char} (here : spot.rest = character :: rest) :
    anyTimes (step accepts) true spot
      = if accepts character then
          anyTimes (step accepts) true (spot.passed [character] rest) ++ [spot]
        else [spot] := by
  simp only [anyTimes, here, List.length_cons, upTo, step_cons here, if_true]
  cases accepts character <;> simp

end Spot

namespace Node

mutual

/-- The ways through a node, the preferred one first. -/
def ways : Node → Spot → List Spot
  | .empty, spot => [spot]
  | .literal text, spot => spot.steps text
  | .set members, spot => spot.step members.has
  | .place ascii here, spot =>
      if here.holds (isWordPart ascii) spot.before spot.rest.head? then [spot] else []
  | .repeated node least most greedy, spot =>
      (Spot.times (ways node) least spot).flatMap
        (match most with
          | some most => Spot.upTo (ways node) greedy (most - least)
          | none => Spot.anyTimes (ways node) greedy)
  | .group index node, spot => (ways node spot).map (spot.note index)
  | .sequence nodes, spot => waysInRow nodes spot
  | .choice nodes, spot => waysAmong nodes spot

/-- The ways through nodes in a row. -/
def waysInRow : List Node → Spot → List Spot
  | [], spot => [spot]
  | node :: nodes, spot => (ways node spot).flatMap (waysInRow nodes)

/-- The ways through one of several nodes. -/
def waysAmong : List Node → Spot → List Spot
  | [], _ => []
  | node :: nodes, spot => ways node spot ++ waysAmong nodes spot

end

/-- The places of a text. -/
def spots (before : Option Char) : List Char → List Spot
  | [] => [⟨before, [], []⟩]
  | character :: rest => ⟨before, character :: rest, []⟩ :: spots (some character) rest

/-- The texts of the groups on the preferred way from the leftmost place that has one. -/
def preferred? (node : Node) (text : String) : Option (List (String × Nat)) :=
  (spots none text.toList).findSome? fun spot => (node.ways spot).head?.map Spot.texts

/-- The first way on from the first place from which there is one. -/
theorem texts_flatMap (here : List Spot) (onward : Spot → List Spot) :
    (here.flatMap onward).head?.map Spot.texts
      = here.findSome? fun spot => (onward spot).head?.map Spot.texts := by
  rw [List.head?_flatMap, List.map_findSome?]
  rfl

/-- Behind the start of a text there is a character before every place. -/
theorem before_of_mem_spots {previous : Char} {text : List Char} {spot : Spot}
    (member : spot ∈ spots (some previous) text) : spot.before.isNone = false := by
  induction text generalizing previous with
  | nil =>
      cases List.mem_singleton.mp member
      rfl
  | cons character rest inductionHypothesis =>
      rcases List.mem_cons.mp member with rfl | behind
      · rfl
      · exact inductionHypothesis behind

/-! ### Nodes in a row -/

theorem waysInRow_append (nodes others : List Node) (spot : Spot) :
    waysInRow (nodes ++ others) spot = (waysInRow nodes spot).flatMap (waysInRow others) := by
  induction nodes generalizing spot with
  | nil => simp only [List.nil_append, waysInRow, List.flatMap_singleton]
  | cons node nodes inductionHypothesis =>
      rw [List.cons_append, waysInRow, waysInRow, List.flatMap_assoc, funext inductionHypothesis]

theorem waysInRow_singleton (node : Node) (spot : Spot) :
    waysInRow [node] spot = node.ways spot := by
  simp only [waysInRow, List.flatMap_singleton']

theorem waysInRow_items (node : Node) (spot : Spot) :
    waysInRow node.items spot = node.ways spot := by
  cases node <;> simp only [items, waysInRow_singleton, ways, waysInRow]

theorem waysInRow_flatMap_items (nodes : List Node) (spot : Spot) :
    waysInRow (nodes.flatMap items) spot = waysInRow nodes spot := by
  induction nodes generalizing spot with
  | nil => rfl
  | cons node nodes inductionHypothesis =>
      rw [List.flatMap_cons, waysInRow_append, waysInRow_items, waysInRow,
        funext inductionHypothesis]

theorem steps_append (text more : List Char) (spot : Spot) :
    spot.steps (text ++ more) = (spot.steps text).flatMap (Spot.steps more) := by
  induction text generalizing spot with
  | nil => simp only [List.nil_append, Spot.steps, List.flatMap_singleton]
  | cons character text inductionHypothesis =>
      rw [List.cons_append, Spot.steps, Spot.steps, List.flatMap_assoc, funext inductionHypothesis]

theorem waysInRow_joinLiterals (nodes : List Node) (spot : Spot) :
    waysInRow (joinLiterals nodes) spot = waysInRow nodes spot := by
  induction nodes using joinLiterals.induct generalizing spot with
  | case1 => rfl
  | case2 text nodes more rest joined inductionHypothesis =>
      rw [joinLiterals, joined]
      rw [joined] at inductionHypothesis
      simp only [waysInRow, ways, ← funext inductionHypothesis, steps_append, List.flatMap_assoc]
  | case3 text nodes noLiteral inductionHypothesis =>
      rw [joinLiterals]
      split
      · next more rest joined => exact absurd joined (noLiteral more rest)
      · rw [waysInRow, waysInRow, funext inductionHypothesis]
  | case4 node nodes noLiteral inductionHypothesis =>
      rw [joinLiterals, waysInRow, waysInRow, funext inductionHypothesis]
      exact noLiteral

/-- Making a node of nodes in a row changes no way. -/
theorem ways_inRow (nodes : List Node) (spot : Spot) :
    (inRow nodes).ways spot = waysInRow nodes spot := by
  rw [← waysInRow_flatMap_items, ← waysInRow_joinLiterals, inRow]
  split
  · next none => rw [none, waysInRow, ways]
  · next node one => rw [one, waysInRow_singleton]
  · rw [ways]

/-- What begins at the start of the text is looked for there only. -/
theorem preferred?_textStart (nodes : List Node) (text : String) :
    (inRow (.place false .textStart :: nodes)).preferred? text
      = (waysInRow nodes ⟨none, text.toList, []⟩).head?.map Spot.texts := by
  have atStart : ∀ rest, waysInRow (.place false .textStart :: nodes) ⟨none, rest, []⟩
      = waysInRow nodes ⟨none, rest, []⟩ := by
    intro rest
    simp [waysInRow, ways, Place.holds]
  have nowhereElse : ∀ spot : Spot, spot.before.isNone = false →
      waysInRow (.place false .textStart :: nodes) spot = [] := by
    intro spot behindStart
    simp [waysInRow, ways, Place.holds, behindStart]
  unfold preferred?
  simp only [ways_inRow]
  cases text.toList with
  | nil => simp [spots, atStart]
  | cons character rest =>
      have noOther : (spots (some character) rest).findSome? (fun spot =>
          (waysInRow (.place false .textStart :: nodes) spot).head?.map Spot.texts) = none := by
        refine List.findSome?_eq_none_iff.mpr fun spot member => ?_
        rw [nowhereElse spot (before_of_mem_spots member)]
        rfl
      rw [spots, List.findSome?_cons, atStart, noOther]
      cases (waysInRow nodes ⟨none, character :: rest, []⟩).head?.map Spot.texts <;> rfl

end Node

end AccessRules.Pattern
