import AccessRules.Proofs.Path.Expression
import Mathlib.Data.List.Forall2

/-!
# What a path template stands for

A template stands for the names that can be taken apart into what its pieces stand for, one part for
each piece. Of several ways to take a name apart one counts: from left to right, every part is the
longest one that leaves a way for the pieces behind it. The values of the variables are their parts
there.
-/

namespace AccessRules.Path

/-! ### Spelling -/

/-- The pieces that a path spells. A dollar sign and all the ASCII letters and digits behind it, at
least one, are a variable. -/
inductive Spells : List Char → List Piece → Prop
  | nil : Spells [] []
  | star {text : List Char} {pieces : List Piece} :
      Spells text pieces → Spells ('*' :: text) (.star :: pieces)
  | captured {name text : List Char} {pieces : List Piece} : name ≠ [] →
      (∀ character ∈ name, Text.isAsciiAlphanumeric character = true) →
      (∀ next ∈ text.head?, Text.isAsciiAlphanumeric next = false) → Spells text pieces →
      Spells ('$' :: (name ++ text)) (.captured (String.ofList ('$' :: name)) :: pieces)
  | literal {character : Char} {text : List Char} {pieces : List Piece} :
      character ≠ '*' → character ≠ '$' → Spells text pieces →
      Spells (character :: text) (.literal character :: pieces)

theorem invalidToken?_cons_of_ne {first : Char} (notDollar : first ≠ '$') (rest : List Char) :
    invalidToken? (first :: rest) = invalidToken? rest := by
  rw [invalidToken?]
  · exact fun isDollar => absurd isDollar notDollar
  · exact fun _ _ isDollar => absurd isDollar notDollar

/-- A dollar sign that begins no nameless token begins a variable. -/
theorem named_of_invalidToken? {rest : List Char} (valid : invalidToken? ('$' :: rest) = none) :
    rest.takeWhile isNamePart ≠ [] ∧ invalidToken? rest = none := by
  cases rest with
  | nil => cases valid
  | cons next rest =>
      rw [invalidToken?] at valid
      split at valid
      · next accepted => exact ⟨by simp [accepted], valid⟩
      · cases valid

/-- A name holds no dollar sign, so none is lost with it. -/
theorem invalidToken?_dropWhile {text : List Char} (valid : invalidToken? text = none) :
    invalidToken? (text.dropWhile isNamePart) = none := by
  induction text with
  | nil => rfl
  | cons first rest inductionHypothesis =>
      cases accepted : isNamePart first with
      | false => simpa [accepted] using valid
      | true =>
          have notDollar : first ≠ '$' := by
            rintro rfl
            exact absurd accepted (by decide)
          rw [List.dropWhile_cons_of_pos accepted]
          rw [invalidToken?_cons_of_ne notDollar] at valid
          exact inductionHypothesis valid

/-- Without a nameless dollar sign, the pieces of a text are those that it spells. -/
theorem spells_pieces {text : List Char} (valid : invalidToken? text = none) :
    Spells text (pieces text) := by
  induction text using pieces.induct with
  | case1 =>
      rw [pieces]
      exact .nil
  | case2 rest inductionHypothesis =>
      rw [pieces]
      rw [invalidToken?_cons_of_ne (by decide)] at valid
      exact .star (inductionHypothesis valid)
  | case3 rest nameless => exact absurd nameless (named_of_invalidToken? valid).1
  | case4 rest named inductionHypothesis =>
      have restValid := (named_of_invalidToken? valid).2
      have spelled := Spells.captured (fun noName => named noName)
        (fun character member => List.all_eq_true.mp List.all_takeWhile character member)
        (fun next isNext => by
          have refused := List.head?_dropWhile_not isNamePart rest
          rw [Option.mem_def.mp isNext] at refused
          exact refused)
        (inductionHypothesis (invalidToken?_dropWhile restValid))
      rw [List.takeWhile_append_dropWhile] at spelled
      rw [pieces]
      split
      · next nameless => exact absurd nameless named
      · exact spelled
  | case5 character rest notStar notDollar inductionHypothesis =>
      rw [pieces.eq_4 character rest notStar notDollar]
      rw [invalidToken?_cons_of_ne notDollar] at valid
      exact .literal notStar notDollar (inductionHypothesis valid)

/-- A path spells no other pieces. -/
theorem Spells.eq_pieces {text : List Char} {spelledPieces : List Piece}
    (spelled : Spells text spelledPieces) : spelledPieces = pieces text := by
  induction spelled with
  | nil => rw [pieces]
  | star _ inductionHypothesis => rw [pieces, inductionHypothesis]
  | @captured name text _ named areParts ended _ inductionHypothesis =>
      have noFurther : text.takeWhile isNamePart = [] ∧ text.dropWhile isNamePart = text := by
        cases text with
        | nil => exact ⟨rfl, rfl⟩
        | cons next text =>
            have refused : isNamePart next = false := ended next rfl
            simp [refused]
      have nameParts : ∀ character ∈ name, isNamePart character = true := areParts
      have takesName : (name ++ text).takeWhile isNamePart = name := by
        rw [List.takeWhile_append_of_pos nameParts, noFurther.1, List.append_nil]
      have leavesText : (name ++ text).dropWhile isNamePart = text := by
        rw [List.dropWhile_append_of_pos nameParts, noFurther.2]
      rw [pieces, inductionHypothesis]
      split
      · next nameless => exact absurd (takesName.symm.trans nameless) named
      · rw [takesName, leavesText]
  | literal notStar notDollar _ inductionHypothesis =>
      rw [pieces.eq_4 _ _ notStar notDollar, inductionHypothesis]

/-- Without stars and dollar signs a path spells itself, character by character. -/
theorem Spells.eq_literals {text : List Char} {pieces : List Piece} (spelled : Spells text pieces)
    (noStar : '*' ∉ text) (noDollar : '$' ∉ text) : pieces = text.map .literal := by
  induction spelled with
  | nil => rfl
  | star _ _ => simp at noStar
  | captured _ _ _ _ _ => simp at noDollar
  | literal _ _ _ inductionHypothesis =>
      rw [inductionHypothesis (fun member => noStar (List.mem_cons_of_mem _ member))
        (fun member => noDollar (List.mem_cons_of_mem _ member))]
      rfl

/-! ### Taking a name apart -/

/-- The runs of characters that a piece can stand for. -/
def Piece.StandsFor : Piece → List Char → Prop
  | .literal character, part => part = [character]
  | .star, part => '\n' ∉ part
  | .captured _, part => part ≠ [] ∧ '/' ∉ part

/-- The parts make up a text, and every piece can stand for its part. -/
structure Decomposes (pieces : List Piece) (text : List Char) (parts : List (List Char)) :
    Prop where
  standFor : List.Forall₂ Piece.StandsFor pieces parts
  joined : parts.flatten = text

/-- From left to right, no part could be longer: whatever else could stand in its place, with
the parts before it as they are, is no longer. -/
structure Longest (pieces : List Piece) (text : List Char) (parts : List (List Char)) : Prop
    extends Decomposes pieces text parts where
  longest : ∀ before part behind other behind', parts = before ++ part :: behind →
    Decomposes pieces text (before ++ other :: behind') → other.length ≤ part.length

/-- The variables with their parts, in their order. -/
def bindings (pieces : List Piece) (parts : List (List Char)) : List (String × String) :=
  (pieces.zip parts).filterMap fun (piece, part) =>
    piece.variableName?.map fun name => (name, String.ofList part)

section

variable {piece : Piece} {pieces : List Piece} {text : List Char} {parts : List (List Char)}

theorem decomposes_nil : Decomposes [] text parts ↔ parts = [] ∧ text = [] := by
  constructor
  · rintro ⟨standFor, rfl⟩
    cases standFor
    exact ⟨rfl, rfl⟩
  · rintro ⟨rfl, rfl⟩
    exact ⟨.nil, rfl⟩

theorem decomposes_cons :
    Decomposes (piece :: pieces) text parts ↔ ∃ part rest behind, parts = part :: behind
      ∧ part ++ rest = text ∧ piece.StandsFor part ∧ Decomposes pieces rest behind := by
  constructor
  · rintro ⟨standFor, rfl⟩
    cases standFor with
    | cons standsFor standFor => exact ⟨_, _, _, rfl, rfl, standsFor, standFor, rfl⟩
  · rintro ⟨part, rest, behind, rfl, rfl, standsFor, standFor, rfl⟩
    exact ⟨.cons standsFor standFor, rfl⟩

/-- A front that is accepted, behind which the text can go on, and no longer one. -/
structure LongestFront (accepts : List Char → Prop) (goesOn : List Char → Prop)
    (text front rest : List Char) : Prop where
  joined : front ++ rest = text
  accepted : accepts front
  onward : goesOn rest
  longest : ∀ other rest', other ++ rest' = text → accepts other → goesOn rest' →
    other.length ≤ front.length

/-- Two longest fronts of a text are the same one. -/
theorem LongestFront.unique {accepts goesOn : List Char → Prop} {front rest other rest' : List Char}
    (here : LongestFront accepts goesOn text front rest)
    (there : LongestFront accepts goesOn text other rest') : front = other ∧ rest = rest' := by
  have atMost := there.longest _ _ here.joined here.accepted here.onward
  have atLeast := here.longest _ _ there.joined there.accepted there.onward
  exact List.append_inj (here.joined.trans there.joined.symm) (Nat.le_antisymm atMost atLeast)

/-- A piece at the front takes the longest part that leaves a way for the others, and these go on
in the same manner. -/
theorem longest_cons :
    Longest (piece :: pieces) text parts ↔ ∃ part rest behind, parts = part :: behind
      ∧ LongestFront piece.StandsFor (fun rest => ∃ parts, Decomposes pieces rest parts)
          text part rest
      ∧ Longest pieces rest behind := by
  constructor
  · rintro ⟨decomposes, longest⟩
    obtain ⟨part, rest, behind, rfl, joined, standsFor, decomposesBehind⟩ :=
      decomposes_cons.mp decomposes
    refine ⟨part, rest, behind, rfl, ⟨joined, standsFor, ⟨behind, decomposesBehind⟩, ?_⟩,
      decomposesBehind, ?_⟩
    · intro other rest' joined' standsFor' ⟨behind', decomposes'⟩
      exact longest [] part behind other behind' rfl
        (decomposes_cons.mpr ⟨_, _, _, rfl, joined', standsFor', decomposes'⟩)
    · rintro before here after other after' rfl decomposes'
      exact longest (part :: before) here after other after' rfl
        (decomposes_cons.mpr ⟨_, _, _, rfl, joined, standsFor, decomposes'⟩)
  · rintro ⟨part, rest, behind, rfl, front, decomposesBehind, longestBehind⟩
    refine ⟨decomposes_cons.mpr ⟨_, _, _, rfl, front.joined, front.accepted, decomposesBehind⟩, ?_⟩
    intro before here after other after' split decomposes'
    obtain ⟨part', rest', behind', eqParts, joined', standsFor', decomposesBehind'⟩ :=
      decomposes_cons.mp decomposes'
    cases before with
    | nil =>
        cases split
        cases eqParts
        exact front.longest _ _ joined' standsFor' ⟨_, decomposesBehind'⟩
    | cons first before =>
        cases split
        cases eqParts
        cases List.append_cancel_left (joined'.trans front.joined.symm)
        exact longestBehind before here after other after' rfl decomposesBehind'

/-- Only one way to take a text apart is the longest from left to right. -/
theorem Longest.unique {others : List (List Char)} (here : Longest pieces text parts)
    (there : Longest pieces text others) : parts = others := by
  induction pieces generalizing text parts others with
  | nil =>
      rw [(decomposes_nil.mp here.toDecomposes).1, (decomposes_nil.mp there.toDecomposes).1]
  | cons piece pieces inductionHypothesis =>
      obtain ⟨part, rest, behind, rfl, front, longest⟩ := longest_cons.mp here
      obtain ⟨part', rest', behind', rfl, front', longest'⟩ := longest_cons.mp there
      obtain ⟨rfl, rfl⟩ := front.unique front'
      rw [inductionHypothesis longest longest']

end

/-! ### Matching -/

/-- Nothing but accepted characters. -/
def AllAccepted (accepts : Char → Bool) (run : List Char) : Prop :=
  ∀ character ∈ run, accepts character = true

section

variable {accepts : Char → Bool} {goesOn : List Char → Prop} {first : Char} {text : List Char}

/-- A run at the front, behind which the text goes on, ends at once or begins with the first
character. -/
theorem exists_run_cons :
    (∃ run rest, run ++ rest = first :: text ∧ AllAccepted accepts run ∧ goesOn rest)
      ↔ goesOn (first :: text) ∨ (accepts first = true
        ∧ ∃ run rest, run ++ rest = text ∧ AllAccepted accepts run ∧ goesOn rest) := by
  constructor
  · rintro ⟨run, rest, joined, accepted, onward⟩
    cases run with
    | nil =>
        cases joined
        exact .inl onward
    | cons character run =>
        cases joined
        obtain ⟨acceptedFirst, acceptedRun⟩ := List.forall_mem_cons.mp accepted
        exact .inr ⟨acceptedFirst, run, rest, rfl, acceptedRun, onward⟩
  · rintro (onward | ⟨acceptedFirst, run, rest, rfl, accepted, onward⟩)
    · exact ⟨[], first :: text, rfl, List.forall_mem_nil _, onward⟩
    · exact ⟨first :: run, rest, rfl, List.forall_mem_cons.mpr ⟨acceptedFirst, accepted⟩, onward⟩

/-- Where no run begins with the first character, the longest one is empty. -/
theorem longestFront_empty (onward : goesOn (first :: text))
    (noLonger : ¬ (accepts first = true
      ∧ ∃ run rest, run ++ rest = text ∧ AllAccepted accepts run ∧ goesOn rest)) :
    LongestFront (AllAccepted accepts) goesOn (first :: text) [] (first :: text) where
  joined := rfl
  accepted := List.forall_mem_nil _
  onward := onward
  longest := by
    intro other rest joined accepted onward'
    cases other with
    | nil => exact Nat.le_refl _
    | cons character other =>
        cases joined
        obtain ⟨acceptedFirst, acceptedOther⟩ := List.forall_mem_cons.mp accepted
        exact absurd ⟨acceptedFirst, other, rest, rfl, acceptedOther, onward'⟩ noLonger

/-- A longest run stays one with a further accepted character before it. -/
theorem LongestFront.cons {run rest : List Char} (acceptedFirst : accepts first = true)
    (front : LongestFront (AllAccepted accepts) goesOn text run rest) :
    LongestFront (AllAccepted accepts) goesOn (first :: text) (first :: run) rest where
  joined := by rw [List.cons_append, front.joined]
  accepted := List.forall_mem_cons.mpr ⟨acceptedFirst, front.accepted⟩
  onward := front.onward
  longest := by
    intro other rest' joined accepted onward
    cases other with
    | nil => exact Nat.zero_le _
    | cons character other =>
        cases joined
        exact Nat.succ_le_succ
          (front.longest other rest' rfl (List.forall_mem_cons.mp accepted).2 onward)

end

section

variable {α : Type} {accepts : Char → Bool} {goOn : List Char → Option α} {text : List Char}

/-- The search for a run finds one if there is any. -/
theorem isSome_longestRun :
    (longestRun accepts goOn text).isSome = true ↔ ∃ run rest, run ++ rest = text
      ∧ AllAccepted accepts run ∧ (goOn rest).isSome = true := by
  induction text with
  | nil => simp [longestRun, AllAccepted]
  | cons first text inductionHypothesis =>
      refine Iff.trans ?_ exists_run_cons.symm
      rw [← inductionHypothesis, longestRun]
      cases accepts first with
      | false => simp
      | true => cases longestRun accepts goOn text <;> simp

/-- The run that the search finds is the longest one. -/
theorem longestFront_of_longestRun {run : List Char} {result : α}
    (found : longestRun accepts goOn text = some (run, result)) :
    ∃ rest, goOn rest = some result ∧ LongestFront (AllAccepted accepts)
      (fun rest => (goOn rest).isSome = true) text run rest := by
  induction text generalizing run with
  | nil =>
      obtain ⟨_, onward, eqPair⟩ := Option.map_eq_some_iff.mp found
      cases eqPair
      refine ⟨[], onward, rfl, List.forall_mem_nil _, by simp [onward], ?_⟩
      intro other rest joined _ _
      exact Nat.le_of_eq (congrArg List.length (List.append_eq_nil_iff.mp joined).1)
  | cons first text inductionHypothesis =>
      rw [longestRun] at found
      split at found
      · next accepted =>
        split at found
        · next foundBehind =>
          cases found
          obtain ⟨rest, onward, front⟩ := inductionHypothesis foundBehind
          exact ⟨rest, onward, front.cons accepted⟩
        · next nothingBehind =>
          obtain ⟨_, onward, eqPair⟩ := Option.map_eq_some_iff.mp found
          cases eqPair
          refine ⟨_, onward, longestFront_empty (by simp [onward]) fun longer => ?_⟩
          exact absurd (isSome_longestRun.mpr longer.2) (by simp [nothingBehind])
      · next refused =>
        obtain ⟨_, onward, eqPair⟩ := Option.map_eq_some_iff.mp found
        cases eqPair
        exact ⟨_, onward, longestFront_empty (by simp [onward]) fun longer => refused longer.1⟩

end

section

variable {piece : Piece} {pieces : List Piece} {text : List Char}

theorem allAccepted_bne {run : List Char} {refused : Char} :
    AllAccepted (· != refused) run ↔ refused ∉ run := by
  simp only [AllAccepted, bne_iff_ne]
  exact ⟨fun accepted member => accepted refused member rfl,
    fun absent character member same => absent (same ▸ member)⟩

/-- The value that a part adds. -/
def Piece.values : Piece → List Char → Values
  | .captured _, part => [part]
  | _, _ => []

/-- A variable stands for a first character without a slash and any run of such behind it. -/
theorem standsFor_captured {name : String} {part : List Char} :
    (Piece.captured name).StandsFor part ↔ ∃ first run, part = first :: run
      ∧ variableAccepts first = true ∧ AllAccepted variableAccepts run := by
  rw [Piece.StandsFor, ← allAccepted_bne]
  cases part with
  | nil => simp
  | cons first run => simp [AllAccepted, variableAccepts]

/-- A piece matches exactly if it can stand for some front behind which the others match. -/
theorem isSome_matchPieces_cons :
    (matchPieces (piece :: pieces) text).isSome = true ↔ ∃ part rest, part ++ rest = text
      ∧ piece.StandsFor part ∧ (matchPieces pieces rest).isSome = true := by
  cases piece with
  | literal character =>
      cases text with
      | nil => simp [matchPieces, Piece.StandsFor]
      | cons first text =>
          by_cases same : first = character
          · subst same
            simp [matchPieces, Piece.StandsFor]
          · simp [matchPieces, Piece.StandsFor, same, Ne.symm same]
  | star =>
      simp only [matchPieces, Option.isSome_map, isSome_longestRun, Piece.StandsFor]
      simp only [← allAccepted_bne]
      rfl
  | captured name =>
      cases text with
      | nil => simp [matchPieces, Piece.StandsFor]
      | cons first text =>
          simp only [standsFor_captured]
          rw [matchPieces]
          constructor
          · intro found
            split at found
            · next accepted =>
              rw [Option.isSome_map, isSome_longestRun] at found
              obtain ⟨run, rest, rfl, acceptedRun, onward⟩ := found
              exact ⟨first :: run, rest, rfl, ⟨first, run, rfl, accepted, acceptedRun⟩, onward⟩
            · cases found
          · rintro ⟨_, rest, joined, ⟨first, run, rfl, accepted, acceptedRun⟩, onward⟩
            cases joined
            rw [if_pos accepted, Option.isSome_map, isSome_longestRun]
            exact ⟨run, rest, rfl, acceptedRun, onward⟩

/-- The piece at the front takes the longest part. -/
theorem longestFront_of_matchPieces {values : Values}
    (found : matchPieces (piece :: pieces) text = some values) :
    ∃ part rest behind, matchPieces pieces rest = some behind ∧ values = piece.values part ++ behind
      ∧ LongestFront piece.StandsFor (fun rest => (matchPieces pieces rest).isSome = true)
          text part rest := by
  cases piece with
  | literal character =>
      cases text with
      | nil => cases found
      | cons first text =>
          rw [matchPieces] at found
          split at found
          · next same =>
            subst same
            refine ⟨[first], text, values, found, rfl, rfl, rfl, by simp [found], ?_⟩
            rintro other rest joined rfl _
            exact Nat.le_refl _
          · cases found
  | star =>
      rw [matchPieces] at found
      obtain ⟨⟨run, behind⟩, foundRun, rfl⟩ := Option.map_eq_some_iff.mp found
      obtain ⟨rest, onward, front⟩ := longestFront_of_longestRun foundRun
      refine ⟨run, rest, behind, onward, rfl, front.joined, allAccepted_bne.mp front.accepted,
        front.onward, fun other rest' joined standsFor onward' => ?_⟩
      exact front.longest other rest' joined (allAccepted_bne.mpr standsFor) onward'
  | captured name =>
      cases text with
      | nil => cases found
      | cons first text =>
          rw [matchPieces] at found
          split at found
          · next accepted =>
            obtain ⟨⟨run, behind⟩, foundRun, rfl⟩ := Option.map_eq_some_iff.mp found
            obtain ⟨rest, onward, front⟩ := longestFront_of_longestRun foundRun
            have whole := front.cons accepted
            refine ⟨first :: run, rest, behind, onward, rfl, whole.joined,
              ⟨List.cons_ne_nil _ _, allAccepted_bne.mp whole.accepted⟩, whole.onward,
              fun other rest' joined standsFor onward' => ?_⟩
            exact whole.longest other rest' joined (allAccepted_bne.mpr standsFor.2) onward'
          · cases found

/-- Pieces match a text exactly if it can be taken apart. -/
theorem isSome_matchPieces :
    (matchPieces pieces text).isSome = true ↔ ∃ parts, Decomposes pieces text parts := by
  induction pieces generalizing text with
  | nil => cases text <;> simp [matchPieces, decomposes_nil]
  | cons piece pieces inductionHypothesis =>
      simp only [isSome_matchPieces_cons, inductionHypothesis, decomposes_cons]
      constructor
      · rintro ⟨part, rest, joined, standsFor, behind, decomposes⟩
        exact ⟨_, part, rest, behind, rfl, joined, standsFor, decomposes⟩
      · rintro ⟨_, part, rest, behind, rfl, joined, standsFor, decomposes⟩
        exact ⟨part, rest, joined, standsFor, behind, decomposes⟩

/-- The values that matching finds are parts of the longest way to take the text apart. -/
theorem longest_of_matchPieces {values : Values} (found : matchPieces pieces text = some values) :
    ∃ parts, Longest pieces text parts
      ∧ (bindings pieces parts).map Prod.snd = values.map String.ofList := by
  induction pieces generalizing text values with
  | nil =>
      cases text with
      | nil =>
          cases found
          refine ⟨[], ⟨decomposes_nil.mpr ⟨rfl, rfl⟩, ?_⟩, rfl⟩
          rintro (_ | ⟨_, _⟩) _ _ _ _ ⟨⟩
      | cons first text => cases found
  | cons piece pieces inductionHypothesis =>
      obtain ⟨part, rest, behind, foundBehind, rfl, front⟩ := longestFront_of_matchPieces found
      obtain ⟨parts, longest, eqValues⟩ := inductionHypothesis foundBehind
      simp only [isSome_matchPieces] at front
      refine ⟨part :: parts, longest_cons.mpr ⟨part, rest, parts, rfl, front, longest⟩, ?_⟩
      cases piece <;> simpa [bindings, Piece.values, Piece.variableName?] using eqValues

end

/-! ### Templates -/

/-- Every variable has its part. -/
theorem names_of_bindings {pieces : List Piece} {parts : List (List Char)}
    (standFor : List.Forall₂ Piece.StandsFor pieces parts) :
    (bindings pieces parts).map Prod.fst = pieces.filterMap Piece.variableName? := by
  induction standFor with
  | nil => rfl
  | @cons piece part pieces parts _ _ inductionHypothesis =>
      cases piece <;>
        simpa [bindings, List.filterMap_cons, Piece.variableName?] using inductionHypothesis

theorem decomposes_literals {characters text : List Char} :
    (∃ parts, Decomposes (characters.map .literal) text parts) ↔ text = characters := by
  induction characters generalizing text with
  | nil => simp [decomposes_nil]
  | cons character characters inductionHypothesis =>
      simp only [List.map_cons, decomposes_cons]
      constructor
      · rintro ⟨_, part, rest, behind, rfl, rfl, rfl, decomposes⟩
        rw [inductionHypothesis.mp ⟨behind, decomposes⟩]
        rfl
      · rintro rfl
        obtain ⟨behind, decomposes⟩ := inductionHypothesis.mpr rfl
        exact ⟨_, [character], characters, behind, rfl, rfl, rfl, decomposes⟩

/-- What a template tells about names follows from the pieces that its path spells: it matches the
names that can be taken apart into parts that the pieces stand for, and the values of its variables,
one for each, are their parts where every part is as long as it can be, from left to right. As a
regular expression it tells the same. -/
structure Means (path : String) (template : Template) : Prop where
  spelled : ∀ pieces, Spells path.toList pieces ↔ pieces = template.pieces
  matches_iff : ∀ name, template.isMatch name = true
    ↔ ∃ parts, Decomposes template.pieces name.toList parts
  captured : ∀ name, (template.captures? name).isSome = template.isMatch name
  captures_iff : ∀ name values, template.captures? name = some values
    ↔ values.length = template.variableNames.length
      ∧ ∃ parts, Longest template.pieces name.toList parts
        ∧ template.variableNames.zip values = bindings template.pieces parts
  /-- Without stars and variables a template matches its own text only. -/
  plain : '*' ∉ path.toList → '$' ∉ path.toList →
    ∀ name, template.isMatch name = true ↔ name = path
  /-- The text of the regular expression is read as one, unless it asks for too much room. -/
  read : Pattern.parse? template.pattern
    = if template.expression.fits then some template.expression else none
  /-- The preferred match of the expression has the values as its groups, counted from one. -/
  preferred : ∀ name, template.expression.preferred? name
    = (template.captures? name).map fun values => values.zipIdx 1

namespace Template

variable {template : Template} {name : String}

theorem captures?_eq : template.captures? name
    = (matchPieces template.pieces name.toList).map (·.map String.ofList) := by
  rw [captures?, matchText_eq]

theorem isMatch_iff : template.isMatch name = true
    ↔ ∃ parts, Decomposes template.pieces name.toList parts := by
  rw [isMatch, captures?_eq, Option.isSome_map, isSome_matchPieces]

/-- The values of the variables are their parts in the longest way to take a name apart. -/
theorem captures?_eq_some_iff {values : List String} :
    template.captures? name = some values ↔ ∃ parts, Longest template.pieces name.toList parts
      ∧ (bindings template.pieces parts).map Prod.snd = values := by
  rw [captures?_eq]
  constructor
  · intro found
    obtain ⟨runs, foundRuns, rfl⟩ := Option.map_eq_some_iff.mp found
    exact longest_of_matchPieces foundRuns
  · rintro ⟨parts, longest, rfl⟩
    have found := isSome_matchPieces.mpr ⟨parts, longest.toDecomposes⟩
    obtain ⟨runs, foundRuns⟩ := Option.isSome_iff_exists.mp found
    obtain ⟨others, longest', eqValues⟩ := longest_of_matchPieces foundRuns
    rw [longest.unique longest', eqValues, foundRuns]
    rfl

/-- What is a template has no nameless dollar sign, and its pieces are those of its text. -/
theorem valid_of_parse {path : String} (parsed : parse path = .ok template) :
    invalidToken? path.toList = none := by
  rw [parse] at parsed
  split at parsed
  · next accepted =>
    rw [check] at accepted
    split at accepted
    · cases accepted
    · cases accepted
    · split at accepted
      · cases accepted
      · next valid => exact valid
  · cases parsed

theorem eq_of_parse {path : String} (parsed : parse path = .ok template) :
    template = ⟨path, Path.pieces path.toList⟩ := by
  rw [parse] at parsed
  split at parsed
  · cases parsed
    rfl
  · cases parsed

/-- A path that can be a template means what it spells, and nothing else. -/
theorem means_of_parse {path : String} (parsed : parse path = .ok template) :
    Means path template := by
  have eqPieces : template.pieces = Path.pieces path.toList :=
    congrArg Template.pieces (eq_of_parse parsed)
  have spelled : Spells path.toList template.pieces := by
    rw [eqPieces]
    exact spells_pieces (valid_of_parse parsed)
  refine ⟨fun pieces => ?_, fun name => isMatch_iff, fun name => rfl, fun name values => ?_, ?_,
    template.parse?_pattern, template.preferred?_expression⟩
  · constructor
    · intro alsoSpelled
      rw [alsoSpelled.eq_pieces, eqPieces]
    · rintro rfl
      exact spelled
  · rw [captures?_eq_some_iff]
    constructor
    · rintro ⟨parts, longest, rfl⟩
      have names := names_of_bindings longest.standFor
      rw [variableNames, ← names]
      exact ⟨by simp, parts, longest, (List.zip_of_prod rfl rfl).symm⟩
    · rintro ⟨sameLength, parts, longest, eqBindings⟩
      refine ⟨parts, longest, ?_⟩
      rw [← eqBindings, List.map_snd_zip (Nat.le_of_eq sameLength)]
  · intro noStar noDollar name
    rw [isMatch_iff, spelled.eq_literals noStar noDollar, decomposes_literals, String.toList_inj]

/-- Of two variables in a row the first one takes what it can, also before a star, and signs that
mean something elsewhere stand for themselves. -/
theorem means_of_adjacent_variables : ∃ template, parse "$a$b*.$c/(x+)" = .ok template
    ∧ Means "$a$b*.$c/(x+)" template
    ∧ template.captures? "xyz.q.r/(x+)" = some ["xyz.", "q", "r"] :=
  ⟨⟨"$a$b*.$c/(x+)", [.captured "$a", .captured "$b", .star, .literal '.', .captured "$c",
    .literal '/', .literal '(', .literal 'x', .literal '+', .literal ')']⟩,
    by cbv, means_of_parse (by cbv), rfl⟩

end Template

end AccessRules.Path
