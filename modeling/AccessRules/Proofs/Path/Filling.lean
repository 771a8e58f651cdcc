import AccessRules.Proofs.Path.Meaning

/-!
# Filling in a template

A template is filled in by putting texts in the places of its variables, in their order. With the
parts that a name was taken apart into this gives the name back, if no star stands in the template.
If moreover every variable ends its segment, a name can be taken apart in one way only, and then
matching finds exactly what the template was filled in with.
-/

namespace AccessRules.Path

/-- The text of the pieces with values in the places of the variables. A star stays, and so do the
variables for which there are no values left. -/
def fillIn : List Piece → Values → List Char
  | [], _ => []
  | .literal character :: pieces, values => character :: fillIn pieces values
  | .star :: pieces, values => '*' :: fillIn pieces values
  | .captured name :: pieces, [] => name.toList ++ fillIn pieces []
  | .captured _ :: pieces, value :: values => value ++ fillIn pieces values

/-- Whether behind every variable a slash follows or nothing at all. -/
def endSegments : List Piece → Bool
  | [] => true
  | .captured _ :: behind => behind.head?.all (· == .literal '/') && endSegments behind
  | _ :: behind => endSegments behind

namespace Template

/-- The name that values in the places of the variables make of a template. -/
def fill (template : Template) (values : List String) : String :=
  String.ofList (fillIn template.pieces (values.map String.toList))

/-- One value for each variable, none of them empty or with a slash in it. -/
structure Suits (template : Template) (values : List String) : Prop where
  length_eq : values.length = template.variableNames.length
  areSegments : ∀ value ∈ values, value ≠ "" ∧ '/' ∉ value.toList

end Template

/-! ### The text of a template -/

/-- With no values the text is the one that spells the pieces. -/
theorem Spells.fillIn_nil {text : List Char} {pieces : List Piece} (spelled : Spells text pieces) :
    fillIn pieces [] = text := by
  induction spelled with
  | nil => rfl
  | star _ ih => rw [fillIn, ih]
  | captured _ _ _ _ ih =>
      rw [fillIn, ih, String.toList_ofList]
      rfl
  | literal _ _ _ ih => rw [fillIn, ih]

theorem Spells.star_not_mem {text : List Char} {pieces : List Piece} (spelled : Spells text pieces)
    (noStar : '*' ∉ text) : .star ∉ pieces := by
  induction spelled with
  | nil => exact List.not_mem_nil
  | star _ _ => exact absurd List.mem_cons_self noStar
  | captured _ _ _ _ ih =>
      intro among
      rcases List.mem_cons.mp among with isFirst | isBehind
      · cases isFirst
      · apply ih _ isBehind
        intro star
        exact noStar (List.mem_cons_of_mem _ (List.mem_append_right _ star))
  | literal _ _ _ ih =>
      intro among
      rcases List.mem_cons.mp among with isFirst | isBehind
      · cases isFirst
      · exact ih (List.not_mem_of_not_mem_cons noStar) isBehind

/-! ### Values and parts -/

theorem bindings_captured (name : String) (pieces : List Piece) (part : List Char)
    (parts : List (List Char)) : bindings (.captured name :: pieces) (part :: parts)
      = (name, String.ofList part) :: bindings pieces parts :=
  rfl

section

variable {pieces : List Piece} {parts : List (List Char)}

/-- Filled in with the parts that stand for them the variables make the whole text. -/
theorem fillIn_bindings (noStar : .star ∉ pieces)
    (standFor : List.Forall₂ Piece.StandsFor pieces parts) :
    fillIn pieces ((bindings pieces parts).map fun binding => binding.2.toList) = parts.flatten := by
  induction standFor with
  | nil => rfl
  | @cons piece part pieces parts standsFor _ ih =>
      have behind := ih (List.not_mem_of_not_mem_cons noStar)
      cases piece with
      | literal character =>
          cases standsFor
          exact congrArg (character :: ·) behind
      | star => exact absurd List.mem_cons_self noStar
      | captured name =>
          rw [bindings_captured, List.map_cons, fillIn, behind, String.toList_ofList]
          rfl

/-- What stands for the variables suits them. -/
theorem suits_bindings (standFor : List.Forall₂ Piece.StandsFor pieces parts) :
    ∀ binding ∈ bindings pieces parts, binding.2 ≠ "" ∧ '/' ∉ binding.2.toList := by
  induction standFor with
  | nil => exact List.forall_mem_nil _
  | @cons piece part pieces parts standsFor _ ih =>
      cases piece with
      | literal character => exact ih
      | star => exact ih
      | captured name =>
          intro binding among
          rw [bindings_captured] at among
          rcases List.mem_cons.mp among with rfl | isBehind
          · refine ⟨fun isEmpty => standsFor.1 (String.ofList_eq_empty_iff.mp isEmpty), ?_⟩
            rw [String.toList_ofList]
            exact standsFor.2
          · exact ih binding isBehind

/-- Values that suit the variables are parts that the pieces can stand for. -/
theorem exists_parts (noStar : .star ∉ pieces) {values : List String}
    (sameLength : values.length = (pieces.filterMap Piece.variableName?).length)
    (areSegments : ∀ value ∈ values, value ≠ "" ∧ '/' ∉ value.toList) :
    ∃ parts, List.Forall₂ Piece.StandsFor pieces parts
      ∧ (bindings pieces parts).map Prod.snd = values := by
  induction pieces generalizing values with
  | nil =>
      cases List.eq_nil_of_length_eq_zero sameLength
      exact ⟨[], .nil, rfl⟩
  | cons piece pieces ih =>
      have noStarBehind := List.not_mem_of_not_mem_cons noStar
      cases piece with
      | literal character =>
          obtain ⟨parts, standFor, same⟩ := ih noStarBehind sameLength areSegments
          exact ⟨[character] :: parts, .cons rfl standFor, same⟩
      | star => exact absurd List.mem_cons_self noStar
      | captured name =>
          cases values with
          | nil => cases sameLength
          | cons value values =>
              obtain ⟨⟨isSome, noSlash⟩, others⟩ := List.forall_mem_cons.mp areSegments
              obtain ⟨parts, standFor, same⟩ := ih noStarBehind (Nat.succ.inj sameLength) others
              refine ⟨value.toList :: parts, .cons ⟨?_, noSlash⟩ standFor, ?_⟩
              · intro isNil
                exact isSome (String.toList_eq_nil_iff.mp isNil)
              · rw [bindings_captured, List.map_cons, same, String.ofList_toList]

end

/-! ### Only one way to take a name apart -/

/-- A part without a slash ends where a slash or the end of the text follows. -/
theorem eq_of_noSlash {part other rest rest' : List Char} (joined : part ++ rest = other ++ rest')
    (noSlash : '/' ∉ part) (noSlash' : '/' ∉ other) (stops : ∀ next ∈ rest.head?, next = '/')
    (stops' : ∀ next ∈ rest'.head?, next = '/') : part = other ∧ rest = rest' := by
  induction part generalizing other with
  | nil =>
      cases other with
      | nil => exact ⟨rfl, joined⟩
      | cons first other =>
          rw [List.nil_append] at joined
          cases stops first (by rw [joined]; rfl)
          exact absurd List.mem_cons_self noSlash'
  | cons first part ih =>
      cases other with
      | nil =>
          rw [List.nil_append] at joined
          cases stops' first (by rw [← joined]; rfl)
          exact absurd List.mem_cons_self noSlash
      | cons first' other =>
          cases List.head_eq_of_cons_eq joined
          obtain ⟨rfl, same⟩ := ih (List.tail_eq_of_cons_eq joined)
            (List.not_mem_of_not_mem_cons noSlash) (List.not_mem_of_not_mem_cons noSlash')
          exact ⟨rfl, same⟩

section

variable {piece : Piece} {pieces : List Piece} {text : List Char} {parts : List (List Char)}

theorem endSegments_captured {name : String} :
    endSegments (.captured name :: pieces) = true
      ↔ (∀ next ∈ pieces.head?, next = .literal '/') ∧ endSegments pieces = true := by
  rw [endSegments, Bool.and_eq_true, Option.all_eq_true]
  simp only [beq_iff_eq, Option.mem_def]

theorem endSegments_behind (ends : endSegments (piece :: pieces) = true) :
    endSegments pieces = true := by
  cases piece with
  | literal character => exact ends
  | star => exact ends
  | captured name => exact (endSegments_captured.mp ends).2

/-- What is taken apart by pieces behind a variable is nothing or begins with a slash. -/
theorem Decomposes.head?_eq_slash (decomposes : Decomposes pieces text parts)
    (slash : ∀ next ∈ pieces.head?, next = .literal '/') : ∀ next ∈ text.head?, next = '/' := by
  intro next isHead
  cases pieces with
  | nil =>
      cases (decomposes_nil.mp decomposes).2
      cases isHead
  | cons piece pieces =>
      obtain ⟨part, rest, behind, rfl, rfl, standsFor, _⟩ := decomposes_cons.mp decomposes
      cases slash piece rfl
      cases standsFor
      cases isHead
      rfl

/-- Where every variable ends its segment and no star stands, a text can be taken apart in one way
at most. -/
theorem Decomposes.unique {others : List (List Char)} (noStar : .star ∉ pieces)
    (ends : endSegments pieces = true) (here : Decomposes pieces text parts)
    (there : Decomposes pieces text others) : parts = others := by
  induction pieces generalizing text parts others with
  | nil => rw [(decomposes_nil.mp here).1, (decomposes_nil.mp there).1]
  | cons piece pieces ih =>
      obtain ⟨part, rest, behind, rfl, joined, standsFor, decomposes⟩ := decomposes_cons.mp here
      obtain ⟨part', rest', behind', rfl, joined', standsFor', decomposes'⟩ :=
        decomposes_cons.mp there
      have same : part = part' ∧ rest = rest' := by
        cases piece with
        | literal character =>
            cases standsFor
            cases standsFor'
            exact ⟨rfl, List.tail_eq_of_cons_eq (joined.trans joined'.symm)⟩
        | star => exact absurd List.mem_cons_self noStar
        | captured name =>
            have slash := (endSegments_captured.mp ends).1
            exact eq_of_noSlash (joined.trans joined'.symm) standsFor.2 standsFor'.2
              (decomposes.head?_eq_slash slash) (decomposes'.head?_eq_slash slash)
      rcases same with ⟨rfl, rfl⟩
      have noStarBehind := List.not_mem_of_not_mem_cons noStar
      rw [ih noStarBehind (endSegments_behind ends) decomposes decomposes']

/-- The only way to take a text apart is the longest one. -/
theorem Decomposes.longest (decomposes : Decomposes pieces text parts)
    (only : ∀ others, Decomposes pieces text others → others = parts) :
    Longest pieces text parts where
  toDecomposes := decomposes
  longest := by
    intro before part behind other behind' split decomposes'
    have same := (only _ decomposes').trans split
    cases List.head_eq_of_cons_eq (List.append_cancel_left same)
    exact Nat.le_refl _

end

/-! ### Templates -/

namespace Template

variable {path : String} {template : Template}

theorem spells_of_parse (parsed : parse path = .ok template) :
    Spells path.toList template.pieces := by
  rw [eq_of_parse parsed]
  exact spells_pieces (valid_of_parse parsed)

/-- Filled in with nothing a template is its path. -/
theorem fill_nil (parsed : parse path = .ok template) : template.fill [] = path := by
  have text := (spells_of_parse parsed).fillIn_nil
  rw [fill, List.map_nil, text, String.ofList_toList]

/-- A template without stars is filled in with the values that matching finds in a name, and then is
that name. -/
theorem fill_of_captures? (noStar : .star ∉ template.pieces) {name : String} {values : List String}
    (captured : template.captures? name = some values) :
    template.Suits values ∧ template.fill values = name := by
  obtain ⟨parts, longest, rfl⟩ := captures?_eq_some_iff.mp captured
  refine ⟨⟨?_, ?_⟩, ?_⟩
  · rw [variableNames, ← names_of_bindings longest.standFor, List.length_map, List.length_map]
  · intro value among
    obtain ⟨binding, bound, rfl⟩ := List.mem_map.mp among
    exact suits_bindings longest.standFor binding bound
  · rw [fill, List.map_map]
    have filled := fillIn_bindings noStar longest.standFor
    rw [longest.joined] at filled
    rw [← String.toList_inj, String.toList_ofList]
    exact filled

/-- What is put in place of variables that end their segments is found there again. -/
theorem captures?_fill (noStar : .star ∉ template.pieces)
    (ends : endSegments template.pieces = true) {values : List String}
    (suits : template.Suits values) :
    template.captures? (template.fill values) = some values := by
  obtain ⟨parts, standFor, rfl⟩ := exists_parts noStar suits.length_eq suits.areSegments
  have filled : parts.flatten
      = (template.fill ((bindings template.pieces parts).map Prod.snd)).toList := by
    rw [fill, List.map_map, String.toList_ofList]
    exact (fillIn_bindings noStar standFor).symm
  have decomposes : Decomposes template.pieces _ parts := ⟨standFor, filled⟩
  have longest := decomposes.longest fun others there => there.unique noStar ends decomposes
  exact captures?_eq_some_iff.mpr ⟨parts, longest, rfl⟩

/-- Filling in a template and matching it undo each other. -/
structure FillsAsItMatches (path : String) (template : Template) : Prop where
  /-- The places that are filled in are those of the variables in the path. -/
  unfilled : template.fill [] = path
  captures_iff : ∀ name values, template.captures? name = some values
    ↔ template.Suits values ∧ template.fill values = name
  matches_iff : ∀ name, template.isMatch name = true
    ↔ ∃ values, template.Suits values ∧ template.fill values = name

/-- Without stars, and with a slash or nothing behind every variable, exactly the values that suit
the variables are found in the name that they make. -/
theorem fillsAsItMatches_of_parse (parsed : parse path = .ok template) (noStar : '*' ∉ path.toList)
    (ends : endSegments template.pieces = true) : FillsAsItMatches path template := by
  have noStarPiece := (spells_of_parse parsed).star_not_mem noStar
  have inverse : ∀ name values, template.captures? name = some values
      ↔ template.Suits values ∧ template.fill values = name := by
    intro name values
    constructor
    · exact fill_of_captures? noStarPiece
    · rintro ⟨suits, rfl⟩
      exact captures?_fill noStarPiece ends suits
  refine ⟨fill_nil parsed, inverse, fun name => ?_⟩
  rw [isMatch, Option.isSome_iff_exists]
  exact exists_congr (inverse name)

/-- Values may look like the literals beside them, like variables, and hold line breaks. -/
theorem fillsAsItMatches_lookalikes : ∃ template, parse "$a/a+$b/$a" = .ok template
    ∧ '*' ∉ "$a/a+$b/$a".toList ∧ endSegments template.pieces = true
    ∧ FillsAsItMatches "$a/a+$b/$a" template
    ∧ template.captures? (template.fill ["a+", "a+$b\n", "$"]) = some ["a+", "a+$b\n", "$"] := by
  have parsed : parse "$a/a+$b/$a" = .ok ⟨"$a/a+$b/$a", [.captured "$a", .literal '/', .literal 'a',
      .literal '+', .captured "$b", .literal '/', .captured "$a"]⟩ := by cbv
  have inverse := fillsAsItMatches_of_parse parsed (by decide) (by decide)
  refine ⟨_, parsed, by decide, by decide, inverse, ?_⟩
  exact (inverse.captures_iff _ _).mpr ⟨⟨rfl, by decide⟩, rfl⟩

end Template

end AccessRules.Path
