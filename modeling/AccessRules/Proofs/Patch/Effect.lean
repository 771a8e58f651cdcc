import AccessRules.Proofs.Patch.Setting
import AccessRules.Proofs.Patch.Spelling

/-!
# What a patch does to a document

A patch is a lens: its value is found where it was set, a further value set there takes its place
without a trace, and whether it can be set at all is a matter of the path alone. What else there is
in the document is kept, so far as it stands beside the path in containers of the kind that the path
asks for. A container of the other kind is replaced with all that is in it.
-/

namespace AccessRules.Patch

/-! ### Reading what was set -/

/-- The document is a container in which the step can lead somewhere. -/
def Segment.Fits : Segment → Json → Prop
  | .key _, .object _ => True
  | .position _, .array _ => True
  | _, _ => False

theorem fits_put (step : Segment) (child document : Json) : step.Fits (put step child document) := by
  cases step <;> exact trivial

theorem valueAt?_overwrite (value : Json) (steps : List Segment) (document : Json) :
    valueAt? steps (overwrite value steps document) = some value := by
  induction steps generalizing document with
  | nil => rfl
  | cons step rest ih =>
      rw [overwrite, valueAt?, child?_put_self, Option.bind_some]
      exact ih _

/-- On the way to the value every step has found a container of its kind, or made it one. -/
theorem exists_fits_overwrite (value : Json) {steps before after : List Segment} {step : Segment}
    (leads : steps = before ++ step :: after) (document : Json) :
    ∃ container, valueAt? before (overwrite value steps document) = some container
      ∧ step.Fits container := by
  subst leads
  induction before generalizing document with
  | nil => exact ⟨_, rfl, fits_put step _ _⟩
  | cons first before ih =>
      obtain ⟨container, stands, fits⟩ := ih ((child? first document).getD .null)
      refine ⟨container, ?_, fits⟩
      rw [List.cons_append, overwrite, valueAt?, child?_put_self, Option.bind_some]
      exact stands

/-! ### Setting a second value -/

theorem overwrite_overwrite (value other : Json) (steps : List Segment) (document : Json) :
    overwrite other steps (overwrite value steps document) = overwrite other steps document := by
  induction steps generalizing document with
  | nil => rfl
  | cons step rest ih =>
      rw [overwrite, overwrite, child?_put_self, Option.getD_some, put_put, ih]
      rfl

/-- Setting values at a path is setting them through a lens. -/
structure IsLens (path : String) : Prop where
  /-- Whether a value can be set depends on neither the value nor the document. -/
  settable_iff : ∀ document value : Json, (∃ result, setPath document path value = .ok result) ↔
    ∀ index, .position index ∈ segments path → index ≤ greatestPosition
  /-- Each step leads through a container of its kind, and all of them lead to the value. -/
  found : ∀ document value result : Json, setPath document path value = .ok result →
    (∀ before step after, segments path = before ++ step :: after →
      ∃ container, valueAt? before result = some container ∧ step.Fits container)
      ∧ valueAt? (segments path) result = some value
  /-- Of a first value nothing is left when a second one is set. -/
  forgotten : ∀ document value other result : Json, setPath document path value = .ok result →
    ∃ final, setPath document path other = .ok final ∧ setPath result path other = .ok final

/-- Every path is a lens. -/
theorem setPath_isLens (path : String) : IsLens path where
  settable_iff := by
    intro document value
    simp only [setPath_eq_ok_iff, exists_and_left, exists_eq', and_true]
    exact farPosition?_eq_none_iff
  found := by
    intro document value result sets
    obtain ⟨_, rfl⟩ := setPath_eq_ok_iff.mp sets
    constructor
    · intro before step after leads
      exact exists_fits_overwrite value leads document
    · exact valueAt?_overwrite value _ document
  forgotten := by
    intro document value other result sets
    obtain ⟨inRange, rfl⟩ := setPath_eq_ok_iff.mp sets
    refine ⟨overwrite other (segments path) document, ?_, ?_⟩
    · exact setPath_eq_ok_iff.mpr ⟨inRange, rfl⟩
    · exact setPath_eq_ok_iff.mpr ⟨inRange, overwrite_overwrite value other _ document⟩

/-! ### What stands beside the path -/

/-- Two locations fork at these steps: up to there they are the same, and there they differ. -/
inductive Forks (step other : Segment) : List Segment → List Segment → Prop
  | here {rest rest' : List Segment} : other ≠ step →
      Forks step other (step :: rest) (other :: rest')
  | deeper {first : Segment} {rest rest' : List Segment} : Forks step other rest rest' →
      Forks step other (first :: rest) (first :: rest')

/-- Locations fork unless one of them leads to the other. -/
theorem exists_forks {steps location : List Segment} (beside : ¬ steps <+: location)
    (noPart : ¬ location <+: steps) : ∃ step other, Forks step other steps location := by
  induction steps generalizing location with
  | nil => exact absurd (List.nil_prefix) beside
  | cons step rest ih =>
      cases location with
      | nil => exact absurd (List.nil_prefix) noPart
      | cons other rest' =>
          by_cases same : other = step
          · subst same
            rw [List.cons_prefix_cons] at beside noPart
            obtain ⟨step, other', forks⟩ := ih (fun isPart => beside ⟨rfl, isPart⟩)
              (fun isPart => noPart ⟨rfl, isPart⟩)
            exact ⟨step, other', .deeper forks⟩
          · exact ⟨step, other, .here same⟩

section

variable {step other : Segment} {steps location : List Segment} {document kept : Json}

/-- A location that forks from the steps within a container of their kind holds what it held. -/
theorem valueAt?_overwrite_of_sameKind (forks : Forks step other steps location)
    (sameKind : step.SameKind other) (stands : valueAt? location document = some kept)
    (value : Json) : valueAt? location (overwrite value steps document) = some kept := by
  induction forks generalizing document with
  | here apart =>
      obtain ⟨child, isChild, inside⟩ := Option.bind_eq_some_iff.mp stands
      rw [overwrite, valueAt?, child?_put_of_sameKind sameKind apart isChild, Option.bind_some]
      exact inside
  | deeper _ ih =>
      obtain ⟨child, isChild, inside⟩ := Option.bind_eq_some_iff.mp stands
      rw [overwrite, valueAt?, child?_put_self, Option.bind_some, isChild, Option.getD_some]
      exact ih inside

/-- One that forks from them in a container of the other kind holds nothing any more. -/
theorem valueAt?_overwrite_of_not_sameKind (forks : Forks step other steps location)
    (otherKind : ¬ step.SameKind other) (document value : Json) :
    valueAt? location (overwrite value steps document) = none := by
  induction forks generalizing document with
  | here =>
      rw [overwrite, valueAt?, child?_put_of_not_sameKind otherKind]
      rfl
  | deeper _ ih =>
      rw [overwrite, valueAt?, child?_put_self, Option.bind_some]
      exact ih _

end

/-- What stands at a location that does not lie on the path is kept, if where the path leaves the way
to it both go on by keys or both by positions. Otherwise a container was in the way that is not of
the kind the path asks for, and all that was in it is gone. -/
theorem setPath_keepsOrReplaces {document value result kept : Json} {path : String}
    (sets : setPath document path value = .ok result) {location : List Segment}
    (stands : valueAt? location document = some kept) (beside : ¬ segments path <+: location)
    (noPart : ¬ location <+: segments path) :
    ∃ step other, Forks step other (segments path) location
      ∧ (step.SameKind other → valueAt? location result = some kept)
      ∧ (¬ step.SameKind other → valueAt? location result = none) := by
  obtain ⟨_, rfl⟩ := setPath_eq_ok_iff.mp sets
  obtain ⟨step, other, forks⟩ := exists_forks beside noPart
  refine ⟨step, other, forks, ?kept, ?replaced⟩
  case kept =>
    intro sameKind
    exact valueAt?_overwrite_of_sameKind forks sameKind stands value
  case replaced =>
    intro otherKind
    exact valueAt?_overwrite_of_not_sameKind forks otherKind document value

/-- The record of a house with one door, and its owners. -/
def houseOf (owners : List String) : Json :=
  .object [("door", .object [("key", .string "key/7"), ("owners", .array (owners.map .string))])]

theorem segments_house :
    segments "door.owners[0]" = [.key "door", .key "owners", .position 0]
      ∧ segments "door[0]" = [.key "door", .position 0] := by
  have first : bracketSegments ['[', '0', ']'] = [.position 0] := by
    change bracketSegments (inBrackets ['0'] ++ []) = _
    rw [bracketSegments_inBrackets (by decide), bracketSegments_nil]
    rfl
  simp [segments, splitDots, partSegments, bracketSegments_nil, first]

/-- A new first owner leaves the second one alone. -/
theorem house_keepsSecondOwner :
    setPath (houseOf ["ann", "bob"]) "door.owners[0]" (.string "eve") = .ok (houseOf ["eve", "bob"])
      ∧ ∃ step other,
        Forks step other (segments "door.owners[0]") [.key "door", .key "owners", .position 1]
        ∧ (step.SameKind other → valueAt? [.key "door", .key "owners", .position 1]
          (houseOf ["eve", "bob"]) = some (.string "bob"))
        ∧ (¬ step.SameKind other → valueAt? [.key "door", .key "owners", .position 1]
          (houseOf ["eve", "bob"]) = none) := by
  have steps := segments_house.1
  have sets : setPath (houseOf ["ann", "bob"]) "door.owners[0]" (.string "eve")
      = .ok (houseOf ["eve", "bob"]) := by
    rw [setPath, steps]
    rfl
  refine ⟨sets, setPath_keepsOrReplaces sets rfl ?beside ?noPart⟩
  case beside =>
    rw [steps]
    decide
  case noPart =>
    rw [steps]
    decide

/-- The door is an object. A patch that takes it for an array replaces it, and its key is gone. -/
theorem house_losesKey :
    setPath (houseOf ["ann"]) "door[0]" (.string "eve")
        = .ok (.object [("door", .array [.string "eve"])])
      ∧ valueAt? [.key "door", .key "key"] (houseOf ["ann"]) = some (.string "key/7")
      ∧ ¬ segments "door[0]" <+: [.key "door", .key "key"]
      ∧ ¬ [.key "door", .key "key"] <+: segments "door[0]"
      ∧ valueAt? [.key "door", .key "key"] (.object [("door", .array [.string "eve"])]) = none := by
  have steps := segments_house.2
  rw [setPath, steps]
  refine ⟨rfl, rfl, ?_, ?_, rfl⟩ <;> decide

end AccessRules.Patch
