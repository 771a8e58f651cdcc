import AccessRules.Patch

/-!
# Setting a value is overwriting it

Only the steps of a path decide whether a value can be set there. If it can, the document is
overwritten along the steps: every step puts a child into a container of its kind, and the value is
the last child. Reading a document along the steps undoes that, and overwriting it again forgets what
was set before.
-/

namespace AccessRules.Patch

/-! ### Children -/

/-- The fields of an object. Nothing else has any. -/
def fieldsOf : Json → List (String × Json)
  | .object fields => fields
  | _ => []

/-- The items of an array. Nothing else has any. -/
def itemsOf : Json → List Json
  | .array items => items
  | _ => []

/-- What stands at a step: the field of an object, or the item of an array. -/
def child? : Segment → Json → Option Json
  | .key key, document => (fieldsOf document).lookup key
  | .position index, document => (itemsOf document)[index]?

/-- The container of the step's kind with a child at the step. It keeps the other children of the
document if that is a container of this kind, and is otherwise new. -/
def put : Segment → Json → Json → Json
  | .key key, child, document => .object (Json.setField key child (fieldsOf document))
  | .position index, child, document =>
      .array ((extend (itemsOf document) (index + 1)).set index child)

/-- The value at the end of the steps. -/
def valueAt? : List Segment → Json → Option Json
  | [], document => some document
  | step :: rest, document => (child? step document).bind (valueAt? rest)

/-- The document with the value at the end of the steps. -/
def overwrite (value : Json) : List Segment → Json → Json
  | [], _ => value
  | step :: rest, document =>
      put step (overwrite value rest ((child? step document).getD .null)) document

/-- Both steps are keys, or both are positions. -/
def Segment.SameKind : Segment → Segment → Prop
  | .key _, .key _ => True
  | .position _, .position _ => True
  | _, _ => False

section

variable {step other : Segment} {child child' document : Json}

/-! ### Fields -/

theorem lookup_setField_self (key : String) (fields : List (String × Json)) :
    (Json.setField key child fields).lookup key = some child := by
  induction fields with
  | nil => exact List.lookup_cons_self
  | cons field fields ih =>
      rw [Json.setField]
      split
      · exact List.lookup_cons_self
      · rename_i isOther
        rw [List.lookup_cons, beq_false_of_ne (Ne.symm isOther)]
        exact ih

theorem lookup_setField_of_ne {key key' : String} (apart : key' ≠ key)
    (fields : List (String × Json)) :
    (Json.setField key child fields).lookup key' = fields.lookup key' := by
  induction fields with
  | nil => rw [Json.setField, List.lookup_cons, beq_false_of_ne apart]
  | cons field fields ih =>
      rw [Json.setField]
      split
      · rename_i same
        rw [List.lookup_cons, List.lookup_cons, same, beq_false_of_ne apart]
      · rw [List.lookup_cons, List.lookup_cons, ih]

/-- The place of a key stays where it was first set. -/
theorem setField_setField (key : String) (fields : List (String × Json)) :
    Json.setField key child' (Json.setField key child fields) = Json.setField key child' fields := by
  induction fields with
  | nil => simp only [Json.setField, if_true]
  | cons field fields ih =>
      by_cases same : field.1 = key
      · simp only [Json.setField, same, if_true]
      · simp only [Json.setField, same, if_false, ih]

/-! ### Items -/

theorem length_extend (items : List Json) (count : Nat) :
    (extend items count).length = max items.length count := by
  rw [extend, List.length_append, List.length_replicate]
  omega

theorem extend_eq_self {items : List Json} {count : Nat} (enough : count ≤ items.length) :
    extend items count = items := by
  rw [extend, Nat.sub_eq_zero_of_le enough, List.replicate_zero, List.append_nil]

/-- What is added reads as what is missing does. -/
theorem getElem?_extend (items : List Json) (count index : Nat) :
    ((extend items count)[index]?).getD .null = (items[index]?).getD .null := by
  rw [extend]
  rcases Nat.lt_or_ge index items.length with inside | outside
  · rw [List.getElem?_append_left inside]
  · rw [List.getElem?_append_right outside, List.getElem?_eq_none outside, List.getElem?_replicate]
    split <;> rfl

theorem getElem?_extend_of_lt {items : List Json} {index : Nat} (inside : index < items.length)
    (count : Nat) : (extend items count)[index]? = items[index]? := by
  rw [extend, List.getElem?_append_left inside]

theorem index_lt_length_extend (items : List Json) (index : Nat) :
    index < (extend items (index + 1)).length := by
  rw [length_extend]
  omega

/-! ### What stands where a child was put -/

theorem child?_put_self : child? step (put step child document) = some child := by
  cases step with
  | key key => exact lookup_setField_self key _
  | position index => exact List.getElem?_set_self (index_lt_length_extend _ index)

/-- Another child of the document is still there if it is of the step's kind. -/
theorem child?_put_of_sameKind (sameKind : step.SameKind other) (apart : other ≠ step)
    (stands : child? other document = some child') :
    child? other (put step child document) = some child' := by
  cases step with
  | key key =>
      cases other with
      | key key' =>
          rw [← stands]
          apply lookup_setField_of_ne
          rintro rfl
          exact apart rfl
      | position => exact sameKind.elim
  | position index =>
      cases other with
      | key => exact sameKind.elim
      | position index' =>
          have inside : index' < (itemsOf document).length := by
            apply Nat.lt_of_not_le
            intro outside
            rw [child?, List.getElem?_eq_none outside] at stands
            cases stands
          have differs : index ≠ index' := by
            rintro rfl
            exact apart rfl
          rw [← stands]
          exact (List.getElem?_set_ne differs).trans (getElem?_extend_of_lt inside _)

/-- A child of the other kind is not. -/
theorem child?_put_of_not_sameKind (otherKind : ¬ step.SameKind other) :
    child? other (put step child document) = none := by
  cases step with
  | key key =>
      cases other with
      | key => exact absurd trivial otherKind
      | position => rfl
  | position index =>
      cases other with
      | key => rfl
      | position => exact absurd trivial otherKind

/-- The last child that was put stands there, and all is as if it had been the only one. -/
theorem put_put : put step child' (put step child document) = put step child' document := by
  cases step with
  | key key => exact congrArg Json.object (setField_setField key _)
  | position index =>
      have enough : index + 1 ≤ ((extend (itemsOf document) (index + 1)).set index child).length := by
        rw [List.length_set]
        exact index_lt_length_extend _ index
      change Json.array ((extend ((extend (itemsOf document) (index + 1)).set index child)
        (index + 1)).set index child') = _
      rw [extend_eq_self enough, List.set_set]
      rfl

end

/-! ### Positions out of range -/

/-- The position of a step if no patch may lead to it. -/
def Segment.far? : Segment → Option Nat
  | .key _ => none
  | .position index => if greatestPosition < index then some index else none

/-- The first position among the steps that no patch may lead to. -/
def farPosition? (steps : List Segment) : Option Nat :=
  steps.findSome? Segment.far?

theorem Segment.far?_eq_some_iff {step : Segment} {index : Nat} :
    step.far? = some index ↔ step = .position index ∧ greatestPosition < index := by
  cases step with
  | key key =>
      constructor
      · intro isFar
        cases isFar
      · rintro ⟨isPosition, _⟩
        cases isPosition
  | position index' =>
      rw [far?]
      constructor
      · intro isFar
        split at isFar
        · cases isFar
          exact ⟨rfl, ‹_›⟩
        · cases isFar
      · rintro ⟨isPosition, isFar⟩
        cases isPosition
        exact if_pos isFar

theorem farPosition?_eq_none_iff {steps : List Segment} :
    farPosition? steps = none ↔ ∀ index, .position index ∈ steps → index ≤ greatestPosition := by
  rw [farPosition?, List.findSome?_eq_none_iff]
  constructor
  · intro noneIsFar index among
    apply Nat.le_of_not_lt
    intro isFar
    have isNone := noneIsFar _ among
    rw [Segment.far?_eq_some_iff.mpr ⟨rfl, isFar⟩] at isNone
    cases isNone
  · intro inRange step among
    cases far : step.far? with
    | none => rfl
    | some index =>
        obtain ⟨rfl, isFar⟩ := Segment.far?_eq_some_iff.mp far
        exact absurd (inRange index among) (Nat.not_le_of_lt isFar)

theorem mem_of_farPosition? {steps : List Segment} {index : Nat}
    (found : farPosition? steps = some index) :
    .position index ∈ steps ∧ greatestPosition < index := by
  obtain ⟨step, among, far⟩ := List.exists_of_findSome?_eq_some found
  obtain ⟨rfl, isFar⟩ := Segment.far?_eq_some_iff.mp far
  exact ⟨among, isFar⟩

/-- Setting a value fails with the first position that is out of range, and otherwise overwrites the
document. -/
theorem setAt_eq (value : Json) (steps : List Segment) (document : Json) :
    setAt value steps document =
      match farPosition? steps with
      | some index => .error index
      | none => .ok (overwrite value steps document) := by
  induction steps generalizing document with
  | nil => rfl
  | cons step rest ih =>
      cases step with
      | key key =>
          have skips : farPosition? (.key key :: rest) = farPosition? rest := rfl
          rw [skips]
          cases document <;>
            (simp only [setAt, ih]
             cases farPosition? rest <;> rfl)
      | position index =>
          by_cases isFar : greatestPosition < index
          · have finds : farPosition? (.position index :: rest) = some index := by
              simp only [farPosition?, List.findSome?_cons, Segment.far?, isFar, if_true]
            simp only [setAt, finds, isFar, if_true]
          · have skips : farPosition? (.position index :: rest) = farPosition? rest := by
              simp only [farPosition?, List.findSome?_cons, Segment.far?, isFar, if_false]
            rw [skips]
            cases document <;>
              (simp only [setAt, isFar, if_false, ih, getElem?_extend]
               cases farPosition? rest <;> rfl)

theorem setPath_eq_ok_iff {document value result : Json} {path : String} :
    setPath document path value = .ok result ↔
      farPosition? (segments path) = none ∧ overwrite value (segments path) document = result := by
  rw [setPath, setAt_eq]
  cases farPosition? (segments path) with
  | none => simp only [Except.ok.injEq, true_and]
  | some index => simp only [reduceCtorEq, false_and]

theorem setPath_eq_error_iff {document value : Json} {path : String} {index : Nat} :
    setPath document path value = .error index ↔ farPosition? (segments path) = some index := by
  rw [setPath, setAt_eq]
  cases farPosition? (segments path) with
  | none => simp only [reduceCtorEq]
  | some index' => simp only [Except.error.injEq, Option.some.injEq]

end AccessRules.Patch
