import AccessRules.Gatekeeper.Decision
import AccessRules.Proofs.Patch.Effect
import AccessRules.Proofs.Patch.Spelling

/-!
# Positions that are out of range

No patch leads to a position above 4096, so none makes an array longer than that allows. A number in
brackets is refused if it is such a position. It is one only below the bound of the machine: a
greater number is no position at all, but a key.
-/

namespace AccessRules.Patch

/-! ### Arrays do not grow beyond the range -/

theorem valueAt?_null_ne_array (location : List Segment) (items : List Json) :
    valueAt? location .null ≠ some (.array items) := by
  cases location with
  | nil => nofun
  | cons step rest => cases step <;> nofun

/-- What a container holds at a further step it held before, or the step is a position that was
filled up. -/
theorem child?_of_child?_put {step other : Segment} {child document found : Json}
    (apart : other ≠ step) (stands : child? other (put step child document) = some found) :
    child? other document = some found ∨ found = .null := by
  cases step with
  | key key =>
      cases other with
      | key key' =>
          left
          rw [← stands]
          apply Eq.symm
          apply lookup_setField_of_ne
          rintro rfl
          exact apart rfl
      | position => cases stands
  | position index =>
      cases other with
      | key => cases stands
      | position index' =>
          have differs : index ≠ index' := by
            rintro rfl
            exact apart rfl
          have filled : (extend (itemsOf document) (index + 1))[index']? = some found :=
            (List.getElem?_set_ne differs).symm.trans stands
          have same := getElem?_extend (itemsOf document) (index + 1) index'
          rw [filled, Option.getD_some] at same
          cases held : (itemsOf document)[index']? with
          | none =>
              right
              rw [same, held]
              rfl
          | some item =>
              left
              rw [held, Option.getD_some] at same
              rw [same]
              exact held

/-- The array that a step makes of a document is no longer than the step asks for, or as long as it
was. -/
theorem length_of_put_eq_array {step : Segment} {child document : Json} {items : List Json}
    (isArray : put step child document = .array items)
    (inRange : ∀ index, step = .position index → index ≤ greatestPosition) :
    items.length ≤ greatestPosition + 1
      ∨ ∃ items', document = .array items' ∧ items'.length = items.length := by
  cases step with
  | key => cases isArray
  | position index =>
      cases isArray
      have atMost := inRange index rfl
      rw [List.length_set, length_extend]
      rcases Nat.le_total (itemsOf document).length (index + 1) with short | long
      · left
        rw [Nat.max_eq_right short]
        exact Nat.succ_le_succ atMost
      · right
        rw [Nat.max_eq_left long]
        cases document with
        | array items => exact ⟨items, rfl, rfl⟩
        | null | bool | number | string | object => exact absurd long (Nat.not_succ_le_zero _)

/-- Wherever the document then holds an array, that belongs to the value, or is no longer than steps
in range ask for, or is as long as it was. -/
theorem length_of_valueAt?_overwrite {value document : Json} {steps location : List Segment}
    {items : List Json} (inRange : ∀ index, .position index ∈ steps → index ≤ greatestPosition)
    (stands : valueAt? location (overwrite value steps document) = some (.array items)) :
    steps <+: location ∨ items.length ≤ greatestPosition + 1
      ∨ ∃ items', valueAt? location document = some (.array items')
        ∧ items'.length = items.length := by
  induction steps generalizing location document with
  | nil => exact .inl List.nil_prefix
  | cons step rest ih =>
      cases location with
      | nil =>
          right
          have isArray := Option.some.inj stands
          rcases length_of_put_eq_array isArray fun index same =>
            inRange index (same ▸ List.mem_cons_self) with short | ⟨items', rfl, same⟩
          · exact .inl short
          · exact .inr ⟨items', rfl, same⟩
      | cons other further =>
          obtain ⟨found, isChild, inside⟩ := Option.bind_eq_some_iff.mp stands
          by_cases same : other = step
          · subst same
            rw [overwrite, child?_put_self, Option.some.injEq] at isChild
            subst isChild
            rcases ih (fun index among => inRange index (List.mem_cons_of_mem _ among)) inside with
              isFront | short | ⟨items', held, same⟩
            · exact .inl (List.cons_prefix_cons.mpr ⟨rfl, isFront⟩)
            · exact .inr (.inl short)
            · right
              right
              cases old : child? other document with
              | none =>
                  rw [old] at held
                  exact absurd held (valueAt?_null_ne_array further items')
              | some child =>
                  rw [old] at held
                  refine ⟨items', ?_, same⟩
                  rw [valueAt?, old]
                  exact held
          · right
            right
            rcases child?_of_child?_put same isChild with old | rfl
            · refine ⟨items, ?_, rfl⟩
              rw [valueAt?, old]
              exact inside
            · exact absurd inside (valueAt?_null_ne_array further items)

/-! ### Paths with numbers -/

/-- A part of a path: a key, which may be empty, and numbers in brackets. -/
structure Part where
  key : List Char
  numbers : List (List Char)
  /-- Neither a dot nor a bracket ends the key. -/
  plain : '.' ∉ key ∧ '[' ∉ key
  /-- The numbers are digits, as many as they like. -/
  spelled : ∀ number ∈ numbers, number ≠ [] ∧ ∀ digit ∈ number, Decimal.isDigit digit = true

namespace Part

/-- How a part is written. -/
def text (part : Part) : List Char :=
  part.key ++ part.numbers.flatMap inBrackets

/-- The step that a number is: a position below the bound of the machine, and otherwise a key. -/
def stepOf (number : List Char) : Segment :=
  if Decimal.ofDigits number < positionBound then .position (Decimal.ofDigits number)
  else .key (String.ofList number)

/-- The steps of a part. -/
def steps (part : Part) : List Segment :=
  keySegments part.key ++ part.numbers.map stepOf

/-- Neither dots nor brackets are digits. -/
theorem not_mem_number (part : Part) {number : List Char} (among : number ∈ part.numbers)
    {other : Char} (noDigit : Decimal.isDigit other = false) : other ∉ number := by
  intro inside
  exact Decimal.ne_of_isDigit ((part.spelled number among).2 other inside) noDigit rfl

theorem no_dot (part : Part) : '.' ∉ part.text := by
  intro inside
  rcases List.mem_append.mp inside with inKey | inBrackets
  · exact part.plain.1 inKey
  · obtain ⟨number, among, inside⟩ := List.mem_flatMap.mp inBrackets
    simp only [Patch.inBrackets, List.mem_cons, List.mem_append, List.not_mem_nil, or_false]
      at inside
    rcases inside with isOpening | inNumber | isClosing
    · exact absurd isOpening (by decide)
    · exact part.not_mem_number among rfl inNumber
    · exact absurd isClosing (by decide)

theorem partSegments_text (part : Part) : partSegments part.text = part.steps := by
  have areClosed : ∀ number ∈ part.numbers, ']' ∉ number := fun number among =>
    part.not_mem_number among rfl
  have areSteps : part.numbers.map bracketed = part.numbers.map stepOf := by
    apply List.map_congr_left
    intro number among
    exact bracketed_digits (part.spelled number among).1 (part.spelled number among).2
  rw [text, partSegments_eq part.plain.2 areClosed, areSteps]
  rfl

end Part

/-- The path of some parts, with dots between them. -/
def pathText (parts : List Part) : String :=
  String.ofList (['.'].intercalate (parts.map Part.text))

/-- The numbers of a path, in their order. -/
def numbersOf (parts : List Part) : List Nat :=
  parts.flatMap fun part => part.numbers.map Decimal.ofDigits

/-- Part by part, and in it the key and its numbers, the path is read. -/
theorem segments_pathText (parts : List Part) :
    segments (pathText parts) = parts.flatMap Part.steps := by
  rw [segments, pathText, String.toList_ofList]
  by_cases isNone : parts = []
  · subst isNone
    simp [splitDots, partSegments, bracketSegments]
  · have isSome : parts.map Part.text ≠ [] := fun isNil => isNone (List.map_eq_nil_iff.mp isNil)
    have noDot : ∀ text ∈ parts.map Part.text, '.' ∉ text := by
      intro text among
      obtain ⟨part, _, rfl⟩ := List.mem_map.mp among
      exact part.no_dot
    rw [splitDots_intercalate isSome noDot, List.flatMap_map]
    exact congrArg (List.flatMap · parts) (funext Part.partSegments_text)

theorem Part.position_mem_steps_iff {part : Part} {index : Nat} :
    .position index ∈ part.steps ↔
      (∃ number ∈ part.numbers, Decimal.ofDigits number = index) ∧ index < positionBound := by
  have noKey : .position index ∉ keySegments part.key := by
    rw [keySegments]
    split <;> simp
  rw [steps, List.mem_append, or_iff_right noKey, List.mem_map]
  constructor
  · rintro ⟨number, among, isStep⟩
    rw [stepOf] at isStep
    split at isStep
    · rename_i inRange
      cases isStep
      exact ⟨⟨number, among, rfl⟩, inRange⟩
    · cases isStep
  · rintro ⟨⟨number, among, rfl⟩, inRange⟩
    exact ⟨number, among, if_pos inRange⟩

/-- The positions that a path leads to are its numbers below the bound of the machine. -/
theorem position_mem_segments_iff {parts : List Part} {index : Nat} :
    .position index ∈ segments (pathText parts) ↔
      index ∈ numbersOf parts ∧ index < positionBound := by
  simp only [segments_pathText, numbersOf, List.mem_flatMap, Part.position_mem_steps_iff,
    List.mem_map]
  constructor
  · rintro ⟨part, among, spelled, inRange⟩
    exact ⟨⟨part, among, spelled⟩, inRange⟩
  · rintro ⟨⟨part, among, spelled⟩, inRange⟩
    exact ⟨part, among, spelled, inRange⟩

/-! ### What is refused -/

/-- A patch at the path of these parts is refused for its numbers. -/
structure RefusesFar (parts : List Part) : Prop where
  /-- Below the bound of the machine a number is a position, and from there on a key. -/
  reads : segments (pathText parts) = parts.flatMap Part.steps
  /-- Refused are the positions above 4096, whatever the document and the value are. -/
  refused_iff : ∀ document value : Json,
    (∃ index, setPath document (pathText parts) value = .error index) ↔
      ∃ number ∈ numbersOf parts, greatestPosition < number ∧ number < positionBound
  /-- The error names such a position, -/
  names : ∀ (document value : Json) (index : Nat),
    setPath document (pathText parts) value = .error index →
      index ∈ numbersOf parts ∧ greatestPosition < index
  /-- and it is what a message with this patch has in place of its data. -/
  told : ∀ (message : Message) (payload : Option Json) (record : Json) (index : Nat),
    message.path = some (pathText parts) → message.document = .ok payload →
      setPath record (pathText parts) (payload.getD .null) = .error index →
        message.patched (some record) = .error (.positionOutOfRange index)

theorem refusesFar (parts : List Part) : RefusesFar parts where
  reads := segments_pathText parts
  refused_iff := by
    intro document value
    simp only [setPath_eq_error_iff]
    constructor
    · rintro ⟨index, found⟩
      obtain ⟨isStep, isFar⟩ := mem_of_farPosition? found
      obtain ⟨among, inRange⟩ := position_mem_segments_iff.mp isStep
      exact ⟨index, among, isFar, inRange⟩
    · rintro ⟨number, among, isFar, inRange⟩
      apply Option.ne_none_iff_exists'.mp
      intro noneIsFar
      have isStep := position_mem_segments_iff.mpr ⟨among, inRange⟩
      have atMost := farPosition?_eq_none_iff.mp noneIsFar number isStep
      exact absurd isFar (Nat.not_lt_of_le atMost)
  names := by
    intro document value index refused
    obtain ⟨isStep, isFar⟩ := mem_of_farPosition? (setPath_eq_error_iff.mp refused)
    exact ⟨(position_mem_segments_iff.mp isStep).1, isFar⟩
  told := by
    intro message payload record index hasPath document refused
    simp only [Message.patched, hasPath, document, refused]

/-- No array that was not part of the value is longer than it was and longer than 4097. -/
def KeepsArraysShort (path : String) : Prop :=
  ∀ document value result : Json, setPath document path value = .ok result →
    ∀ (location : List Segment) (items : List Json),
      valueAt? location result = some (.array items) →
        segments path <+: location ∨ items.length ≤ 4097
          ∨ ∃ items', valueAt? location document = some (.array items')
            ∧ items'.length = items.length

/-- Positions above 4096 are refused as far as a machine can tell them from keys, and no patch makes
an array longer than 4097. -/
theorem setPath_refusesFarPositions (parts : List Part) (path : String) :
    RefusesFar parts ∧ KeepsArraysShort path := by
  refine ⟨refusesFar parts, ?_⟩
  intro document value result sets location items stands
  obtain ⟨inRange, rfl⟩ := setPath_eq_ok_iff.mp sets
  exact length_of_valueAt?_overwrite (farPosition?_eq_none_iff.mp inRange) stands

/-- The path of a tag whose number is the first that no machine takes for a position. -/
def tagBeyond : Part where
  key := "tags".toList
  numbers := ["18446744073709551616".toList]
  plain := by decide
  spelled := by
    intro number among
    rw [List.mem_singleton.mp among]
    exact ⟨by decide, List.all_eq_true.mp rfl⟩

/-- The number is taken for a key, and an object takes the place of the array. -/
theorem tagBeyond_isKey :
    numbersOf [tagBeyond] = [18446744073709551616]
      ∧ setPath (.object [("tags", .array [])]) (pathText [tagBeyond]) (.string "eve")
        = .ok (.object [("tags", .object [("18446744073709551616", .string "eve")])]) := by
  have steps : segments (pathText [tagBeyond]) = [.key "tags", .key "18446744073709551616"] := by
    rw [segments_pathText]
    rfl
  refine ⟨rfl, ?_⟩
  rw [setPath, steps]
  rfl

end AccessRules.Patch
