import AccessRules.Text.Search

/-!
# Where a text stands in another

What is sought is found at the first position at which it stands. It makes no difference whether the
search goes over characters or over the bytes that encode them: the first byte of a character is
none of its later ones, so bytes that encode a text stand only where the text does.
-/

namespace AccessRules.Text

section

variable {α : Type} {sought text : List α} {position : Nat}

/-- The sought elements stand in the text from a position on. -/
def StandsAt (sought text : List α) (position : Nat) : Prop :=
  position ≤ text.length ∧ sought <+: text.drop position

/-- The first position at which the sought elements stand. -/
def First (sought text : List α) (position : Nat) : Prop :=
  StandsAt sought text position ∧ ∀ earlier < position, ¬ StandsAt sought text earlier

theorem standsAt_zero : StandsAt sought text 0 ↔ sought <+: text := by
  rw [StandsAt, List.drop_zero, and_iff_right (Nat.zero_le _)]

theorem standsAt_succ {first : α} {rest : List α} :
    StandsAt sought (first :: rest) (position + 1) ↔ StandsAt sought rest position := by
  rw [StandsAt, StandsAt, List.length_cons, List.drop_succ_cons, Nat.add_le_add_iff_right]

theorem standsAt_nil : StandsAt sought [] position ↔ sought = [] ∧ position = 0 := by
  rw [StandsAt, List.drop_nil, List.prefix_nil, List.length_nil, Nat.le_zero, and_comm]

/-- What stands in a text ends in it. -/
theorem StandsAt.add_length_le (stands : StandsAt sought text position) :
    position + sought.length ≤ text.length := by
  have fits := stands.2.length_le
  rw [List.length_drop] at fits
  have inside := stands.1
  omega

/-- The elements from the position on are the sought ones. -/
theorem StandsAt.getElem?_add (stands : StandsAt sought text position) {offset : Nat}
    (inside : offset < sought.length) : text[position + offset]? = sought[offset]? := by
  obtain ⟨behind, split⟩ := stands.2
  rw [← List.getElem?_drop, ← split, List.getElem?_append_left inside]

theorem First.unique {position' : Nat} (first : First sought text position)
    (first' : First sought text position') : position = position' := by
  rcases Nat.lt_trichotomy position position' with before | same | behind
  · exact absurd first.1 (first'.2 position before)
  · exact same
  · exact absurd first'.1 (first.2 position' behind)

end

/-! ### Characters -/

section

variable {sought text : List Char}

theorem startsWith_iff : startsWith sought text = true ↔ sought <+: text :=
  List.isPrefixOf_iff_prefix

/-- The search finds the first position, and nothing where there is none. -/
theorem indexOf_spec (sought text : List Char) :
    (∀ position, indexOf sought text = some position → First sought text position)
      ∧ (indexOf sought text = none → ∀ position, ¬ StandsAt sought text position) := by
  induction text with
  | nil =>
      rw [indexOf]
      simp only [First, standsAt_nil, List.isEmpty_iff]
      split
      · next isEmpty => simp [isEmpty]
      · next isSome => simp [isSome]
  | cons first rest inductionHypothesis =>
      obtain ⟨found, missing⟩ := inductionHypothesis
      rw [indexOf]
      split
      · next here =>
        refine ⟨fun position same => ?_, by simp⟩
        cases same
        exact ⟨standsAt_zero.mpr (startsWith_iff.mp here), by simp⟩
      · next notHere =>
        have notAtZero : ¬ StandsAt sought (first :: rest) 0 := by
          rwa [standsAt_zero, ← startsWith_iff]
        constructor
        · intro position same
          obtain ⟨behind, later, rfl⟩ := Option.map_eq_some_iff.mp same
          obtain ⟨stands, least⟩ := found behind later
          refine ⟨standsAt_succ.mpr stands, fun earlier before => ?_⟩
          cases earlier with
          | zero => exact notAtZero
          | succ earlier =>
              rw [standsAt_succ]
              exact least earlier (Nat.lt_of_succ_lt_succ before)
        · intro none position
          cases position with
          | zero => exact notAtZero
          | succ position =>
              rw [standsAt_succ]
              exact missing (Option.map_eq_none_iff.mp none) position

theorem indexOf_eq_some_iff {position : Nat} :
    indexOf sought text = some position ↔ First sought text position := by
  constructor
  · exact (indexOf_spec sought text).1 position
  · intro first
    cases result : indexOf sought text with
    | none => exact absurd first.1 ((indexOf_spec sought text).2 result position)
    | some found =>
        rw [((indexOf_spec sought text).1 found result).unique first]

theorem indexOf_eq_none_iff :
    indexOf sought text = none ↔ ∀ position, ¬ StandsAt sought text position := by
  constructor
  · exact (indexOf_spec sought text).2
  · intro nowhere
    cases result : indexOf sought text with
    | none => rfl
    | some found => exact absurd ((indexOf_spec sought text).1 found result).1 (nowhere found)

/-- A text includes what is found in it. -/
theorem includes_eq_isSome (sought text : List Char) :
    includes sought text = (indexOf sought text).isSome := by
  induction text with
  | nil =>
      rw [includes, indexOf]
      cases sought.isEmpty <;> rfl
  | cons first rest inductionHypothesis =>
      rw [includes, indexOf, inductionHypothesis]
      cases startsWith sought (first :: rest) with
      | true => rfl
      | false => exact Option.isSome_map.symm

/-- A text starts with what is found at its start. -/
theorem startsWith_eq_indexOf (sought text : List Char) :
    startsWith sought text = (indexOf sought text == some 0) := by
  rw [Bool.eq_iff_iff, beq_iff_eq, indexOf_eq_some_iff, First, standsAt_zero, startsWith_iff]
  simp

end

/-! ### Bytes -/

/-- The bytes that encode a text. -/
def bytes (text : List Char) : List UInt8 :=
  text.flatMap String.utf8EncodeChar

section

variable {sought text : List Char}

theorem bytes_cons (first : Char) (rest : List Char) :
    bytes (first :: rest) = String.utf8EncodeChar first ++ bytes rest :=
  List.flatMap_cons

theorem bytes_append (text text' : List Char) : bytes (text ++ text') = bytes text ++ bytes text' :=
  List.flatMap_append

theorem bytes_eq_nil_iff : bytes text = [] ↔ text = [] := by
  cases text with
  | nil => simp [bytes]
  | cons first rest => simp [bytes_cons, String.utf8EncodeChar_ne_nil]

/-- The bytes of a text tell which character comes first. -/
theorem eq_of_append_eq {first first' : Char} {behind behind' : List UInt8}
    (same : String.utf8EncodeChar first ++ behind = String.utf8EncodeChar first' ++ behind') :
    first = first' := by
  have reads (first : Char) (behind : List UInt8) :
      ((String.utf8EncodeChar first ++ behind).toByteArray).utf8DecodeChar? 0 = some first := by
    rw [List.toByteArray_append]
    exact ByteArray.utf8DecodeChar?_utf8EncodeChar_append
  have decoded := reads first behind
  rw [same, reads first' behind'] at decoded
  exact (Option.some.inj decoded).symm

/-- Bytes that encode a text begin the bytes of another only if the text begins the other. -/
theorem bytes_prefix_iff : bytes sought <+: bytes text ↔ sought <+: text := by
  constructor
  · intro begins
    induction sought generalizing text with
    | nil => exact List.nil_prefix
    | cons first rest inductionHypothesis =>
        obtain ⟨behind, same⟩ := begins
        cases text with
        | nil =>
            have none := congrArg List.length same
            rw [bytes_cons, List.append_assoc, List.length_append, String.length_utf8EncodeChar]
              at none
            have size := first.utf8Size_pos
            simp only [bytes, List.flatMap_nil, List.length_nil] at none
            omega
        | cons first' rest' =>
            rw [bytes_cons, bytes_cons, List.append_assoc] at same
            obtain rfl := eq_of_append_eq same
            exact List.cons_prefix_cons.mpr
              ⟨rfl, inductionHypothesis ⟨behind, List.append_cancel_left same⟩⟩
  · rintro ⟨behind, rfl⟩
    rw [bytes_append]
    exact List.prefix_append _ _

/-- Inside of a character, no text begins. -/
theorem not_prefix_drop {first : Char} {offset : Nat} {behind : List UInt8} (isSome : sought ≠ [])
    (later : 0 < offset) (inside : offset < (String.utf8EncodeChar first).length) :
    ¬ bytes sought <+: (String.utf8EncodeChar first ++ behind).drop offset := by
  rintro ⟨rest, same⟩
  obtain ⟨leading, others, rfl⟩ := List.exists_cons_of_ne_nil isSome
  have size : 0 < (String.utf8EncodeChar leading).length := by
    rw [String.length_utf8EncodeChar]
    exact leading.utf8Size_pos
  have isFirst : (String.utf8EncodeChar leading)[0].IsUTF8FirstByte :=
    UInt8.isUTF8FirstByte_getElem_utf8EncodeChar.mpr rfl
  have sameByte := congrArg (·[0]?) same
  simp only [bytes_cons, List.append_assoc, List.getElem?_append_left size, List.getElem?_drop,
    Nat.add_zero, List.getElem?_append_left inside, List.getElem?_eq_getElem size,
    List.getElem?_eq_getElem inside, Option.some.injEq] at sameByte
  rw [sameByte, UInt8.isUTF8FirstByte_getElem_utf8EncodeChar] at isFirst
  exact Nat.ne_of_gt later isFirst

/-- The bytes of a text stand where the text does. -/
theorem standsAt_bytes_iff (isSome : sought ≠ []) {offset : Nat} :
    StandsAt (bytes sought) (bytes text) offset ↔
      ∃ position, StandsAt sought text position ∧ offset = (bytes (text.take position)).length := by
  constructor
  · intro stands
    induction text generalizing offset with
    | nil => exact absurd (bytes_eq_nil_iff.mp (standsAt_nil.mp stands).1) isSome
    | cons first rest inductionHypothesis =>
        rcases Nat.eq_zero_or_pos offset with rfl | later
        · exact ⟨0, standsAt_zero.mpr (bytes_prefix_iff.mp (standsAt_zero.mp stands)), rfl⟩
        · rw [bytes_cons] at stands
          rcases Nat.lt_or_ge offset (String.utf8EncodeChar first).length with inside | behind
          · exact absurd stands.2 (not_prefix_drop isSome later inside)
          · obtain ⟨further, rfl⟩ := Nat.exists_eq_add_of_le behind
            rw [StandsAt, List.drop_length_add_append, List.length_append,
              Nat.add_le_add_iff_left] at stands
            obtain ⟨position, there, rfl⟩ := inductionHypothesis stands
            refine ⟨position + 1, standsAt_succ.mpr there, ?_⟩
            rw [List.take_succ_cons, bytes_cons, List.length_append]
  · rintro ⟨position, stands, rfl⟩
    have split : bytes (text.take position) ++ bytes (text.drop position) = bytes text := by
      rw [← bytes_append, List.take_append_drop]
    rw [StandsAt, ← split, List.drop_left, List.length_append]
    exact ⟨Nat.le_add_right _ _, bytes_prefix_iff.mpr stands.2⟩

theorem First.bytes {position : Nat} (isSome : sought ≠ []) (first : First sought text position) :
    First (bytes sought) (bytes text) (Text.bytes (text.take position)).length := by
  refine ⟨(standsAt_bytes_iff isSome).mpr ⟨position, first.1, rfl⟩, ?_⟩
  intro earlier before stands
  obtain ⟨position', stands', rfl⟩ := (standsAt_bytes_iff isSome).mp stands
  have later : position ≤ position' :=
    Nat.le_of_not_lt fun sooner => first.2 position' sooner stands'
  have longer : Text.bytes (text.take position) <+: Text.bytes (text.take position') :=
    bytes_prefix_iff.mpr (List.take_prefix_take_left later)
  exact Nat.not_lt.mpr longer.length_le before

theorem first_nil {α : Type} {text : List α} {position : Nat} :
    First [] text position ↔ position = 0 := by
  have here : First [] text 0 := ⟨standsAt_zero.mpr List.nil_prefix, by simp⟩
  constructor
  · intro first
    exact first.unique here
  · rintro rfl
    exact here

/-- A search over the bytes finds the same position: counted in bytes, it is as far as the
characters before it are long. -/
theorem first_bytes_iff {offset : Nat} : First (bytes sought) (bytes text) offset ↔
    ∃ position, First sought text position ∧ offset = (bytes (text.take position)).length := by
  cases sought with
  | nil =>
      change First [] _ _ ↔ _
      simp [first_nil, bytes]
  | cons leading others =>
      have isSome : leading :: others ≠ [] := List.cons_ne_nil leading others
      constructor
      · intro first
        obtain ⟨position, stands, _⟩ := (standsAt_bytes_iff isSome).mp first.1
        cases result : indexOf (leading :: others) text with
        | none => exact absurd stands (indexOf_eq_none_iff.mp result position)
        | some found =>
            have least := indexOf_eq_some_iff.mp result
            exact ⟨found, least, first.unique (least.bytes isSome)⟩
      · rintro ⟨position, first, rfl⟩
        exact first.bytes isSome

end

end AccessRules.Text
