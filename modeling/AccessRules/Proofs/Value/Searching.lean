import AccessRules.Code.Method
import AccessRules.Proofs.Decimal.WholeText
import AccessRules.Proofs.Text.Search

/-!
# Searching a string and indexing it

What is found in a string stands at the position that is told, in the string's own count of
characters, which is the count of its length and of its indices.
-/

namespace AccessRules.Value

open Text

/-- What the searches of the text for what is sought tell, `index` being what `indexOf` tells. -/
structure Tells (text sought : String) (index : Value) : Prop where
  /-- The search for the index never fails. -/
  indexOf : (string text).callMethod .indexOf (string sought) = .ok index
  /-- The index is -1 if the sought characters stand nowhere, and only then. -/
  missing : index.strictEquals (.number (-1)) = true ↔
    ∀ position, ¬ StandsAt sought.toList text.toList position
  /-- The text includes what is sought if the index is not -1. -/
  includes : (string text).callMethod .includes (string sought)
    = .ok (applyBinary .strictUnequal index (.number (-1)))
  /-- It starts with what is sought if the index is 0. -/
  startsWith : (string text).callMethod .startsWith (string sought)
    = .ok (applyBinary .strictEqual index (.number 0))

/-- Searching the text for what is sought agrees with indexing. -/
structure SearchesAsIndexed (text sought : String) : Prop where
  /-- Every search tells something, and the three agree on it. -/
  told : ∃ index, Tells text sought index
  /-- The index is the first position at which the sought characters stand. -/
  found : ∀ position, First sought.toList text.toList position →
    (string text).callMethod .indexOf (string sought) = .ok (.number (Float.ofNat position))
  /-- A search over the bytes of the text finds the same position. -/
  inBytes : ∀ offset, First (bytes sought.toList) (bytes text.toList) offset ↔
    ∃ position, First sought.toList text.toList position
      ∧ offset = (bytes (text.toList.take position)).length
  /-- What is found does not reach beyond the end of the text. -/
  inside : ∀ position, First sought.toList text.toList position →
    position + sought.length ≤ text.length
  /-- The character that is indexed from the position on is the one that is sought. -/
  characters : ∀ position, First sought.toList text.toList position →
    ∀ offset < sought.length, position + offset < positionBound →
    ∃ character : Char,
      (string text).property (toString (position + offset)) = .ok (.string character.toString)
        ∧ (string sought).property (toString offset) = .ok (.string character.toString)
  /-- So it is with the lengths that the two tell and with computed numbers, as long as doubles can
  count the text. -/
  computed : ∀ position, First sought.toList text.toList position →
    text.length < Decimal.exactBound →
    (∃ whole part, (string text).property "length" = .ok whole
      ∧ (string sought).property "length" = .ok part
      ∧ applyBinary .lessOrEqual (applyBinary .add (.number (Float.ofNat position)) part) whole
        = .bool true)
      ∧ ∀ offset < sought.length,
        (string text).property (applyBinary .add (.number (Float.ofNat position))
            (.number (Float.ofNat offset))).toText
          = (string sought).property (Value.number (Float.ofNat offset)).toText

/-- The character at a position of a string. -/
theorem property_toString {text : String} {position : Nat} {character : Char}
    (inRange : position < positionBound) (stands : text.toList[position]? = some character) :
    (string text).property (toString position) = .ok (.string character.toString) := by
  have spelled := Decimal.position?_toString inRange
  have noLength : toString position ≠ "length" := by
    intro isLength
    rw [isLength] at spelled
    cases spelled
  rw [property, member?, if_neg noLength, spelled, Option.bind_some, stands]
  rfl

/-- From the first position on stand the sought characters. -/
theorem exists_character {text sought : String} {position : Nat}
    (first : First sought.toList text.toList position) {offset : Nat}
    (inSought : offset < sought.length) (inRange : position + offset < positionBound) :
    ∃ character : Char,
      (string text).property (toString (position + offset)) = .ok (.string character.toString)
        ∧ (string sought).property (toString offset) = .ok (.string character.toString) := by
  obtain ⟨character, isSought⟩ : ∃ character, sought.toList[offset]? = some character :=
    ⟨_, List.getElem?_eq_getElem inSought⟩
  have stands := first.1.getElem?_add inSought
  rw [isSought] at stands
  exact ⟨character, property_toString inRange stands,
    property_toString (Nat.lt_of_le_of_lt (Nat.le_add_left _ _) inRange) isSought⟩

theorem callMethod_indexOf (text sought : String) :
    (string text).callMethod .indexOf (string sought)
      = .ok (ofPosition (indexOf sought.toList text.toList)) :=
  rfl

/-- The length of a string is the number of its characters. -/
theorem property_length (text : String) :
    (string text).property "length" = .ok (.number (Float.ofNat text.length)) :=
  rfl

/-- No position is -1. -/
theorem strictEquals_ofPosition (position : Option Nat) :
    (ofPosition position).strictEquals (.number (-1)) = position.isNone := by
  cases position with
  | none => rfl
  | some position => exact Decimal.ofNat_beq_neg_one position

/-- Numbers that are small enough are added and compared as they are. -/
theorem add_lessOrEqual {first second bound : Nat} (within : first + second ≤ bound)
    (exact : bound < Decimal.exactBound) :
    applyBinary .lessOrEqual
        (applyBinary .add (.number (Float.ofNat first)) (.number (Float.ofNat second)))
        (.number (Float.ofNat bound)) = .bool true := by
  have countable : first + second < Decimal.exactBound := Nat.lt_of_le_of_lt within exact
  change Value.bool (compareNumbers (Float.ofNat first + Float.ofNat second)
        (Float.ofNat bound) == some .lt
      || compareNumbers (Float.ofNat first + Float.ofNat second)
        (Float.ofNat bound) == some .eq) = Value.bool true
  rw [Decimal.ofNat_add countable, Decimal.compareNumbers_ofNat countable exact]
  rcases Nat.lt_or_eq_of_le within with less | same
  · rw [Nat.compare_eq_lt.mpr less]
    rfl
  · rw [Nat.compare_eq_eq.mpr same]
    rfl

/-- The character at a computed index is the one that is sought. -/
theorem property_add {text sought : String} {position offset : Nat}
    (first : First sought.toList text.toList position) (inSought : offset < sought.length)
    (exact : position + offset < Decimal.exactBound) :
    (string text).property (applyBinary .add (.number (Float.ofNat position))
        (.number (Float.ofNat offset))).toText
      = (string sought).property (Value.number (Float.ofNat offset)).toText := by
  have inRange : position + offset < positionBound := Nat.lt_trans exact (by decide)
  change (string text).property (numberLayout.render (Float.ofNat position + Float.ofNat offset))
    = (string sought).property (numberLayout.render (Float.ofNat offset))
  rw [Decimal.ofNat_add exact, Decimal.render_ofNat exact,
    Decimal.render_ofNat (Nat.lt_of_le_of_lt (Nat.le_add_left _ _) exact)]
  obtain ⟨character, inText, inSought⟩ := exists_character first inSought inRange
  rw [inText, inSought]

/-- The three searches agree on the position that the search for the index finds. -/
theorem tells_ofPosition (text sought : String) :
    Tells text sought (ofPosition (indexOf sought.toList text.toList)) where
  indexOf := callMethod_indexOf text sought
  missing := by
    rw [← indexOf_eq_none_iff, strictEquals_ofPosition, Option.isNone_iff_eq_none]
  includes := by
    change Except.ok (Value.bool (Text.includes sought.toList text.toList))
      = Except.ok (Value.bool (!(ofPosition _).strictEquals (.number (-1))))
    rw [includes_eq_isSome, strictEquals_ofPosition, Option.not_isNone]
  startsWith := by
    change Except.ok (Value.bool (Text.startsWith sought.toList text.toList)) = _
    rw [startsWith_eq_indexOf]
    cases Text.indexOf sought.toList text.toList with
    | none => rfl
    | some position =>
        change _ = Except.ok (Value.bool (Float.ofNat position == 0))
        rw [Decimal.ofNat_beq_zero]
        cases position with
        | zero => rfl
        | succ position => rfl

/-- Searching any text for any other agrees with indexing. -/
theorem searchesAsIndexed (text sought : String) : SearchesAsIndexed text sought where
  told := ⟨_, tells_ofPosition text sought⟩
  found position first := by
    rw [callMethod_indexOf, indexOf_eq_some_iff.mpr first]
    rfl
  inBytes offset := first_bytes_iff
  inside position first := first.1.add_length_le
  characters position first offset inSought inRange :=
    exists_character first inSought inRange
  computed position first short := by
    have inside : position + sought.length ≤ text.length := first.1.add_length_le
    constructor
    · exact ⟨_, _, property_length text, property_length sought, add_lessOrEqual inside short⟩
    · intro offset inSought
      exact property_add first inSought
        (Nat.lt_trans (Nat.add_lt_add_left inSought position) (Nat.lt_of_le_of_lt inside short))

end AccessRules.Value
