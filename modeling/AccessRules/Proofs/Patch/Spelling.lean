import AccessRules.Patch
import AccessRules.Proofs.Decimal.Digits

/-!
# How the steps of a path are spelled

A path is written in parts with dots between them, and a part as a key, which may be empty, with
brackets behind it. Each part is read on its own, and in it the key and the brackets one by one.
-/

namespace AccessRules

theorem Text.trimChars_eq_self {text : List Char}
    (noBlank : ∀ character ∈ text, isBlank character = false) : trimChars text = text := by
  have keeps (text : List Char) (noBlank : ∀ character ∈ text, isBlank character = false) :
      skipBlanks text = text := by
    cases text with
    | nil => rfl
    | cons first others =>
        rw [skipBlanks, List.dropWhile_cons, noBlank first List.mem_cons_self]
        rfl
  rw [trimChars, keeps text noBlank, keeps, List.reverse_reverse]
  intro character among
  exact noBlank character (List.mem_reverse.mp among)

namespace Patch

/-! ### Parts -/

theorem splitDots_eq (text : List Char) : splitDots text = text.splitOn '.' := by
  induction text with
  | nil => rfl
  | cons first others ih =>
      rw [List.splitOn_cons_eq_if_modifyHead, ← ih]
      by_cases isDot : first = '.'
      · subst isDot
        rfl
      · rw [beq_false_of_ne isDot, splitDots]
        · obtain ⟨part, parts, split⟩ := List.exists_cons_of_ne_nil
            (ih ▸ List.splitOn_ne_nil '.' others)
          rw [split]
          rfl
        · exact isDot

/-- Parts without dots are split where they have been joined. -/
theorem splitDots_intercalate {parts : List (List Char)} (isSome : parts ≠ [])
    (noDot : ∀ part ∈ parts, '.' ∉ part) : splitDots (['.'].intercalate parts) = parts := by
  rw [splitDots_eq]
  exact List.splitOn_intercalate '.' noDot isSome

/-! ### Brackets -/

/-- A text in brackets. -/
def inBrackets (inside : List Char) : List Char :=
  '[' :: (inside ++ [']'])

theorem bracketSegments_nil : bracketSegments [] = [] := by
  simp [bracketSegments]

theorem bracketSegments_inBrackets {inside : List Char} (isClosed : ']' ∉ inside)
    (behind : List Char) :
    bracketSegments (inBrackets inside ++ behind) = bracketed inside :: bracketSegments behind := by
  have goesOn : ∀ character ∈ inside, (character != ']') = true := by
    intro character among
    rw [bne_iff_ne]
    rintro rfl
    exact isClosed among
  have front : (inside ++ ']' :: behind).takeWhile (· != ']') = inside := by
    rw [List.takeWhile_append_of_pos goesOn]
    exact List.append_nil inside
  have closing : (inside ++ ']' :: behind).dropWhile (· != ']') = ']' :: behind :=
    List.dropWhile_append_of_pos goesOn
  rw [inBrackets, List.cons_append, List.append_assoc, List.singleton_append, bracketSegments]
  split
  · rename_i further found
    rw [closing] at found
    cases found
    rw [front]
  · rename_i found
    rw [closing] at found
    cases found

/-- The brackets behind a key are read one by one. -/
theorem bracketSegments_flatMap {insides : List (List Char)}
    (areClosed : ∀ inside ∈ insides, ']' ∉ inside) :
    bracketSegments (insides.flatMap inBrackets) = insides.map bracketed := by
  induction insides with
  | nil => exact bracketSegments_nil
  | cons inside insides ih =>
      rw [List.flatMap_cons, bracketSegments_inBrackets (areClosed inside List.mem_cons_self),
        ih fun other among => areClosed other (List.mem_cons_of_mem _ among), List.map_cons]

/-- The step that a key is, unless it is empty. -/
def keySegments (key : List Char) : List Segment :=
  if key.isEmpty then [] else [.key (String.ofList key)]

theorem partSegments_eq {key : List Char} {insides : List (List Char)} (noBracket : '[' ∉ key)
    (areClosed : ∀ inside ∈ insides, ']' ∉ inside) :
    partSegments (key ++ insides.flatMap inBrackets)
      = keySegments key ++ insides.map bracketed := by
  have goesOn : ∀ character ∈ key, (character != '[') = true := by
    intro character among
    rw [bne_iff_ne]
    rintro rfl
    exact noBracket among
  have front : (insides.flatMap inBrackets).takeWhile (· != '[') = [] := by
    cases insides <;> rfl
  have behind : (insides.flatMap inBrackets).dropWhile (· != '[') = insides.flatMap inBrackets := by
    cases insides <;> rfl
  rw [partSegments, List.takeWhile_append_of_pos goesOn, List.dropWhile_append_of_pos goesOn, front,
    behind, List.append_nil, bracketSegments_flatMap areClosed]
  rfl

/-! ### Numbers in brackets -/

/-- Digits in brackets are a position if that is not too high for a machine, and otherwise a key. -/
theorem bracketed_digits {digits : List Char} (isSome : digits ≠ [])
    (areDigits : ∀ digit ∈ digits, Decimal.isDigit digit = true) :
    bracketed digits =
      if Decimal.ofDigits digits < positionBound then .position (Decimal.ofDigits digits)
      else .key (String.ofList digits) := by
  have trimmed : Text.trimChars digits = digits :=
    Text.trimChars_eq_self fun digit among =>
      Decimal.isBlank_eq_false_of_isDigit (areDigits digit among)
  rw [bracketed, trimmed, Decimal.natural?_of_digits positionBound isSome areDigits]
  by_cases inRange : Decimal.ofDigits digits < positionBound
  · rw [if_pos inRange, if_pos inRange]
  · rw [if_neg inRange, if_neg inRange]

end Patch

end AccessRules
