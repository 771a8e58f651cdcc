import AccessRules.Proofs.Decimal.Digits
import AccessRules.Proofs.Expr.Lexeme

/-!
# Finding the longest lexeme

The longest lexeme at the front of a text can be computed: a number is looked for first, and where
there is none the first character decides between strings, names and symbols.
-/

namespace AccessRules.Lexeme

/-- The lexeme at the front of a text, and what follows it. -/
def next? (text : List Char) : Option (Lexeme × List Char) :=
  match Decimal.scanLiteral? text with
  | some (numeral, rest) => some (.number numeral, rest)
  | none =>
      match text with
      | [] => none
      | first :: others =>
          if Token.isQuote first then
            match Token.stringTail first [] others with
            | .ok (content, rest) => some (.string content, rest)
            | .error _ => none
          else
            match Token.identifier? text with
            | some (name, rest) => some (.word name, rest)
            | none =>
                (symbols.find? fun symbol => symbol.toList.isPrefixOf text).map fun symbol =>
                  (.symbol symbol, text.drop symbol.length)

/-- What was found is this value with this rest behind it, or something longer. -/
def Covers {α : Type} (found : Option (α × List Char)) (value : α) (rest : List Char) : Prop :=
  ∃ value' rest', found = some (value', rest')
    ∧ (rest'.length < rest.length ∨ value' = value ∧ rest' = rest)

namespace Covers

variable {α : Type} {found : Option (α × List Char)} {value : α} {rest : List Char}

theorem exact (isFound : found = some (value, rest)) : Covers found value rest :=
  ⟨value, rest, isFound, .inr ⟨rfl, rfl⟩⟩

theorem longer {value' : α} {rest' : List Char} (isFound : found = some (value', rest'))
    (shorter : rest'.length < rest.length) : Covers found value rest :=
  ⟨value', rest', isFound, .inl shorter⟩

end Covers

/-! ### Numbers -/

section Numbers

open Decimal

/-- A run of digits is passed over together with the digits that follow it. -/
theorem spanDigits_append {digits : List Char} (allDigits : AllDigits digits) (text : List Char) :
    spanDigits (digits ++ text) = (digits ++ (spanDigits text).1, (spanDigits text).2) := by
  simp only [spanDigits, List.takeWhile_append_of_pos allDigits,
    List.dropWhile_append_of_pos allDigits]

theorem spanDigits_cons {first : Char} (noDigit : isDigit first = false) (text : List Char) :
    spanDigits (first :: text) = ([], first :: text) := by
  simp only [spanDigits, List.takeWhile_cons, List.dropWhile_cons, noDigit, Bool.false_eq_true,
    if_false]

theorem allDigits_spanDigits (text : List Char) : AllDigits (spanDigits text).1 :=
  List.all_eq_true.mp List.all_takeWhile

theorem spanDigits_split (text : List Char) : (spanDigits text).1 ++ (spanDigits text).2 = text :=
  List.takeWhile_append_dropWhile

theorem length_spanDigits_lt {text : List Char} (isSome : (spanDigits text).1 ≠ []) :
    (spanDigits text).2.length < text.length := by
  obtain ⟨digit, digits, spanned⟩ := List.exists_cons_of_ne_nil isSome
  have found : spanDigits text = (digit :: digits, (spanDigits text).2) := by rw [← spanned]
  exact length_lt_of_spanDigits found

/-- Digits without any further ones behind them, or with some, which makes them longer. -/
theorem spanDigits_covers {digits : List Char} (allDigits : AllDigits digits) (rest : List Char) :
    spanDigits (digits ++ rest) = (digits, rest)
      ∨ (spanDigits (digits ++ rest)).2.length < rest.length := by
  rw [spanDigits_append allDigits]
  by_cases none : (spanDigits rest).1 = []
  · left
    have split := spanDigits_split rest
    rw [none, List.nil_append] at split
    rw [none, split, List.append_nil]
  · exact .inr (length_spanDigits_lt none)

theorem scanMagnitude?_eq {text digits rest : List Char} {digit : Char}
    (spanned : spanDigits text = (digit :: digits, rest)) (negative : Bool) :
    scanMagnitude? negative text =
      some (if negative then -(ofDigits (digit :: digits) : Int)
        else (ofDigits (digit :: digits) : Int), rest) := by
  rw [scanMagnitude?, spanned]

theorem scanMagnitude?_covers {digits : List Char} (isSome : digits ≠ [])
    (allDigits : AllDigits digits) (rest : List Char) (negative : Bool) :
    Covers (scanMagnitude? negative (digits ++ rest))
      (if negative then -(ofDigits digits : Int) else (ofDigits digits : Int)) rest := by
  obtain ⟨first, others, rfl⟩ := List.exists_cons_of_ne_nil isSome
  rcases spanDigits_covers allDigits rest with spanned | shorter
  · exact .exact (scanMagnitude?_eq spanned negative)
  · have spanned := spanDigits_append allDigits rest
    rw [spanned] at shorter
    exact .longer (scanMagnitude?_eq spanned negative) shorter

/-- An exponent that is there is found. -/
theorem scanExponent?_covers {first : Char} {others : List Char} {exponent : Int}
    (spells : SpellsExponent (first :: others) exponent) (rest : List Char) :
    Covers (scanExponent? (first :: others ++ rest)) exponent rest := by
  cases spells with
  | unsigned isLetter isSome allDigits =>
      obtain ⟨digit, digits, rfl⟩ := List.exists_cons_of_ne_nil isSome
      have isDigit := allDigits digit List.mem_cons_self
      have noPlus : digit ≠ '+' := ne_of_isDigit isDigit rfl
      have noMinus : digit ≠ '-' := ne_of_isDigit isDigit rfl
      simpa [scanExponent?, isLetter, noPlus, noMinus]
        using scanMagnitude?_covers isSome allDigits rest false
  | plus isLetter isSome allDigits =>
      simpa [scanExponent?, isLetter] using scanMagnitude?_covers isSome allDigits rest false
  | minus isLetter isSome allDigits =>
      simpa [scanExponent?, isLetter] using scanMagnitude?_covers isSome allDigits rest true

/-- The digits of a number with the exponent that follows them, if one does. -/
def withExponent (whole fraction text : List Char) : Literal × List Char :=
  match scanExponent? text with
  | some (exponent, rest) => (⟨whole, fraction, exponent⟩, rest)
  | none => (⟨whole, fraction, 0⟩, text)

/-- With an exponent or without one, no more than the text is left. -/
theorem length_withExponent_le (whole fraction text : List Char) :
    (withExponent whole fraction text).2.length ≤ text.length := by
  unfold withExponent
  split
  · rename_i scanned
    exact Nat.le_of_lt (length_lt_of_scanExponent scanned)
  · exact Nat.le_refl _

theorem withExponent_covers {text : List Char} {exponent : Int}
    (spells : SpellsExponent text exponent) (whole fraction rest : List Char) :
    Covers (some (withExponent whole fraction (text ++ rest))) ⟨whole, fraction, exponent⟩
      rest := by
  cases text with
  | nil =>
      cases spells
      rw [List.nil_append]
      unfold withExponent
      cases scanned : scanExponent? rest with
      | some hit => exact .longer rfl (length_lt_of_scanExponent scanned)
      | none => exact .exact rfl
  | cons first others =>
      obtain ⟨exponent', rest', scanned, covers⟩ := scanExponent?_covers spells rest
      refine ⟨⟨whole, fraction, exponent'⟩, rest', ?_, covers.imp_right ?_⟩
      · rw [withExponent, scanned]
      · rintro ⟨rfl, rfl⟩
        exact ⟨rfl, rfl⟩

/-- Behind digits that no point follows comes the exponent. -/
theorem scanLiteral?_whole {text whole after : List Char}
    (spanned : spanDigits text = (whole, after)) (isSome : whole ≠ [])
    (noPoint : ∀ further, after ≠ '.' :: further) :
    scanLiteral? text = some (withExponent whole [] after) := by
  obtain ⟨digit, digits, rfl⟩ := List.exists_cons_of_ne_nil isSome
  simp only [scanLiteral?, spanned]
  rfl

/-- Behind digits and a point comes the fraction. -/
theorem scanLiteral?_point {text whole after : List Char}
    (spanned : spanDigits text = (whole, '.' :: after)) (isSome : whole ≠ []) :
    scanLiteral? text = some (withExponent whole (spanDigits after).1 (spanDigits after).2) := by
  obtain ⟨digit, digits, rfl⟩ := List.exists_cons_of_ne_nil isSome
  simp only [scanLiteral?, spanned]
  rfl

theorem scanLiteral?_leadingPoint {after : List Char} (isSome : (spanDigits after).1 ≠ []) :
    scanLiteral? ('.' :: after)
      = some (withExponent [] (spanDigits after).1 (spanDigits after).2) := by
  obtain ⟨digit, digits, spanned⟩ := List.exists_cons_of_ne_nil isSome
  have found : spanDigits after = (digit :: digits, (spanDigits after).2) := by rw [← spanned]
  unfold scanLiteral?
  rw [spanDigits_cons rfl]
  simp only
  rw [found]
  rfl

/-- No number begins like this. -/
theorem scanLiteral?_cons_eq_none {first : Char} {others : List Char}
    (noDigit : isDigit first = false) (noPoint : first = '.' → (spanDigits others).1 = []) :
    scanLiteral? (first :: others) = none := by
  unfold scanLiteral?
  rw [spanDigits_cons noDigit]
  by_cases isPoint : first = '.'
  · subst isPoint
    have noFraction : spanDigits others = ([], (spanDigits others).2) := by
      rw [← noPoint rfl]
    simp only
    rw [noFraction]
  · simp [isPoint]

theorem not_isDigit_of_letter {letter : Char} (isLetter : letter = 'e' ∨ letter = 'E') :
    isDigit letter = false ∧ letter ≠ '.' := by
  rcases isLetter with rfl | rfl <;> decide

/-- An exponent that is there begins with neither a digit nor a point. -/
theorem not_isDigit_of_spellsExponent {first : Char} {others : List Char} {power : Int}
    (spells : SpellsExponent (first :: others) power) : isDigit first = false ∧ first ≠ '.' := by
  cases spells with
  | unsigned isLetter | plus isLetter | minus isLetter => exact not_isDigit_of_letter isLetter

/-- Digits before an exponent are a whole run, or the exponent is missing and more digits follow. -/
theorem spanDigits_covers_exponent {digits exponent : List Char} {power : Int}
    (allDigits : AllDigits digits) (spells : SpellsExponent exponent power) (rest : List Char) :
    spanDigits (digits ++ (exponent ++ rest)) = (digits, exponent ++ rest)
      ∨ (spanDigits (digits ++ (exponent ++ rest))).2.length < rest.length := by
  cases exponent with
  | nil => exact spanDigits_covers allDigits rest
  | cons first others =>
      left
      rw [spanDigits_append allDigits, List.cons_append,
        spanDigits_cons (not_isDigit_of_spellsExponent spells).1, List.append_nil]

/-- A spelled number is found, or a longer one. -/
theorem scanLiteral?_covers {mantissa exponent : List Char} {numeral : Literal}
    (spells : SpellsMantissa mantissa numeral.whole numeral.fraction)
    (power : SpellsExponent exponent numeral.exponent) (rest : List Char) :
    Covers (scanLiteral? (mantissa ++ exponent ++ rest)) numeral rest := by
  obtain ⟨whole, fraction, value⟩ := numeral
  rw [List.append_assoc]
  cases spells with
  | whole isSome allDigits =>
      obtain ⟨digits, after, spanned⟩ :
        ∃ digits after, spanDigits (whole ++ (exponent ++ rest)) = (digits, after) := ⟨_, _, rfl⟩
      have isSome' : digits ≠ [] := by
        rw [spanDigits_append allDigits, Prod.mk.injEq] at spanned
        rw [← spanned.1]
        exact List.append_ne_nil_of_left_ne_nil isSome _
      by_cases isPoint : ∃ further, after = '.' :: further
      · -- A point makes the number longer: no exponent begins with one.
        obtain ⟨further, rfl⟩ := isPoint
        refine .longer (scanLiteral?_point spanned isSome')
          (Nat.lt_of_le_of_lt (length_withExponent_le _ _ _) ?_)
        refine Nat.lt_of_le_of_lt (length_spanDigits_le further) ?_
        rcases spanDigits_covers_exponent allDigits power rest with exactly | shorter
        · rw [exactly, Prod.mk.injEq] at spanned
          cases exponent with
          | nil => rw [← List.nil_append rest, spanned.2]; exact Nat.lt_succ_self _
          | cons first others =>
              rw [List.cons_append, List.cons.injEq] at spanned
              exact absurd spanned.2.1 (not_isDigit_of_spellsExponent power).2
        · rw [spanned] at shorter
          exact Nat.lt_of_succ_lt shorter
      · have found := scanLiteral?_whole spanned isSome' (not_exists.mp isPoint)
        rcases spanDigits_covers_exponent allDigits power rest with exactly | shorter
        · rw [exactly, Prod.mk.injEq] at spanned
          rw [← spanned.1, ← spanned.2] at found
          rw [found]
          exact withExponent_covers power whole [] rest
        · rw [spanned] at shorter
          exact .longer found (Nat.lt_of_le_of_lt (length_withExponent_le _ _ _) shorter)
  | point isSome allDigits allFraction =>
      have spanned : spanDigits (whole ++ '.' :: fraction ++ (exponent ++ rest))
          = (whole, '.' :: (fraction ++ (exponent ++ rest))) := by
        rw [List.append_assoc, spanDigits_append allDigits, List.cons_append, spanDigits_cons rfl,
          List.append_nil]
      have found := scanLiteral?_point spanned isSome
      rcases spanDigits_covers_exponent allFraction power rest with exactly | shorter
      · rw [exactly] at found
        rw [found]
        exact withExponent_covers power whole fraction rest
      · exact .longer found (Nat.lt_of_le_of_lt (length_withExponent_le _ _ _) shorter)
  | leadingPoint isSome allDigits =>
      have isSome' : (spanDigits (fraction ++ (exponent ++ rest))).1 ≠ [] := by
        rw [spanDigits_append allDigits]
        exact List.append_ne_nil_of_left_ne_nil isSome _
      have found := scanLiteral?_leadingPoint isSome'
      rcases spanDigits_covers_exponent allDigits power rest with exactly | shorter
      · rw [exactly] at found
        rw [List.cons_append, found]
        exact withExponent_covers power [] fraction rest
      · exact .longer found (Nat.lt_of_le_of_lt (length_withExponent_le _ _ _) shorter)

theorem scanMagnitude?_spells {negative : Bool} {text rest : List Char} {value : Int}
    (scanned : scanMagnitude? negative text = some (value, rest)) :
    ∃ digits, digits ≠ [] ∧ AllDigits digits ∧ digits ++ rest = text
      ∧ value = if negative then -(ofDigits digits : Int) else (ofDigits digits : Int) := by
  cases spanned : (spanDigits text).1 with
  | nil =>
      have none : spanDigits text = ([], (spanDigits text).2) := by rw [← spanned]
      rw [scanMagnitude?, none] at scanned
      cases scanned
  | cons digit digits =>
      have found : spanDigits text = (digit :: digits, (spanDigits text).2) := by rw [← spanned]
      rw [scanMagnitude?_eq found] at scanned
      cases scanned
      refine ⟨digit :: digits, List.cons_ne_nil _ _, ?_, ?_, rfl⟩
      · rw [← spanned]
        exact allDigits_spanDigits text
      · rw [← spanned]
        exact spanDigits_split text

theorem scanExponent?_spells {text rest : List Char} {value : Int}
    (scanned : scanExponent? text = some (value, rest)) :
    ∃ front, SpellsExponent front value ∧ front ++ rest = text := by
  unfold scanExponent? at scanned
  split at scanned
  · split at scanned
    · rename_i isLetter
      split at scanned
      · obtain ⟨digits, isSome, allDigits, rfl, rfl⟩ := scanMagnitude?_spells scanned
        exact ⟨_, .plus isLetter isSome allDigits, rfl⟩
      · obtain ⟨digits, isSome, allDigits, rfl, rfl⟩ := scanMagnitude?_spells scanned
        exact ⟨_, .minus isLetter isSome allDigits, rfl⟩
      · obtain ⟨digits, isSome, allDigits, rfl, rfl⟩ := scanMagnitude?_spells scanned
        exact ⟨_, .unsigned isLetter isSome allDigits, rfl⟩
    · cases scanned
  · cases scanned

/-- The digits are kept, and behind them stands what spells the exponent. -/
theorem withExponent_spells (whole fraction text : List Char) :
    ∃ front value rest, withExponent whole fraction text = (⟨whole, fraction, value⟩, rest)
      ∧ SpellsExponent front value ∧ front ++ rest = text := by
  unfold withExponent
  cases scanned : scanExponent? text with
  | some hit =>
      obtain ⟨front, spells, split⟩ := scanExponent?_spells scanned
      exact ⟨front, hit.1, hit.2, rfl, spells, split⟩
  | none => exact ⟨[], 0, text, rfl, .missing, rfl⟩

/-- The mantissa and the exponent of a number that was found. -/
theorem spells_of_withExponent {whole fraction mantissa after rest text : List Char}
    {numeral : Literal} (spells : SpellsMantissa mantissa whole fraction)
    (split : mantissa ++ after = text)
    (found : some (withExponent whole fraction after) = some (numeral, rest)) :
    ∃ front, Spells front (.number numeral) ∧ front ++ rest = text := by
  obtain ⟨exponent, value, rest', isThis, power, rfl⟩ := withExponent_spells whole fraction after
  rw [isThis] at found
  cases found
  exact ⟨mantissa ++ exponent, .number spells power, by rw [List.append_assoc, split]⟩

/-- What is found as a number is spelled as one. -/
theorem scanLiteral?_spells {text rest : List Char} {numeral : Literal}
    (scanned : scanLiteral? text = some (numeral, rest)) :
    ∃ front, Spells front (.number numeral) ∧ front ++ rest = text := by
  have split := spanDigits_split text
  have allDigits := allDigits_spanDigits text
  obtain ⟨whole, after, spanned⟩ : ∃ whole after, spanDigits text = (whole, after) := ⟨_, _, rfl⟩
  rw [spanned] at split allDigits
  by_cases isSome : whole ≠ []
  · by_cases isPoint : ∃ further, after = '.' :: further
    · obtain ⟨further, rfl⟩ := isPoint
      rw [scanLiteral?_point spanned isSome] at scanned
      refine spells_of_withExponent (.point isSome allDigits (allDigits_spanDigits further)) ?_
        scanned
      rw [List.append_assoc, List.cons_append, spanDigits_split, split]
    · rw [scanLiteral?_whole spanned isSome (not_exists.mp isPoint)] at scanned
      exact spells_of_withExponent (.whole isSome allDigits) split scanned
  · cases text with
    | nil => cases scanned
    | cons first others =>
        have noDigit : isDigit first = false := by
          cases digit : isDigit first with
          | false => rfl
          | true =>
              simp only [spanDigits, List.takeWhile_cons, digit, if_true, Prod.mk.injEq] at spanned
              exact absurd (spanned.1 ▸ List.cons_ne_nil _ _) isSome
        by_cases isPoint : first = '.' ∧ (spanDigits others).1 ≠ []
        · obtain ⟨rfl, isSome⟩ := isPoint
          rw [scanLiteral?_leadingPoint isSome] at scanned
          refine spells_of_withExponent (.leadingPoint isSome (allDigits_spanDigits others)) ?_
            scanned
          rw [List.cons_append, spanDigits_split]
        · rw [scanLiteral?_cons_eq_none noDigit] at scanned
          · cases scanned
          · intro same
            exact Decidable.not_not.mp fun isSome => isPoint ⟨same, isSome⟩

end Numbers

/-! ### Names and strings -/

theorem identifier?_spells {text rest : List Char} {name : String}
    (found : Token.identifier? text = some (name, rest)) :
    ∃ front, Spells front (.word name) ∧ front ++ rest = text := by
  cases text with
  | nil => cases found
  | cons first others =>
      rw [Token.identifier?] at found
      split at found
      · rename_i isStart
        cases found
        refine ⟨_, .word isStart (List.all_eq_true.mp List.all_takeWhile), ?_⟩
        rw [List.cons_append, List.takeWhile_append_dropWhile]
      · cases found

theorem identifier?_covers {first : Char} {others : List Char}
    (isStart : Token.isNameStart first = true)
    (areParts : ∀ character ∈ others, Token.isNamePart character = true) (rest : List Char) :
    Covers (Token.identifier? (first :: (others ++ rest))) (String.ofList (first :: others))
      rest := by
  have found : Token.identifier? (first :: (others ++ rest))
      = some (String.ofList (first :: (others ++ rest.takeWhile Token.isNamePart)),
        rest.dropWhile Token.isNamePart) := by
    rw [Token.identifier?, if_pos isStart, List.takeWhile_append_of_pos areParts,
      List.dropWhile_append_of_pos areParts]
  have split : rest.takeWhile Token.isNamePart ++ rest.dropWhile Token.isNamePart = rest :=
    List.takeWhile_append_dropWhile
  cases further : rest.takeWhile Token.isNamePart with
  | nil =>
      rw [further, List.nil_append] at split
      rw [further, List.append_nil, split] at found
      exact .exact found
  | cons next others =>
      refine .longer found ?_
      have lengths := congrArg List.length split
      rw [further, List.length_append, List.length_cons] at lengths
      omega

theorem stringTail_quote (quote : Char) (read rest : List Char) :
    Token.stringTail quote read (quote :: rest) = .ok (String.ofList read.reverse, rest) := by
  rw [Token.stringTail]
  exact if_pos rfl

theorem stringTail_step {quote character : Char} {text rest : List Char}
    (noQuote : text.head? ≠ some quote)
    (scanned : Token.stringCharacter text = .ok (character, rest)) (read : List Char) :
    Token.stringTail quote read text = Token.stringTail quote (character :: read) rest := by
  rw [Token.stringTail, if_neg noQuote]
  split
  · rename_i same
    rw [scanned] at same
    cases same
  · rename_i same
    rw [scanned] at same
    cases same
    rfl

theorem stringCharacter_escape {letter character : Char} (stands : Escapes letter character)
    (rest : List Char) : Token.stringCharacter ('\\' :: letter :: rest) = .ok (character, rest) := by
  obtain ⟨isOther, rfl⟩ := escapes_iff.mp stands
  simp only [Token.stringCharacter]

theorem stringCharacter_plain {character : Char} (isPlain : character ≠ '\\') (rest : List Char) :
    Token.stringCharacter (character :: rest) = .ok (character, rest) := by
  cases rest <;> simp [Token.stringCharacter, isPlain]

/-- The code of the character that a code names is the code itself. -/
theorem toNat_ofNat {code : Nat} (isValid : code.isValidChar) : (Char.ofNat code).toNat = code := by
  rw [Char.ofNat, dif_pos isValid]
  rfl

theorem stringCharacter_unicode {digits : List Char} {character : Char} (four : digits.length = 4)
    (areHex : ∀ digit ∈ digits, Token.isHexDigit digit = true)
    (isCode : Token.ofHex digits = character.toNat) (rest : List Char) :
    Token.stringCharacter ('\\' :: 'u' :: (digits ++ rest)) = .ok (character, rest) := by
  have isValid : character.toNat.isValidChar := character.valid
  rw [Token.stringCharacter, Token.unicodeEscape, ← four, List.take_left, List.drop_left]
  simp only [List.all_eq_true.mpr areHex, isCode, isValid, and_self, if_true, Char.ofNat_toNat]

/-- The characters of a spelled string are read up to its closing quote. -/
theorem stringTail_of_spells {quote : Char} (isQuote : Token.isQuote quote = true)
    {text content : List Char} (spells : SpellsContent quote text content) (rest read : List Char) :
    Token.stringTail quote read (text ++ quote :: rest)
      = .ok (String.ofList (read.reverse ++ content), rest) := by
  have noQuote (others : List Char) : ('\\' :: others).head? ≠ some quote := by
    rintro same
    cases same
    cases isQuote
  induction spells generalizing read with
  | nil => rw [List.nil_append, stringTail_quote, List.append_nil]
  | plain isOther isPlain _ ih =>
      rw [List.cons_append, stringTail_step _ (stringCharacter_plain isPlain _), ih,
        List.reverse_cons, List.append_assoc]
      · rfl
      · exact fun same => isOther (Option.some.inj same)
  | escape stands _ ih =>
      rw [List.cons_append, List.cons_append,
        stringTail_step (noQuote _) (stringCharacter_escape stands _), ih, List.reverse_cons,
        List.append_assoc]
      rfl
  | unicode four areHex isCode _ ih =>
      rw [List.cons_append, List.cons_append, List.append_assoc,
        stringTail_step (noQuote _) (stringCharacter_unicode four areHex isCode _), ih,
        List.reverse_cons, List.append_assoc]
      rfl

/-- One character that is read in a string is spelled there. -/
theorem spells_of_stringCharacter {quote character : Char} {text rest : List Char}
    (noQuote : text.head? ≠ some quote)
    (scanned : Token.stringCharacter text = .ok (character, rest)) :
    ∃ front, front ++ rest = text ∧ ∀ {others content : List Char},
      SpellsContent quote others content →
        SpellsContent quote (front ++ others) (character :: content) := by
  unfold Token.stringCharacter at scanned
  split at scanned
  · cases scanned
  · cases scanned
  · rename_i after
    simp only [Token.unicodeEscape] at scanned
    split at scanned
    · rename_i areHex
      split at scanned
      · rename_i isValid
        cases scanned
        refine ⟨'\\' :: 'u' :: after.take 4, ?_, fun spells => ?_⟩
        · rw [List.cons_append, List.cons_append, List.take_append_drop]
        · refine .unicode areHex.1 (List.all_eq_true.mp areHex.2) ?_ spells
          rw [toNat_ofNat isValid]
      · cases scanned
    · cases scanned
  · rename_i letter after isOther
    cases scanned
    exact ⟨['\\', letter], rfl, .escape (escapes_iff.mpr ⟨isOther, rfl⟩)⟩
  · rename_i isLast _ isLonger
    cases scanned
    have isPlain : character ≠ '\\' := by
      rintro rfl
      cases rest with
      | nil => exact isLast rfl rfl
      | cons letter others => exact isLonger letter others rfl rfl
    exact ⟨[character], rfl, .plain (fun same => noQuote (by rw [same, List.head?_cons])) isPlain⟩

/-- What is read up to the closing quote is a spelled string. -/
theorem spells_of_stringTail {quote : Char} {read text rest : List Char} {name : String}
    (scanned : Token.stringTail quote read text = .ok (name, rest)) :
    ∃ front content, SpellsContent quote front content ∧ front ++ quote :: rest = text
      ∧ name = String.ofList (read.reverse ++ content) := by
  fun_induction Token.stringTail quote read text with
  | case1 read text isClosed =>
      cases scanned
      obtain ⟨others, rfl⟩ := List.head?_eq_some_iff.mp isClosed
      exact ⟨[], [], .nil, rfl, by rw [List.append_nil]⟩
  | case2 => cases scanned
  | case3 read text isOpen character after found shorter ih =>
      obtain ⟨front, content, spells, rfl, rfl⟩ := ih scanned
      obtain ⟨first, rfl, extend⟩ := spells_of_stringCharacter isOpen found
      exact ⟨first ++ front, character :: content, extend spells, by rw [List.append_assoc],
        by rw [List.reverse_cons, List.append_assoc]; rfl⟩

/-! ### Symbols -/

/-- What a symbol begins with begins no other lexeme, unless digits follow a point. -/
def beginsSymbol : List Char → Bool
  | [] => false
  | first :: others =>
      !Decimal.isDigit first && !Token.isQuote first && !Token.isNameStart first
        && (first != '.' || others.isEmpty)

theorem symbols_begin : ∀ symbol ∈ symbols, beginsSymbol symbol.toList = true := by
  decide

/-- Of two symbols at one place the longer one comes first. -/
theorem symbols_sorted : symbols.Pairwise fun symbol later => later.length ≤ symbol.length := by
  decide

/-- Of entries that stand with longer spellings first, the first one at the front of a text is there
with the longest spelling. -/
theorem find?_longest {α : Type} {spelling : α → String} {entries : List α}
    (sorted : entries.Pairwise fun entry later => (spelling later).length ≤ (spelling entry).length)
    {text : List Char} {entry : α}
    (found : entries.find? (fun other => (spelling other).toList.isPrefixOf text) = some entry) :
    (spelling entry).toList <+: text
      ∧ ∀ other ∈ entries, (spelling other).toList <+: text →
        (spelling other).length ≤ (spelling entry).length := by
  obtain ⟨isFront, before, after, rfl, missed⟩ := List.find?_eq_some_iff_append.mp found
  refine ⟨List.isPrefixOf_iff_prefix.mp isFront, fun other isEntry isFrontToo => ?_⟩
  rw [List.pairwise_append, List.pairwise_cons] at sorted
  rw [List.mem_append, List.mem_cons] at isEntry
  rcases isEntry with isBefore | rfl | isAfter
  · have missedToo := missed other isBefore
    rw [List.isPrefixOf_iff_prefix.mpr isFrontToo] at missedToo
    cases missedToo
  · exact Nat.le_refl _
  · exact sorted.2.1.1 other isAfter

/-- Of two texts at the front of one text the shorter is at the front of the longer. -/
theorem front_of_fronts {symbol other : String} {text : List Char}
    (isFront : symbol.toList <+: text) (isFrontToo : other.toList <+: text)
    (noShorter : symbol.length ≤ other.length) :
    symbol.toList <+: other.toList :=
  List.prefix_of_prefix_length_le isFront isFrontToo
    (by simpa only [String.length_toList] using noShorter)

theorem eq_of_front {symbol other : String} (isFront : symbol.toList <+: other.toList)
    (same : symbol.length = other.length) : symbol = other :=
  String.toList_inj.mp (isFront.eq_of_length (by simpa only [String.length_toList] using same))

/-- Where a symbol stands, some symbol is found that is as long or longer. -/
theorem exists_of_find?_symbols {symbol : String} (isSymbol : symbol ∈ symbols) (rest : List Char) :
    ∃ other ∈ symbols,
      (symbols.find? fun other => other.toList.isPrefixOf (symbol.toList ++ rest)) = some other
        ∧ symbol.toList <+: other.toList ∧ other.toList <+: symbol.toList ++ rest := by
  have isFront : symbol.toList <+: symbol.toList ++ rest := List.prefix_append _ _
  cases found : symbols.find? fun other => other.toList.isPrefixOf (symbol.toList ++ rest) with
  | none =>
      exact absurd (List.isPrefixOf_iff_prefix.mpr isFront)
        (List.find?_eq_none.mp found symbol isSymbol)
  | some other =>
      obtain ⟨isFrontToo, longest⟩ := find?_longest symbols_sorted found
      exact ⟨other, List.mem_of_find?_eq_some found, rfl,
        front_of_fronts isFront isFrontToo (longest symbol isSymbol isFront), isFrontToo⟩

/-! ### The longest lexeme is found -/

/-- What is found is spelled. -/
theorem spells_of_next? {text rest : List Char} {lexeme : Lexeme}
    (found : next? text = some (lexeme, rest)) :
    ∃ front, Spells front lexeme ∧ front ++ rest = text := by
  unfold next? at found
  split at found
  · rename_i scanned
    cases found
    exact scanLiteral?_spells scanned
  split at found
  · cases found
  split at found
  · rename_i isQuote
    split at found
    · rename_i scanned
      cases found
      obtain ⟨front, content, spells, rfl, rfl⟩ := spells_of_stringTail scanned
      exact ⟨_, .string isQuote spells, by rw [List.cons_append, List.append_assoc]; rfl⟩
    · cases found
  split at found
  · rename_i identified
    cases found
    exact identifier?_spells identified
  · obtain ⟨symbol, isFound, same⟩ := Option.map_eq_some_iff.mp found
    cases same
    refine ⟨_, .symbol (List.mem_of_find?_eq_some isFound), ?_⟩
    rw [← String.length_toList]
    exact List.prefix_iff_eq_append.mp (find?_longest symbols_sorted isFound).1

theorem next?_number {text rest : List Char} {numeral : Decimal.Literal}
    (scanned : Decimal.scanLiteral? text = some (numeral, rest)) :
    next? text = some (.number numeral, rest) := by
  unfold next?
  rw [scanned]

/-- The quotes begin no number. -/
theorem not_isDigit_of_isQuote {quote : Char} (isQuote : Token.isQuote quote = true) :
    Decimal.isDigit quote = false ∧ quote ≠ '.' := by
  simp only [Token.isQuote, Bool.or_eq_true, beq_iff_eq] at isQuote
  rcases isQuote with (rfl | rfl) | rfl <;> decide

/-- No character that begins a name begins a number or a string. -/
theorem not_isDigit_of_isNameStart {first : Char} (isStart : Token.isNameStart first = true) :
    Decimal.isDigit first = false ∧ first ≠ '.' ∧ Token.isQuote first = false := by
  have differs (other : Char) (isNoStart : Token.isNameStart other = false) : first ≠ other := by
    rintro rfl
    rw [isStart] at isNoStart
    cases isNoStart
  refine ⟨?_, differs '.' rfl, ?_⟩
  · -- The letters come behind the digits, and the two other characters are neither.
    rw [Token.isNameStart] at isStart
    rw [Decimal.isDigit]
    simp only [Bool.or_eq_true, Bool.and_eq_true, decide_eq_true_eq, beq_iff_eq, Char.le_def,
      UInt32.le_iff_toNat_le, Bool.and_eq_false_iff, decide_eq_false_iff_not] at isStart ⊢
    have belowLower : '9'.val.toNat < 'a'.val.toNat := by decide
    have belowUpper : '9'.val.toNat < 'A'.val.toNat := by decide
    rcases isStart with ((lower | upper) | rfl) | rfl
    · omega
    · omega
    · decide
    · decide
  · simp only [Token.isQuote, Bool.or_eq_false_iff, beq_eq_false_iff_ne]
    exact ⟨⟨differs _ rfl, differs _ rfl⟩, differs _ rfl⟩

/-- Where no number stands the first character decides. -/
theorem next?_cons {first : Char} {others : List Char} (noDigit : Decimal.isDigit first = false)
    (noPoint : first = '.' → (Decimal.spanDigits others).1 = []) :
    next? (first :: others) =
      if Token.isQuote first then
        match Token.stringTail first [] others with
        | .ok (content, rest) => some (.string content, rest)
        | .error _ => none
      else
        match Token.identifier? (first :: others) with
        | some (name, rest) => some (.word name, rest)
        | none =>
            (symbols.find? fun symbol => symbol.toList.isPrefixOf (first :: others)).map
              fun symbol => (.symbol symbol, (first :: others).drop symbol.length) := by
  rw [next?, scanLiteral?_cons_eq_none noDigit noPoint]

theorem next?_string {quote : Char} {others rest : List Char} {content : String}
    (isQuote : Token.isQuote quote = true)
    (scanned : Token.stringTail quote [] others = .ok (content, rest)) :
    next? (quote :: others) = some (.string content, rest) := by
  obtain ⟨noDigit, noPoint⟩ := not_isDigit_of_isQuote isQuote
  rw [next?_cons noDigit fun same => absurd same noPoint, if_pos isQuote, scanned]

theorem isNameStart_of_identifier? {first : Char} {others rest : List Char} {name : String}
    (identified : Token.identifier? (first :: others) = some (name, rest)) :
    Token.isNameStart first = true := by
  rw [Token.identifier?] at identified
  split at identified
  · assumption
  · cases identified

theorem next?_word {text rest : List Char} {name : String}
    (identified : Token.identifier? text = some (name, rest)) :
    next? text = some (.word name, rest) := by
  cases text with
  | nil => cases identified
  | cons first others =>
      have isStart := isNameStart_of_identifier? identified
      obtain ⟨noDigit, noPoint, noQuote⟩ := not_isDigit_of_isNameStart isStart
      rw [next?_cons noDigit fun same => absurd same noPoint, noQuote, identified]
      rfl

/-- At a symbol only symbols are looked for, unless digits follow a point. -/
theorem next?_symbol {symbol : String} (isSymbol : symbol ∈ symbols) {rest : List Char}
    (noNumber : symbol = "." → (Decimal.spanDigits rest).1 = []) :
    next? (symbol.toList ++ rest) =
      (symbols.find? fun other => other.toList.isPrefixOf (symbol.toList ++ rest)).map
        fun other => (.symbol other, (symbol.toList ++ rest).drop other.length) := by
  have begins := symbols_begin symbol isSymbol
  cases spelled : symbol.toList with
  | nil =>
      rw [spelled] at begins
      cases begins
  | cons first others =>
      rw [spelled] at begins
      simp only [beginsSymbol, Bool.and_eq_true, Bool.not_eq_true', Bool.or_eq_true, bne_iff_ne,
        List.isEmpty_iff] at begins
      obtain ⟨⟨⟨noDigit, noQuote⟩, noName⟩, alone⟩ := begins
      have noPoint : first = '.' → (Decimal.spanDigits (others ++ rest)).1 = [] := by
        rintro rfl
        cases alone.resolve_left fun noPoint => noPoint rfl
        exact noNumber (String.toList_inj.mp spelled)
      have noWord : Token.identifier? (first :: (others ++ rest)) = none := by
        rw [Token.identifier?, noName]
        rfl
      rw [List.cons_append, next?_cons noDigit noPoint, noQuote, noWord]
      rfl

/-- A symbol that none of the longer ones stands in place of. -/
theorem next?_symbol_eq {symbol : String} (isSymbol : symbol ∈ symbols) {rest : List Char}
    (noLonger : ∀ other ∈ symbols, symbol.toList <+: other.toList →
      other.toList <+: symbol.toList ++ rest → other = symbol)
    (noNumber : symbol = "." → (Decimal.spanDigits rest).1 = []) :
    next? (symbol.toList ++ rest) = some (.symbol symbol, rest) := by
  obtain ⟨other, isSymbolToo, found, noShorter, isFront⟩ := exists_of_find?_symbols isSymbol rest
  cases noLonger other isSymbolToo noShorter isFront
  rw [next?_symbol isSymbol noNumber, found, Option.map_some, ← String.length_toList,
    List.drop_left]

/-- What begins with a symbol begins with that or a longer one, or with a number. -/
theorem next?_symbol_covers {symbol : String} (isSymbol : symbol ∈ symbols) (rest : List Char) :
    Covers (next? (symbol.toList ++ rest)) (.symbol symbol) rest := by
  by_cases isNumber : symbol = "." ∧ (Decimal.spanDigits rest).1 ≠ []
  · obtain ⟨rfl, isSome⟩ := isNumber
    exact .longer (next?_number (scanLiteral?_leadingPoint isSome))
      (Nat.lt_of_le_of_lt (length_withExponent_le _ _ _) (length_spanDigits_lt isSome))
  · have noNumber : symbol = "." → (Decimal.spanDigits rest).1 = [] := fun same =>
      Decidable.not_not.mp fun isSome => isNumber ⟨same, isSome⟩
    obtain ⟨other, isSymbolToo, found, noShorter, isFront⟩ := exists_of_find?_symbols isSymbol rest
    have isFound := next?_symbol isSymbol noNumber
    rw [found, Option.map_some] at isFound
    have lengths := noShorter.length_le
    have inside := isFront.length_le
    simp only [List.length_append, String.length_toList] at lengths inside
    rcases Nat.lt_or_eq_of_le lengths with longer | same
    · refine .longer isFound ?_
      simp only [List.length_append, List.length_drop, String.length_toList]
      omega
    · cases eq_of_front noShorter same
      rw [← String.length_toList, List.drop_left] at isFound
      exact .exact isFound

/-- Where a lexeme is spelled it is found, or a longer one. -/
theorem next?_covers {front : List Char} {lexeme : Lexeme} (spells : Spells front lexeme)
    (rest : List Char) : Covers (next? (front ++ rest)) lexeme rest := by
  cases spells with
  | number mantissa exponent =>
      obtain ⟨numeral, rest', scanned, covers⟩ := scanLiteral?_covers mantissa exponent rest
      refine ⟨.number numeral, rest', next?_number scanned, covers.imp_right ?_⟩
      rintro ⟨rfl, rfl⟩
      exact ⟨rfl, rfl⟩
  | string isQuote content =>
      rw [List.cons_append, List.append_assoc]
      exact .exact (next?_string isQuote (stringTail_of_spells isQuote content rest []))
  | word isStart areParts =>
      obtain ⟨name, rest', identified, covers⟩ := identifier?_covers isStart areParts rest
      refine ⟨.word name, rest', next?_word identified, covers.imp_right ?_⟩
      rintro ⟨rfl, rfl⟩
      exact ⟨rfl, rfl⟩
  | symbol isSymbol => exact next?_symbol_covers isSymbol rest

/-- The longest lexeme is the one that is found. -/
theorem longest_iff {text rest : List Char} {lexeme : Lexeme} :
    Longest text lexeme rest ↔ next? text = some (lexeme, rest) := by
  constructor
  · rintro ⟨front, spells, rfl, longest⟩
    obtain ⟨lexeme', rest', found, shorter | ⟨rfl, rfl⟩⟩ := next?_covers spells rest
    · obtain ⟨front', spells', split⟩ := spells_of_next? found
      have noLonger := longest front' lexeme' spells' ⟨rest', split⟩
      have lengths := congrArg List.length split
      simp only [List.length_append] at lengths
      omega
    · exact found
  · intro found
    obtain ⟨front, spells, rfl⟩ := spells_of_next? found
    refine ⟨front, spells, rfl, ?_⟩
    rintro other longer spells' ⟨rest', split⟩
    obtain ⟨lexeme', rest'', found', covers⟩ := next?_covers spells' rest'
    rw [split, found] at found'
    cases found'
    have lengths := congrArg List.length split
    simp only [List.length_append] at lengths
    rcases covers with shorter | ⟨rfl, rfl⟩ <;> omega

end AccessRules.Lexeme
