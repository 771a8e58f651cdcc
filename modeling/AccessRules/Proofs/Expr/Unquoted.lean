import AccessRules.Proofs.Expr.SideBySide

/-!
# Texts without quotes

Where no quotes stand in a text, no strings do, and the text is nothing but blanks, numbers, words
and symbols. What is looked for in such a text can be followed from one of them to the next.
-/

namespace AccessRules.Lexeme

/-! ### The characters of a lexeme -/

theorem isNumberPart_of_spells {text : List Char} {numeral : Decimal.Literal}
    (spells : Spells text (.number numeral)) :
    ∀ character ∈ text, isNumberPart character = true := by
  cases spells with
  | number mantissa exponent =>
      exact List.forall_mem_append.mpr
        ⟨isNumberPart_of_mantissa mantissa, isNumberPart_of_exponent exponent⟩

theorem isNamePart_of_spells {text : List Char} {name : String}
    (spells : Spells text (.word name)) :
    ∀ character ∈ text, Token.isNamePart character = true := by
  cases spells with
  | word isStart areParts =>
      refine List.forall_mem_cons.mpr ⟨?_, areParts⟩
      rw [Token.isNamePart, isStart, Bool.true_or]

theorem eq_toList_of_spells {text : List Char} {name : String}
    (spells : Spells text (.word name)) : text = name.toList := by
  cases spells
  exact String.toList_ofList.symm

/-- What follows a word does not go on with it. -/
theorem Longest.apart_of_word {text rest : List Char} {name : String}
    (stands : Longest text (.word name) rest) : Apart Token.isNamePart rest := by
  have identified := identifier?_iff.mpr stands
  cases text with
  | nil => cases identified
  | cons first others =>
      rw [Token.identifier?] at identified
      split at identified
      · cases identified
        intro next isHead
        have isOther := List.head?_dropWhile_not Token.isNamePart others
        rw [Option.mem_def.mp isHead] at isOther
        exact isOther
      · cases identified

/-! ### Texts -/

/-- A text and the lexemes in it, none of which is a string. -/
inductive Unquoted : List Char → List Lexeme → Prop
  | nil : Unquoted [] []
  | blank {character : Char} {text : List Char} {lexemes : List Lexeme} :
      Text.isBlank character = true → Unquoted text lexemes → Unquoted (character :: text) lexemes
  | number {front rest : List Char} {numeral : Decimal.Literal} {lexemes : List Lexeme} :
      Spells front (.number numeral) → Unquoted rest lexemes →
      Unquoted (front ++ rest) (.number numeral :: lexemes)
  /-- What follows a word does not go on with it. -/
  | word {rest : List Char} {name : String} {lexemes : List Lexeme} :
      Spells name.toList (.word name) → Apart Token.isNamePart rest → Unquoted rest lexemes →
      Unquoted (name.toList ++ rest) (.word name :: lexemes)
  | symbol {rest : List Char} {symbol : String} {lexemes : List Lexeme} :
      symbol ∈ symbols → Unquoted rest lexemes →
      Unquoted (symbol.toList ++ rest) (.symbol symbol :: lexemes)

theorem Unquoted.blanks {before text : List Char} {lexemes : List Lexeme}
    (areBlank : ∀ character ∈ before, Text.isBlank character = true)
    (unquoted : Unquoted text lexemes) : Unquoted (before ++ text) lexemes := by
  induction before with
  | nil => exact unquoted
  | cons character before ih =>
      obtain ⟨isBlank, areBlank⟩ := List.forall_mem_cons.mp areBlank
      exact .blank isBlank (ih areBlank)

theorem takeWhile_append_skipBlanks (text : List Char) :
    text.takeWhile Text.isBlank ++ Text.skipBlanks text = text :=
  List.takeWhile_append_dropWhile

/-- A text that has no quotes in it is put together from its lexemes. -/
theorem unquoted_of_lexes {text : List Char} {lexemes : List Lexeme} (lexes : Lexes text lexemes)
    (noQuotes : ∀ character ∈ text, Token.isQuote character = false) : Unquoted text lexemes := by
  obtain ⟨behind, reads, isEnd⟩ := lexes
  have areBlank (text : List Char) :
      ∀ character ∈ text.takeWhile Text.isBlank, Text.isBlank character = true :=
    List.all_eq_true.mp List.all_takeWhile
  induction reads with
  | nil text =>
      rw [← takeWhile_append_skipBlanks text, isEnd]
      exact .blanks (areBlank text) .nil
  | @cons text _ rest lexeme lexemes stands _ ih =>
      have ⟨front, spells, split, _⟩ := stands
      rw [← takeWhile_append_skipBlanks text, ← split] at noQuotes ⊢
      obtain ⟨_, noQuotes⟩ := List.forall_mem_append.mp noQuotes
      obtain ⟨noQuotes, noQuotesBehind⟩ := List.forall_mem_append.mp noQuotes
      have others := ih noQuotesBehind isEnd
      apply Unquoted.blanks (areBlank text)
      cases lexeme with
      | number numeral => exact .number spells others
      | string content =>
          cases spells with
          | string isQuote =>
              rw [noQuotes _ List.mem_cons_self] at isQuote
              cases isQuote
      | word name =>
          rw [eq_toList_of_spells spells]
          exact .word (spells_of_word spells) stands.apart_of_word others
      | symbol symbol =>
          cases spells with
          | symbol isSymbol => exact .symbol isSymbol others

/-! ### What begins a text -/

theorem skipBlanks_append_of_spells {front rest : List Char} {lexeme : Lexeme}
    (spells : Spells front lexeme) : Text.skipBlanks (front ++ rest) = front ++ rest := by
  obtain ⟨first, others, rfl, noBlank⟩ := spells.beginsVisibly
  rw [Text.skipBlanks, List.cons_append, List.dropWhile_cons, noBlank]
  rfl

theorem Unquoted.skipBlanks {text : List Char} {lexemes : List Lexeme}
    (unquoted : Unquoted text lexemes) : Unquoted (Text.skipBlanks text) lexemes := by
  induction unquoted with
  | nil => exact .nil
  | @blank character text _ isBlank _ ih =>
      have same : Text.skipBlanks (character :: text) = Text.skipBlanks text :=
        List.dropWhile_cons_of_pos isBlank
      rw [same]
      exact ih
  | number spells others =>
      rw [skipBlanks_append_of_spells spells]
      exact .number spells others
  | word spells apart others =>
      rw [skipBlanks_append_of_spells spells]
      exact .word spells apart others
  | symbol isSymbol others =>
      rw [skipBlanks_append_of_spells (.symbol isSymbol)]
      exact .symbol isSymbol others

/-- With any lexeme in it a text is more than blanks. -/
theorem Unquoted.all_isBlank {text : List Char} {lexemes : List Lexeme}
    (unquoted : Unquoted text lexemes) (isSome : lexemes ≠ []) :
    text.all Text.isBlank = false := by
  have visible {front rest : List Char} {lexeme : Lexeme} (spells : Spells front lexeme) :
      (front ++ rest).all Text.isBlank = false := by
    obtain ⟨first, others, rfl, noBlank⟩ := spells.beginsVisibly
    rw [List.cons_append, List.all_cons, noBlank, Bool.false_and]
  induction unquoted with
  | nil => exact absurd rfl isSome
  | blank _ _ ih => rw [List.all_cons, ih isSome, Bool.and_false]
  | number spells | word spells => exact visible spells
  | symbol isSymbol => exact visible (.symbol isSymbol)

/-- What begins neither a number nor a word begins a symbol, if it is no blank. -/
theorem Unquoted.exists_symbol {text : List Char} {lexemes : List Lexeme} {first : Char}
    (unquoted : Unquoted text lexemes) (isHead : text.head? = some first)
    (noBlank : Text.isBlank first = false) (noNumber : isNumberPart first = false)
    (noPart : Token.isNamePart first = false) :
    ∃ symbol ∈ symbols, symbol.toList.head? = some first
      ∧ lexemes.head? = some (.symbol symbol) := by
  have head {front rest : List Char} {lexeme : Lexeme} (spells : Spells front lexeme)
      (isHead : (front ++ rest).head? = some first) : front.head? = some first := by
    obtain ⟨character, others, rfl⟩ := List.exists_cons_of_ne_nil spells.ne_nil
    exact isHead
  cases unquoted with
  | nil => cases isHead
  | blank isBlank =>
      cases isHead
      rw [noBlank] at isBlank
      cases isBlank
  | number spells =>
      have isPart := isNumberPart_of_spells spells first
        (List.mem_of_mem_head? (head spells isHead))
      rw [noNumber] at isPart
      cases isPart
  | word spells =>
      have isPart := isNamePart_of_spells spells first
        (List.mem_of_mem_head? (head spells isHead))
      rw [noPart] at isPart
      cases isPart
  | symbol isSymbol => exact ⟨_, isSymbol, head (.symbol isSymbol) isHead, rfl⟩

end AccessRules.Lexeme
