import AccessRules.Proofs.Expr.Lookahead

/-!
# Lexemes side by side

What is written behind a lexeme can make it longer: a letter behind a word, a point behind a number,
an equals sign behind a symbol. Here is what cannot.
-/

namespace AccessRules.Lexeme

/-! ### Blanks before a lexeme -/

theorem isBlank_eq_false_of_isNameStart {first : Char} (isStart : Token.isNameStart first = true) :
    Text.isBlank first = false := by
  simp only [Token.isNameStart, Bool.or_eq_true, Bool.and_eq_true, decide_eq_true_eq, beq_iff_eq,
    Char.le_def, UInt32.le_iff_toNat_le] at isStart
  rcases isStart with ((lower | upper) | rfl) | rfl
  · change 97 ≤ first.toNat ∧ first.toNat ≤ 122 at lower
    exact Decimal.isBlank_eq_false_of_visible (by omega) (by omega)
  · change 65 ≤ first.toNat ∧ first.toNat ≤ 90 at upper
    exact Decimal.isBlank_eq_false_of_visible (by omega) (by omega)
  · decide
  · decide

/-- The text begins with a character that is no blank. -/
def BeginsVisibly (text : List Char) : Prop :=
  ∃ first others, text = first :: others ∧ Text.isBlank first = false

theorem BeginsVisibly.append {text : List Char} (begins : BeginsVisibly text) (rest : List Char) :
    BeginsVisibly (text ++ rest) := by
  obtain ⟨first, others, rfl, noBlank⟩ := begins
  exact ⟨first, others ++ rest, rfl, noBlank⟩

theorem beginsVisibly_of_digits {digits : List Char} (isSome : digits ≠ [])
    (allDigits : AllDigits digits) : BeginsVisibly digits := by
  obtain ⟨digit, others, rfl⟩ := List.exists_cons_of_ne_nil isSome
  have isDigit := allDigits digit List.mem_cons_self
  exact ⟨digit, others, rfl, Decimal.isBlank_eq_false_of_isDigit isDigit⟩

theorem symbols_beginVisibly : ∀ symbol ∈ symbols, BeginsVisibly symbol.toList := by
  have heads : ∀ symbol ∈ symbols, symbol.toList.head?.map Text.isBlank = some false := by
    decide
  intro symbol isSymbol
  obtain ⟨first, isHead, noBlank⟩ := Option.map_eq_some_iff.mp (heads symbol isSymbol)
  obtain ⟨others, spelled⟩ := List.head?_eq_some_iff.mp isHead
  exact ⟨first, others, spelled, noBlank⟩

theorem SpellsMantissa.beginsVisibly {text whole fraction : List Char}
    (spells : SpellsMantissa text whole fraction) : BeginsVisibly text := by
  cases spells with
  | whole isSome allDigits => exact beginsVisibly_of_digits isSome allDigits
  | point isSome allDigits => exact (beginsVisibly_of_digits isSome allDigits).append _
  | leadingPoint => exact ⟨'.', _, rfl, rfl⟩

/-- No lexeme begins with a blank. -/
theorem Spells.beginsVisibly {text : List Char} {lexeme : Lexeme} (spells : Spells text lexeme) :
    BeginsVisibly text := by
  cases spells with
  | number mantissa => exact mantissa.beginsVisibly.append _
  | string isQuote =>
      refine ⟨_, _, rfl, ?_⟩
      simp only [Token.isQuote, Bool.or_eq_true, beq_iff_eq] at isQuote
      rcases isQuote with (rfl | rfl) | rfl <;> rfl
  | word isStart => exact ⟨_, _, rfl, isBlank_eq_false_of_isNameStart isStart⟩
  | symbol isSymbol => exact symbols_beginVisibly _ isSymbol

theorem skipBlanks_of_longest {text rest : List Char} {lexeme : Lexeme}
    (stands : Longest text lexeme rest) : Text.skipBlanks text = text := by
  obtain ⟨front, spells, rfl, _⟩ := stands
  obtain ⟨first, others, rfl, noBlank⟩ := spells.beginsVisibly
  rw [Text.skipBlanks, List.cons_append, List.dropWhile_cons, noBlank]
  rfl

theorem Reads.next {text between rest : List Char} {lexeme : Lexeme} {lexemes : List Lexeme}
    (stands : Longest text lexeme between) (reads : Reads between lexemes rest) :
    Reads text (lexeme :: lexemes) rest :=
  .cons ((skipBlanks_of_longest stands).symm ▸ stands) reads

/-- What stands in a text is spelled somehow. -/
theorem Reads.exists_spells {text rest : List Char} {lexemes : List Lexeme}
    (reads : Reads text lexemes rest) : ∀ lexeme ∈ lexemes, ∃ spelling, Spells spelling lexeme := by
  induction reads with
  | nil =>
      intro _ among
      cases among
  | cons stands _ ih =>
      obtain ⟨front, spells, _⟩ := stands
      exact List.forall_mem_cons.mpr ⟨⟨front, spells⟩, ih⟩

/-- A blank makes no difference before a lexeme. -/
theorem Reads.blank {text rest : List Char} {lexemes : List Lexeme} (isSome : lexemes ≠ [])
    (reads : Reads text lexemes rest) : Reads (' ' :: text) lexemes rest := by
  have same : Text.skipBlanks (' ' :: text) = Text.skipBlanks text := rfl
  rw [← Reads.skipBlanks_iff isSome, same, Reads.skipBlanks_iff isSome]
  exact reads

/-! ### Numbers and words -/

/-- The characters that a number is written in. -/
def isNumberPart (character : Char) : Bool :=
  Decimal.isDigit character || ['.', 'e', 'E', '+', '-'].contains character

/-- Nothing stands there, or a character that is none of these. -/
def Apart (part : Char → Bool) (rest : List Char) : Prop :=
  ∀ next ∈ rest.head?, part next = false

theorem Apart.nil {part : Char → Bool} : Apart part [] := by
  intro next isHead
  cases isHead

theorem Apart.cons {part : Char → Bool} {next : Char} (isOther : part next = false)
    (rest : List Char) : Apart part (next :: rest) := by
  intro _ isHead
  cases isHead
  exact isOther

/-- What is found is not longer than expected if what it would go on with is apart. -/
theorem Covers.eq_of_apart {α : Type} {found : Option (α × List Char)} {value : α}
    {rest : List Char} (covers : Covers found value rest) {part : Char → Bool} (text : List Char)
    (areParts : ∀ value' rest', found = some (value', rest') →
      ∃ front, (∀ character ∈ front, part character = true) ∧ front ++ rest' = text ++ rest)
    (apart : Apart part rest) : found = some (value, rest) := by
  obtain ⟨value', rest', isFound, shorter | ⟨rfl, rfl⟩⟩ := covers
  · obtain ⟨front, allParts, split⟩ := areParts value' rest' isFound
    rcases List.append_eq_append_iff.mp split with ⟨more, rfl, rfl⟩ | ⟨more, rfl, rfl⟩
    · rw [List.length_append] at shorter
      omega
    · cases more with
      | nil => exact absurd shorter (Nat.lt_irrefl _)
      | cons next more =>
          have isPart := allParts next (List.mem_append_right _ List.mem_cons_self)
          rw [apart next rfl] at isPart
          cases isPart
  · exact isFound

theorem isNumberPart_of_digits {digits : List Char} (allDigits : AllDigits digits) :
    ∀ character ∈ digits, isNumberPart character = true := by
  intro digit among
  rw [isNumberPart, allDigits digit among]
  rfl

theorem isNumberPart_of_letter {letter : Char} (isLetter : letter = 'e' ∨ letter = 'E') :
    isNumberPart letter = true := by
  rcases isLetter with rfl | rfl <;> rfl

theorem isNumberPart_of_mantissa {text whole fraction : List Char}
    (spells : SpellsMantissa text whole fraction) :
    ∀ character ∈ text, isNumberPart character = true := by
  cases spells with
  | whole _ allDigits => exact isNumberPart_of_digits allDigits
  | point _ allDigits allFraction =>
      exact List.forall_mem_append.mpr ⟨isNumberPart_of_digits allDigits,
        List.forall_mem_cons.mpr ⟨rfl, isNumberPart_of_digits allFraction⟩⟩
  | leadingPoint _ allFraction =>
      exact List.forall_mem_cons.mpr ⟨rfl, isNumberPart_of_digits allFraction⟩

theorem isNumberPart_of_exponent {text : List Char} {power : Int}
    (spells : SpellsExponent text power) : ∀ character ∈ text, isNumberPart character = true := by
  cases spells with
  | missing =>
      intro _ among
      cases among
  | unsigned isLetter _ allDigits =>
      exact List.forall_mem_cons.mpr ⟨isNumberPart_of_letter isLetter,
        isNumberPart_of_digits allDigits⟩
  | plus isLetter _ allDigits | minus isLetter _ allDigits =>
      exact List.forall_mem_cons.mpr ⟨isNumberPart_of_letter isLetter,
        List.forall_mem_cons.mpr ⟨rfl, isNumberPart_of_digits allDigits⟩⟩

/-- A number ends where a character follows that no number is written in. -/
theorem longest_number {text rest : List Char} {numeral : Decimal.Literal}
    (spells : Spells text (.number numeral)) (apart : Apart isNumberPart rest) :
    Longest (text ++ rest) (.number numeral) rest := by
  cases spells with
  | @number front back _ mantissa exponent =>
      apply scanLiteral?_iff.mp
      refine (scanLiteral?_covers mantissa exponent rest).eq_of_apart (front ++ back) ?_ apart
      intro numeral' rest' scanned
      obtain ⟨front, spells, split⟩ := scanLiteral?_spells scanned
      cases spells with
      | number mantissa exponent =>
          exact ⟨_, List.forall_mem_append.mpr ⟨isNumberPart_of_mantissa mantissa,
            isNumberPart_of_exponent exponent⟩, split⟩

/-- A word ends where a character follows that no name goes on with. -/
theorem longest_word {text rest : List Char} {name : String} (spells : Spells text (.word name))
    (apart : Apart Token.isNamePart rest) : Longest (text ++ rest) (.word name) rest := by
  cases spells with
  | @word first others isStart areParts =>
      apply identifier?_iff.mp
      refine (identifier?_covers isStart areParts rest).eq_of_apart (first :: others) ?_ apart
      intro name' rest' identified
      obtain ⟨front, spells, split⟩ := identifier?_spells identified
      cases spells with
      | word isStart areParts =>
          refine ⟨_, List.forall_mem_cons.mpr ⟨?_, areParts⟩, split⟩
          rw [Token.isNamePart, isStart, Bool.true_or]

/-- A word is spelled as itself. -/
theorem spells_of_word {text : List Char} {name : String} (spells : Spells text (.word name)) :
    Spells name.toList (.word name) := by
  cases spells with
  | word isStart areParts =>
      rw [String.toList_ofList]
      exact .word isStart areParts

/-- What holds neither the quote nor an escape stands between quotes as it is. -/
theorem spellsContent_plain {quote : Char} {text : List Char} (noQuote : quote ∉ text)
    (noEscape : '\\' ∉ text) : SpellsContent quote text text := by
  induction text with
  | nil => exact .nil
  | cons first others ih =>
      rw [List.mem_cons, not_or] at noQuote noEscape
      exact .plain (Ne.symm noQuote.1) (Ne.symm noEscape.1) (ih noQuote.2 noEscape.2)

/-- A string ends with its closing quote. -/
theorem longest_string {text : List Char} {content : String}
    (spells : Spells text (.string content)) (rest : List Char) :
    Longest (text ++ rest) (.string content) rest := by
  cases spells with
  | string isQuote content =>
      rw [List.cons_append, List.append_assoc]
      exact longest_iff.mpr (next?_string isQuote (stringTail_of_spells isQuote content rest []))

/-! ### Symbols -/

theorem blank_not_mem_symbols : ∀ symbol ∈ symbols, ' ' ∉ symbol.toList := by
  decide

/-- A symbol ends where a blank follows. -/
theorem longest_symbol_blank {symbol : String} (isSymbol : symbol ∈ symbols) (rest : List Char) :
    Longest (symbol.toList ++ ' ' :: rest) (.symbol symbol) (' ' :: rest) := by
  apply longest_symbol isSymbol
  · intro other isSymbolToo isFront isFrontToo
    obtain ⟨more, longer⟩ := isFront
    rw [← longer, List.prefix_append_right_inj] at isFrontToo
    cases more with
    | nil =>
        rw [List.append_nil] at longer
        exact (String.toList_inj.mp longer).symm
    | cons next more =>
        obtain ⟨rfl, _⟩ := List.cons_prefix_cons.mp isFrontToo
        refine absurd ?_ (blank_not_mem_symbols other isSymbolToo)
        rw [← longer]
        exact List.mem_append_right _ List.mem_cons_self
  · intro _
    rfl

end AccessRules.Lexeme
