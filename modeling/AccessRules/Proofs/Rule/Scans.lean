import AccessRules.Proofs.Expr.Neighbours
import AccessRules.Proofs.Expr.Unquoted
import AccessRules.Rule.Check

/-!
# Looking through the text of a rule

A check looks through the text of a rule for words, for arrows and for what is called, with no
regard to what the text means. Where no quotes stand in a text, what is found there are lexemes: a
word is found only if it is one, an arrow only if a comparison follows an equals sign, and a name
before a parenthesis only if such a word stands there.
-/

namespace AccessRules.Rule

open Lexeme

/-! ### The characters of words -/

theorem toNat_of_isAsciiAlphanumeric {character : Char}
    (isAlphanumeric : Text.isAsciiAlphanumeric character = true) :
    48 ≤ character.toNat ∧ character.toNat ≤ 122 := by
  simp only [Text.isAsciiAlphanumeric, Bool.or_eq_true, Bool.and_eq_true, decide_eq_true_eq,
    Char.le_def, UInt32.le_iff_toNat_le] at isAlphanumeric
  change ((97 ≤ character.toNat ∧ character.toNat ≤ 122)
    ∨ (65 ≤ character.toNat ∧ character.toNat ≤ 90))
    ∨ (48 ≤ character.toNat ∧ character.toNat ≤ 57) at isAlphanumeric
  omega

theorem isWord_eq_false_of_isBlank {character : Char} (isBlank : Text.isBlank character = true) :
    Text.isWord character = false := by
  rw [← Bool.not_eq_true]
  intro isWord
  have noBlank : Text.isBlank character = false := by
    rw [Text.isWord] at isWord
    split at isWord
    · rcases Bool.or_eq_true_iff.mp isWord with isAlphanumeric | isConnector
      · obtain ⟨low, high⟩ := toNat_of_isAsciiAlphanumeric isAlphanumeric
        exact Decimal.isBlank_eq_false_of_visible (by omega) (by omega)
      · cases beq_iff_eq.mp isConnector
        decide
    · rw [Bool.and_eq_true, Bool.not_eq_true'] at isWord
      exact isWord.1
  rw [noBlank] at isBlank
  cases isBlank

/-- What a name goes on with goes on a word. -/
theorem isWordOrDollar_of_isNamePart {character : Char}
    (isPart : Token.isNamePart character = true) : isWordOrDollar character = true := by
  simp only [Token.isNamePart, Token.isNameStart, Decimal.isDigit, Bool.or_eq_true] at isPart
  have split : Text.isAsciiAlphanumeric character = true ∨ character = '_' ∨ character = '$' := by
    simp only [Text.isAsciiAlphanumeric, Bool.or_eq_true]
    rcases isPart with ((letter | isConnector) | isDollar) | digit
    · exact .inl (.inl letter)
    · exact .inr (.inl (beq_iff_eq.mp isConnector))
    · exact .inr (.inr (beq_iff_eq.mp isDollar))
    · exact .inl (.inr digit)
  rcases split with isAlphanumeric | rfl | rfl
  · have high := (toNat_of_isAsciiAlphanumeric isAlphanumeric).2
    rw [isWordOrDollar, Text.isWord, if_pos (by omega), isAlphanumeric]
    rfl
  · decide
  · decide

/-- The characters of symbols belong to no name and no word, and none is a quote. -/
theorem symbols_apart {symbol : String} (isSymbol : symbol ∈ symbols) :
    ∀ character ∈ symbol.toList, Token.isNamePart character = false
      ∧ Text.isWord character = false ∧ isQuote character = false := by
  have apart : (symbols.all fun symbol => symbol.toList.all fun character =>
      !Token.isNamePart character && (!Text.isWord character && !isQuote character)) = true := by
    decide
  intro character among
  have isApart := List.all_eq_true.mp (List.all_eq_true.mp apart symbol isSymbol) character among
  rwa [Bool.and_eq_true, Bool.and_eq_true, Bool.not_eq_true', Bool.not_eq_true',
    Bool.not_eq_true'] at isApart

/-- A class of characters that holds none of the quotes. -/
theorem isQuote_eq_false_of_part {part : Char → Bool} {character : Char}
    (isPart : part character = true)
    (noQuotes : (['\'', '"', '\x60'].all fun quote => !part quote) = true) :
    isQuote character = false := by
  rw [← Bool.not_eq_true]
  intro isQuote
  have among : character ∈ ['\'', '"', '\x60'] := by
    simpa only [Rule.isQuote, Bool.or_eq_true, beq_iff_eq, List.mem_cons, List.not_mem_nil,
      or_false, or_assoc] using isQuote
  have isOther := List.all_eq_true.mp noQuotes character among
  rw [isPart] at isOther
  cases isOther

/-- A character that can be seen, but is neither a quote nor the parenthesis of a call. -/
def IsPlain (character : Char) : Prop :=
  Text.isBlank character = false ∧ isQuote character = false ∧ character ≠ '('

theorem isPlain_of_isNamePart {character : Char} (isPart : Token.isNamePart character = true) :
    IsPlain character := by
  refine ⟨?_, isQuote_eq_false_of_part isPart rfl, ?_⟩
  · rcases Bool.or_eq_true_iff.mp isPart with isStart | isDigit
    · exact isBlank_eq_false_of_isNameStart isStart
    · exact Decimal.isBlank_eq_false_of_isDigit isDigit
  · rintro rfl
    cases isPart

theorem isPlain_of_isNumberPart {character : Char} (isPart : isNumberPart character = true) :
    IsPlain character := by
  refine ⟨?_, isQuote_eq_false_of_part isPart rfl, ?_⟩
  · rcases Bool.or_eq_true_iff.mp isPart with isDigit | isMark
    · exact Decimal.isBlank_eq_false_of_isDigit isDigit
    · have visible : (['.', 'e', 'E', '+', '-'].all fun mark => !Text.isBlank mark) = true := rfl
      exact (Bool.not_eq_true' _).mp
        (List.all_eq_true.mp visible character (List.contains_iff_mem.mp isMark))
  · rintro rfl
    cases isPart

/-! ### Words that must not be held -/

section HoldsWord

variable {first : Char} {others front rest : List Char}

/-- No word begins where its first character is not. -/
theorem holdsWord_append_of_not_mem (noStart : first ∉ front)
    (free : ∀ before, holdsWord (first :: others) before rest = false) :
    ∀ before, holdsWord (first :: others) before (front ++ rest) = false := by
  induction front with
  | nil => exact free
  | cons character front ih =>
      intro before
      obtain ⟨isOther, noStart⟩ := not_or.mp (mt List.mem_cons.mpr noStart)
      rw [List.cons_append, holdsWord, List.isPrefixOf_cons_cons, beq_false_of_ne isOther,
        ih noStart (some character)]
      simp

/-- No word begins inside a longer one. -/
theorem holdsWord_append_of_before {word : List Char}
    (areParts : ∀ character ∈ front, isWordOrDollar character = true)
    (free : ∀ before, holdsWord word before rest = false) :
    ∀ before, isWordOrDollar before = true →
      holdsWord word (some before) (front ++ rest) = false := by
  induction front with
  | nil => exact fun _ _ => free _
  | cons character front ih =>
      intro before isPart
      obtain ⟨isPartToo, areParts⟩ := List.forall_mem_cons.mp areParts
      rw [List.cons_append, holdsWord, Option.any_some, isPart,
        ih areParts character isPartToo]
      simp

/-- A word that a name begins with goes on there, unless it is that name. -/
theorem goesOn_of_prefix {word name : List Char} (isOther : name ≠ word)
    (nameParts : ∀ character ∈ name, Token.isNamePart character = true)
    (wordParts : ∀ character ∈ word, Token.isNamePart character = true)
    (apart : Apart Token.isNamePart rest) (isFront : word <+: name ++ rest) :
    ((name ++ rest).drop word.length).head?.any isWordOrDollar = true := by
  obtain ⟨behind, split⟩ := isFront
  rw [← split, List.drop_left]
  rcases List.append_eq_append_iff.mp split with ⟨more, rfl, rfl⟩ | ⟨more, rfl, rfl⟩
  · cases more with
    | nil => exact absurd (List.append_nil _) isOther
    | cons next more =>
        exact isWordOrDollar_of_isNamePart
          (nameParts next (List.mem_append_right _ List.mem_cons_self))
  · cases more with
    | nil => exact absurd (List.append_nil _).symm isOther
    | cons next more =>
        have isPart := wordParts next (List.mem_append_right _ List.mem_cons_self)
        rw [apart next rfl] at isPart
        cases isPart

theorem holdsWord_append_of_ne {word name : List Char} (isOther : name ≠ word)
    (nameParts : ∀ character ∈ name, Token.isNamePart character = true)
    (wordParts : ∀ character ∈ word, Token.isNamePart character = true)
    (apart : Apart Token.isNamePart rest) (free : ∀ before, holdsWord word before rest = false) :
    ∀ before, holdsWord word before (name ++ rest) = false := by
  intro before
  have goesOn := goesOn_of_prefix isOther nameParts wordParts apart
  have longer (character : Char) (among : character ∈ name) :=
    isWordOrDollar_of_isNamePart (nameParts character among)
  cases name with
  | nil => exact free before
  | cons character name =>
      obtain ⟨isPart, areParts⟩ := List.forall_mem_cons.mp longer
      have none := holdsWord_append_of_before areParts free character isPart
      rw [List.cons_append] at goesOn ⊢
      rw [holdsWord, none, Bool.or_false, Bool.and_eq_false_iff, Bool.not_eq_false']
      by_cases isFront : word <+: character :: (name ++ rest)
      · exact .inr (goesOn isFront)
      · rw [← List.isPrefixOf_iff_prefix, Bool.not_eq_true] at isFront
        rw [isFront, Bool.and_false]
        exact .inl rfl

/-- A text without quotes holds a word only as a lexeme. -/
theorem holdsWord_eq_false {word : String} {text : List Char} {lexemes : List Lexeme}
    (spelled : word.toList = first :: others) (isStart : Token.isNameStart first = true)
    (noNumber : isNumberPart first = false)
    (areParts : ∀ character ∈ word.toList, Token.isNamePart character = true)
    (unquoted : Unquoted text lexemes) (noWord : .word word ∉ lexemes) :
    ∀ before, holdsWord word.toList before text = false := by
  have isPart : Token.isNamePart first = true := by
    rw [Token.isNamePart, isStart, Bool.true_or]
  have skip {front rest : List Char} (noStart : first ∉ front)
      (free : ∀ before, holdsWord word.toList before rest = false) :
      ∀ before, holdsWord word.toList before (front ++ rest) = false := by
    rw [spelled] at free ⊢
    exact holdsWord_append_of_not_mem noStart free
  induction unquoted with
  | nil =>
      intro before
      rw [spelled, holdsWord]
      simp
  | @blank character rest _ isBlank _ ih =>
      rw [← List.singleton_append]
      refine skip ?_ (ih noWord)
      intro among
      cases List.mem_singleton.mp among
      rw [isBlank_eq_false_of_isNameStart isStart] at isBlank
      cases isBlank
  | number spells _ ih =>
      refine skip ?_ (ih (mt (List.mem_cons_of_mem _) noWord))
      intro among
      rw [isNumberPart_of_spells spells first among] at noNumber
      cases noNumber
  | word spells apart _ ih =>
      refine holdsWord_append_of_ne ?_ (isNamePart_of_spells spells) areParts apart
        (ih (mt (List.mem_cons_of_mem _) noWord))
      intro same
      rw [String.toList_inj.mp same] at noWord
      exact noWord List.mem_cons_self
  | symbol isSymbol _ ih =>
      refine skip ?_ (ih (mt (List.mem_cons_of_mem _) noWord))
      intro among
      rw [(symbols_apart isSymbol first among).1] at isPart
      cases isPart

end HoldsWord

/-! ### Arrows -/

theorem holdsArrow_cons_eq_false_iff {character : Char} {rest : List Char} :
    holdsArrow (character :: rest) = false ↔
      (character = '=' → rest.head? ≠ some '>') ∧ holdsArrow rest = false := by
  by_cases isArrow : character = '=' ∧ rest.head? = some '>'
  · obtain ⟨rfl, isHead⟩ := isArrow
    obtain ⟨rest, rfl⟩ := List.head?_eq_some_iff.mp isHead
    simp [holdsArrow]
  · have same : holdsArrow (character :: rest) = holdsArrow rest := by
      rw [holdsArrow]
      intro rest' isEquals isTip
      exact isArrow ⟨isEquals, by rw [isTip]; rfl⟩
    rw [same]
    exact ⟨fun free => ⟨not_and.mp isArrow, free⟩, And.right⟩

/-- No arrow comes about between two texts if the second does not begin with the tip of one. -/
theorem holdsArrow_append {front rest : List Char} (noArrow : holdsArrow front = false)
    (noTip : '=' ∈ front → rest.head? ≠ some '>') (free : holdsArrow rest = false) :
    holdsArrow (front ++ rest) = false := by
  induction front with
  | nil => exact free
  | cons character front ih =>
      obtain ⟨noHead, noArrow⟩ := holdsArrow_cons_eq_false_iff.mp noArrow
      refine holdsArrow_cons_eq_false_iff.mpr
        ⟨?_, ih noArrow (fun among => noTip (List.mem_cons_of_mem _ among))⟩
      rintro rfl
      cases front with
      | nil => exact noTip List.mem_cons_self
      | cons next front => exact noHead rfl

theorem holdsArrow_of_not_mem {front : List Char} (noEquals : '=' ∉ front) :
    holdsArrow front = false := by
  induction front with
  | nil => rfl
  | cons character front ih =>
      obtain ⟨isOther, noEquals⟩ := not_or.mp (mt List.mem_cons.mpr noEquals)
      exact holdsArrow_cons_eq_false_iff.mpr ⟨fun same => absurd same.symm isOther, ih noEquals⟩

section Neighbours

variable {functions : List String}

/-- Behind a symbol with an equals sign in it there is no comparison. -/
theorem head?_ne_tip {symbol : String} {rest : List Char} {lexemes : List Lexeme}
    (unquoted : Unquoted rest lexemes) (isSymbol : symbol ∈ symbols)
    (hasEquals : '=' ∈ symbol.toList)
    (fits : ∀ next ∈ lexemes.head?, Fits functions (.symbol symbol) next) :
    rest.head? ≠ some '>' := by
  intro isTip
  obtain ⟨tip, isSymbolToo, begins, isNext⟩ :=
    unquoted.exists_symbol isTip (by decide) (by decide) (by decide)
  have awaits : ∀ symbol ∈ symbols, '=' ∈ symbol.toList →
      (Lexeme.symbol symbol).closesOperand = false := by decide
  have compares : ∀ tip ∈ symbols, tip.toList.head? = some '>' →
      (Lexeme.symbol tip).opensOperand = false ∧ tip ∉ [")", "]", ",", "("] := by decide
  obtain ⟨noOperand, noBracket⟩ := compares tip isSymbolToo begins
  -- What awaits an operand is followed by a comparison in none of the ways in which lexemes fit.
  cases fits _ isNext with
  | operator closes =>
      rw [awaits symbol isSymbol hasEquals] at closes
      cases closes
  | calledGroup => exact noBracket (by decide)
  | operand opens =>
      rw [noOperand] at opens
      cases opens
  | nothing isClosing =>
      exact noBracket (List.mem_append_left ["("] isClosing)

/-- Where everything fits there is no arrow. -/
theorem holdsArrow_eq_false {text : List Char} {lexemes : List Lexeme}
    (unquoted : Unquoted text lexemes) (fits : lexemes.IsChain (Fits functions)) :
    holdsArrow text = false := by
  have symbolsFree : ∀ symbol ∈ symbols, holdsArrow symbol.toList = false := by decide
  induction unquoted with
  | nil => rfl
  | @blank character _ _ isBlank _ ih =>
      refine holdsArrow_cons_eq_false_iff.mpr ⟨?_, ih fits⟩
      rintro rfl
      cases isBlank
  | number spells _ ih =>
      have noEquals : '=' ∉ _ := fun among => by cases isNumberPart_of_spells spells _ among
      exact holdsArrow_append (holdsArrow_of_not_mem noEquals)
        (fun among => absurd among noEquals) (ih (List.isChain_cons.mp fits).2)
  | word spells _ _ ih =>
      have noEquals : '=' ∉ _ := fun among => by cases isNamePart_of_spells spells _ among
      exact holdsArrow_append (holdsArrow_of_not_mem noEquals)
        (fun among => absurd among noEquals) (ih (List.isChain_cons.mp fits).2)
  | symbol isSymbol unquoted ih =>
      obtain ⟨fitsNext, fits⟩ := List.isChain_cons.mp fits
      exact holdsArrow_append (symbolsFree _ isSymbol)
        (fun hasEquals => head?_ne_tip unquoted isSymbol hasEquals fitsNext) (ih fits)

end Neighbours

/-! ### Called names -/

section CalledNames

variable {front rest : List Char}

theorem calledNames_cons_of_not_isWord {character : Char}
    (noWord : Text.isWord character = false) :
    calledNames (character :: rest) = calledNames rest := by
  rw [calledNames, noWord]
  rfl

/-- Characters of no word call nothing. -/
theorem calledNames_append_of_not_isWord
    (noWord : ∀ character ∈ front, Text.isWord character = false) :
    calledNames (front ++ rest) = calledNames rest := by
  induction front with
  | nil => rfl
  | cons character front ih =>
      obtain ⟨isOther, noWord⟩ := List.forall_mem_cons.mp noWord
      rw [List.cons_append, calledNames_cons_of_not_isWord isOther, ih noWord]

/-- Unless a quote follows, a word is called if a parenthesis opens behind it. -/
theorem calledName?_of_apart (word : List Char) (apart : Apart isQuote rest) :
    calledName? word rest = if opensCall rest then some word else none := by
  unfold calledName?
  split
  · rename_i quote _
    rw [apart quote rfl]
    rfl
  · rfl

theorem span_of_apart (apart : Apart Text.isWord rest) :
    rest.takeWhile Text.isWord = [] ∧ rest.dropWhile Text.isWord = rest := by
  cases rest with
  | nil => exact ⟨rfl, rfl⟩
  | cons next rest =>
      have noWord : ¬ Text.isWord next = true := by
        rw [apart next rfl]
        decide
      exact ⟨List.takeWhile_cons_of_neg noWord, List.dropWhile_cons_of_neg noWord⟩

theorem dropWhile_append_of_apart (apart : Apart Text.isWord rest) :
    (front ++ rest).dropWhile Text.isWord = front.dropWhile Text.isWord ++ rest := by
  induction front with
  | nil => exact (span_of_apart apart).2
  | cons character front ih =>
      rw [List.cons_append, List.dropWhile_cons, List.dropWhile_cons]
      split
      · exact ih
      · rfl

/-- A text without blanks, quotes and parentheses calls nothing if nothing is called behind it. -/
theorem calledNames_append_of_not_opensCall (noWord : Apart Text.isWord rest)
    (noQuote : Apart isQuote rest) (noCall : opensCall rest = false) :
    ∀ {front : List Char}, (∀ character ∈ front, IsPlain character) →
      calledNames (front ++ rest) = calledNames rest
  | [], _ => rfl
  | character :: front, plain => by
      obtain ⟨_, plain⟩ := List.forall_mem_cons.mp plain
      by_cases isWord : Text.isWord character = true
      · have behind : (front ++ rest).dropWhile Text.isWord
            = front.dropWhile Text.isWord ++ rest := dropWhile_append_of_apart noWord
        have plainBehind := fun character among =>
          plain character ((List.dropWhile_sublist Text.isWord).mem among)
        -- Behind a word inside the text comes one of its plain characters, behind its last word what
        -- follows the text: no parenthesis opens at either place.
        have none (word : List Char) :
            calledName? word (front.dropWhile Text.isWord ++ rest) = none := by
          cases isBehind : front.dropWhile Text.isWord with
          | nil =>
              rw [List.nil_append, calledName?_of_apart word noQuote, noCall]
              rfl
          | cons next behind =>
              rw [isBehind] at plainBehind
              obtain ⟨noBlank, noQuote, noParenthesis⟩ := plainBehind next List.mem_cons_self
              rw [List.cons_append, calledName?_of_apart word (.cons noQuote _), opensCall,
                Text.skipBlanks, List.dropWhile_cons, noBlank]
              simp [noParenthesis]
        rw [List.cons_append, calledNames, if_pos isWord]
        simp only [behind, none, Option.toList_none, List.map_nil, List.nil_append]
        exact calledNames_append_of_not_opensCall noWord noQuote noCall plainBehind
      · rw [Bool.not_eq_true] at isWord
        rw [List.cons_append, calledNames_cons_of_not_isWord isWord]
        exact calledNames_append_of_not_opensCall noWord noQuote noCall plain
termination_by front => front.length
decreasing_by
  all_goals
    have := (List.dropWhile_suffix Text.isWord (l := front)).length_le
    simp only [List.length_cons]
    omega

/-- A word that is called gives its name. -/
theorem calledNames_append_of_opensCall {name : String}
    (areWord : ∀ character ∈ name.toList, Text.isWord character = true) (isSome : name.toList ≠ [])
    (noWord : Apart Text.isWord rest) (noQuote : Apart isQuote rest)
    (opens : opensCall rest = true) :
    calledNames (name.toList ++ rest) = name :: calledNames rest := by
  obtain ⟨first, others, spelled⟩ := List.exists_cons_of_ne_nil isSome
  rw [spelled] at areWord
  obtain ⟨isWord, areWord⟩ := List.forall_mem_cons.mp areWord
  have run : (others ++ rest).takeWhile Text.isWord = others := by
    rw [List.takeWhile_append_of_pos areWord, (span_of_apart noWord).1, List.append_nil]
  have behind : (others ++ rest).dropWhile Text.isWord = rest := by
    rw [List.dropWhile_append_of_pos areWord, (span_of_apart noWord).2]
  rw [spelled, List.cons_append, calledNames, if_pos isWord]
  simp only [run, behind, calledName?_of_apart _ noQuote, opens, if_true, ← spelled,
    Option.toList_some, List.map_cons, List.map_nil, String.ofList_toList, List.singleton_append]

variable {functions : List String} {lexemes : List Lexeme}

/-- Behind a number or a word there is a symbol. -/
theorem exists_symbol_of_fits {first next : Lexeme} (fits : Fits functions first next)
    (noSymbol : ∀ symbol, first ≠ .symbol symbol) : ∃ symbol, next = .symbol symbol := by
  cases fits with
  | operator | calledName => exact ⟨_, rfl⟩
  | calledGroup | operand | nothing => exact absurd rfl (noSymbol _)

/-- No word goes on behind a number or a word, and no quote stands there. -/
theorem apart_of_fits {last : Lexeme} (unquoted : Unquoted rest lexemes)
    (fits : ∀ next ∈ lexemes.head?, Fits functions last next)
    (noSymbol : ∀ symbol, last ≠ .symbol symbol) :
    Apart Text.isWord rest ∧ Apart isQuote rest := by
  have symbolNext := fun next isNext => exists_symbol_of_fits (fits next isNext) noSymbol
  cases unquoted with
  | nil => exact ⟨.nil, .nil⟩
  | blank isBlank =>
      refine ⟨.cons (isWord_eq_false_of_isBlank isBlank) _, .cons ?_ _⟩
      exact isQuote_eq_false_of_part isBlank rfl
  | number =>
      obtain ⟨_, same⟩ := symbolNext _ rfl
      cases same
  | word =>
      obtain ⟨_, same⟩ := symbolNext _ rfl
      cases same
  | @symbol _ symbol _ isSymbol =>
      obtain ⟨first, others, spelled⟩ := List.exists_cons_of_ne_nil (Spells.symbol isSymbol).ne_nil
      obtain ⟨_, noWord, noQuote⟩ :=
        symbols_apart isSymbol first (by rw [spelled]; exact List.mem_cons_self)
      rw [spelled]
      exact ⟨.cons noWord _, .cons noQuote _⟩

/-- Where a call opens a parenthesis is next. -/
theorem head?_of_opensCall (unquoted : Unquoted rest lexemes) (opens : opensCall rest = true) :
    lexemes.head? = some (.symbol "(") := by
  have isParenthesis : ∀ symbol ∈ symbols, symbol.toList.head? = some '(' → symbol = "(" := by
    decide
  obtain ⟨symbol, isSymbol, begins, isNext⟩ := unquoted.skipBlanks.exists_symbol
    (beq_iff_eq.mp opens) (by decide) (by decide) (by decide)
  rw [isNext, isParenthesis symbol isSymbol begins]

/-- Where everything fits, nothing but these functions is called by its looks. -/
theorem calledNames_subset {text : List Char}
    (areWord : ∀ name ∈ functions, ∀ character ∈ name.toList, Text.isWord character = true)
    (unquoted : Unquoted text lexemes) (fits : lexemes.IsChain (Fits functions)) :
    calledNames text ⊆ functions := by
  induction unquoted with
  | nil =>
      rw [calledNames]
      exact List.nil_subset _
  | blank isBlank _ ih =>
      rw [calledNames_cons_of_not_isWord (isWord_eq_false_of_isBlank isBlank)]
      exact ih fits
  | @number _ rest _ _ spells unquoted ih =>
      obtain ⟨fitsNext, fits⟩ := List.isChain_cons.mp fits
      obtain ⟨noWord, noQuote⟩ :=
        apart_of_fits unquoted fitsNext (by intro _ same; cases same)
      have noCall : opensCall rest = false := by
        rw [← Bool.not_eq_true]
        intro opens
        cases fitsNext _ (head?_of_opensCall unquoted opens) with
        | operator _ isOther => exact isOther rfl
      rw [calledNames_append_of_not_opensCall noWord noQuote noCall
        fun character among => isPlain_of_isNumberPart (isNumberPart_of_spells spells _ among)]
      exact ih fits
  | @word rest _ _ spells _ unquoted ih =>
      obtain ⟨fitsNext, fits⟩ := List.isChain_cons.mp fits
      obtain ⟨noWord, noQuote⟩ :=
        apart_of_fits unquoted fitsNext (by intro _ same; cases same)
      by_cases opens : opensCall rest = true
      · cases fitsNext _ (head?_of_opensCall unquoted opens) with
        | operator _ isOther => exact absurd rfl isOther
        | calledName among =>
            rw [calledNames_append_of_opensCall (areWord _ among) spells.ne_nil noWord noQuote
              opens]
            exact List.cons_subset.mpr ⟨among, ih fits⟩
      · rw [Bool.not_eq_true] at opens
        rw [calledNames_append_of_not_opensCall noWord noQuote opens
          fun character among => isPlain_of_isNamePart (isNamePart_of_spells spells _ among)]
        exact ih fits
  | symbol isSymbol unquoted ih =>
      rw [calledNames_append_of_not_isWord
        fun character among => (symbols_apart isSymbol character among).2.1]
      exact ih (List.isChain_cons.mp fits).2

end CalledNames

end AccessRules.Rule
