import AccessRules.Proofs.Expr.LongestMatch

/-!
# Looking ahead

The parser looks at characters to decide what comes next. What it finds there is the next lexeme.
-/

namespace AccessRules.Lexeme

/-! ### What stands next -/

theorem Longest.unique {text rest rest' : List Char} {lexeme lexeme' : Lexeme}
    (stands : Longest text lexeme rest) (standsToo : Longest text lexeme' rest') :
    lexeme' = lexeme ∧ rest' = rest := by
  rw [longest_iff] at stands standsToo
  rw [stands] at standsToo
  cases standsToo
  exact ⟨rfl, rfl⟩

theorem SpellsMantissa.ne_nil {text whole fraction : List Char}
    (spells : SpellsMantissa text whole fraction) : text ≠ [] := by
  cases spells with
  | whole isSome => exact isSome
  | point isSome => exact List.append_ne_nil_of_left_ne_nil isSome _
  | leadingPoint => exact List.cons_ne_nil _ _

theorem Spells.ne_nil {text : List Char} {lexeme : Lexeme} (spells : Spells text lexeme) :
    text ≠ [] := by
  cases spells with
  | number mantissa => exact List.append_ne_nil_of_left_ne_nil mantissa.ne_nil _
  | string => exact List.cons_ne_nil _ _
  | word => exact List.cons_ne_nil _ _
  | symbol isSymbol =>
      intro isNil
      have begins := symbols_begin _ isSymbol
      rw [isNil] at begins
      cases begins

/-- A lexeme takes at least one character. -/
theorem Longest.length_lt {text rest : List Char} {lexeme : Lexeme}
    (stands : Longest text lexeme rest) : rest.length < text.length := by
  obtain ⟨front, spells, rfl, _⟩ := stands
  have isSome := List.length_pos_iff.mpr spells.ne_nil
  rw [List.length_append]
  omega

theorem Longest.eq_of_symbol {text rest : List Char} {symbol : String}
    (stands : Longest text (.symbol symbol) rest) : text = symbol.toList ++ rest := by
  obtain ⟨front, spells, rfl, _⟩ := stands
  cases spells
  rfl

/-- No longer symbol is spelled where a symbol stands. -/
theorem Longest.length_le {text rest : List Char} {symbol other : String}
    (stands : Longest text (.symbol symbol) rest) (isSymbol : other ∈ symbols)
    (isFront : other.toList <+: text) : other.length ≤ symbol.length := by
  obtain ⟨front, spells, rfl, longest⟩ := stands
  cases spells
  simpa only [String.length_toList] using longest _ _ (.symbol isSymbol) isFront

/-- A symbol stands where it is spelled if no longer one is spelled there, and no number is. -/
theorem longest_symbol {symbol : String} (isSymbol : symbol ∈ symbols) {rest : List Char}
    (noLonger : ∀ other ∈ symbols, symbol.toList <+: other.toList →
      other.toList <+: symbol.toList ++ rest → other = symbol)
    (noNumber : symbol = "." → (Decimal.spanDigits rest).1 = []) :
    Longest (symbol.toList ++ rest) (.symbol symbol) rest :=
  longest_iff.mpr (next?_symbol_eq isSymbol noLonger noNumber)

/-- A symbol that is no point, and every longer symbol that begins like it goes on with one of these
characters. -/
def goesOnWith (symbol : String) (followers : List Char) : Bool :=
  symbols.contains symbol && symbol != "."
    && symbols.all fun other => other == symbol || !symbol.toList.isPrefixOf other.toList
      || followers.any fun follower => (symbol.toList ++ [follower]).isPrefixOf other.toList

/-- None of those characters stands behind the symbol, so no longer symbol stands there. -/
theorem longest_of_goesOnWith {symbol : String} {followers : List Char}
    (goesOn : goesOnWith symbol followers = true) {rest : List Char}
    (apart : ∀ follower ∈ followers, ∀ further, rest ≠ follower :: further) :
    Longest (symbol.toList ++ rest) (.symbol symbol) rest := by
  simp only [goesOnWith, Bool.and_eq_true, List.contains_iff_mem, bne_iff_ne, List.all_eq_true,
    Bool.or_eq_true, beq_iff_eq, Bool.not_eq_true', List.any_eq_true,
    List.isPrefixOf_iff_prefix] at goesOn
  obtain ⟨⟨isSymbol, noPoint⟩, others⟩ := goesOn
  apply longest_symbol isSymbol
  · intro other isSymbolToo isFront isFrontToo
    rcases others other isSymbolToo with (same | isNoFront) | ⟨follower, isFollower, isLonger⟩
    · exact same
    · rw [List.isPrefixOf_iff_prefix.mpr isFront] at isNoFront
      cases isNoFront
    · obtain ⟨further, same⟩ := isLonger.trans isFrontToo
      rw [List.append_assoc] at same
      exact absurd (List.append_cancel_left same).symm (apart follower isFollower further)
  · intro isPoint
    exact absurd isPoint noPoint

/-- The symbols that no other symbol begins like, the point aside. -/
def isAlone (symbol : String) : Bool :=
  goesOnWith symbol []

/-- The brackets, the marks between parts of a rule, and the signs of numbers. -/
theorem isAlone_of_mem : ∀ symbol ∈ ["[", "]", "(", ")", ",", ";", "?", ":", "+", "-"],
    isAlone symbol = true := by
  decide

theorem longest_of_isAlone {symbol : String} (alone : isAlone symbol = true) (rest : List Char) :
    Longest (symbol.toList ++ rest) (.symbol symbol) rest := by
  apply longest_of_goesOnWith alone
  intro follower isFollower
  cases isFollower

/-! ### Several lexemes -/

theorem Reads.append {text between rest : List Char} {lexemes others : List Lexeme}
    (first : Reads text lexemes between) (second : Reads between others rest) :
    Reads text (lexemes ++ others) rest := by
  induction first with
  | nil => exact second
  | cons stands _ ih => exact .cons stands (ih second)

theorem Reads.split {text rest : List Char} {lexemes others : List Lexeme}
    (reads : Reads text (lexemes ++ others) rest) :
    ∃ between, Reads text lexemes between ∧ Reads between others rest := by
  induction lexemes generalizing text with
  | nil => exact ⟨text, .nil text, reads⟩
  | cons lexeme lexemes ih =>
      cases reads with
      | cons stands reads =>
          obtain ⟨between, first, second⟩ := ih reads
          exact ⟨between, .cons stands first, second⟩

theorem Reads.single {text rest : List Char} {lexeme : Lexeme}
    (stands : Longest (Text.skipBlanks text) lexeme rest) : Reads text [lexeme] rest :=
  .cons stands (.nil rest)

theorem skipBlanks_skipBlanks (text : List Char) :
    Text.skipBlanks (Text.skipBlanks text) = Text.skipBlanks text := by
  unfold Text.skipBlanks
  induction text with
  | nil => rfl
  | cons first others ih =>
      rw [List.dropWhile_cons]
      split
      · exact ih
      · rename_i noBlank
        rw [List.dropWhile_cons, if_neg noBlank]

/-- Blanks make no difference before a lexeme. -/
theorem Reads.skipBlanks_iff {text rest : List Char} {lexemes : List Lexeme}
    (isSome : lexemes ≠ []) :
    Reads (Text.skipBlanks text) lexemes rest ↔ Reads text lexemes rest := by
  constructor
  · intro reads
    cases reads with
    | nil => exact absurd rfl isSome
    | cons stands reads => exact .cons (skipBlanks_skipBlanks text ▸ stands) reads
  · intro reads
    cases reads with
    | nil => exact absurd rfl isSome
    | cons stands reads => exact .cons ((skipBlanks_skipBlanks text).symm ▸ stands) reads

theorem length_skipBlanks_le (text : List Char) : (Text.skipBlanks text).length ≤ text.length :=
  (List.dropWhile_suffix _).length_le

theorem Reads.length_le {text rest : List Char} {lexemes : List Lexeme}
    (reads : Reads text lexemes rest) : rest.length ≤ text.length := by
  induction reads with
  | nil => exact Nat.le_refl _
  | @cons text _ _ _ _ stands _ ih =>
      exact Nat.le_trans ih
        (Nat.le_trans (Nat.le_of_lt stands.length_lt) (length_skipBlanks_le text))

/-! ### Literals -/

theorem scanLiteral?_iff {text rest : List Char} {numeral : Decimal.Literal} :
    Decimal.scanLiteral? text = some (numeral, rest) ↔ Longest text (.number numeral) rest := by
  constructor
  · exact fun scanned => longest_iff.mpr (next?_number scanned)
  · intro stands
    have found := longest_iff.mp stands
    obtain ⟨front, spells, rfl, _⟩ := stands
    cases spells with
    | number mantissa exponent =>
        obtain ⟨numeral', rest', scanned, _⟩ := scanLiteral?_covers mantissa exponent rest
        rw [next?_number scanned] at found
        cases found
        exact scanned

theorem exists_of_longest_string {text rest : List Char} {content : String}
    (stands : Longest text (.string content) rest) :
    ∃ quote others, text = quote :: others ∧ Token.isQuote quote = true
      ∧ Token.stringTail quote [] others = .ok (content, rest) := by
  obtain ⟨front, spells, rfl, _⟩ := stands
  cases spells with
  | string isQuote content =>
      refine ⟨_, _, List.cons_append, isQuote, ?_⟩
      rw [List.append_assoc]
      exact stringTail_of_spells isQuote content rest []

/-! ### Names and assignments -/

theorem identifier?_iff {text rest : List Char} {name : String} :
    Token.identifier? text = some (name, rest) ↔ Longest text (.word name) rest := by
  constructor
  · exact fun identified => longest_iff.mpr (next?_word identified)
  · intro stands
    have found := longest_iff.mp stands
    obtain ⟨front, spells, rfl, _⟩ := stands
    cases spells with
    | @word first others isStart =>
        obtain ⟨name', rest', identified⟩ : ∃ name' rest',
            Token.identifier? (first :: others ++ rest) = some (name', rest') :=
          ⟨_, _, by rw [List.cons_append, Token.identifier?, if_pos isStart]⟩
        rw [next?_word identified] at found
        cases found
        exact identified

/-- The symbols that begin like these go on with an equals sign. -/
theorem longest_before_equals {symbol : String} (goesOn : goesOnWith symbol ['='] = true)
    {rest : List Char} (noEquals : ∀ further, rest ≠ '=' :: further) :
    Longest (symbol.toList ++ rest) (.symbol symbol) rest := by
  apply longest_of_goesOnWith goesOn
  intro follower isFollower
  rw [List.mem_singleton.mp isFollower]
  exact noEquals

/-- An equals sign is one unless a second one follows. -/
theorem longest_equals {rest : List Char} (notDoubled : ∀ further, rest ≠ '=' :: further) :
    Longest ('=' :: rest) (.symbol "=") rest :=
  longest_before_equals (by decide : goesOnWith "=" ['='] = true) notDoubled

theorem eq_of_longest_equals {text rest : List Char} (stands : Longest text (.symbol "=") rest) :
    text = '=' :: rest ∧ ∀ further, rest ≠ '=' :: further := by
  have same : text = '=' :: rest := stands.eq_of_symbol
  refine ⟨same, ?_⟩
  rintro further rfl
  have tooLong := stands.length_le (show "==" ∈ symbols by decide) ⟨further, same.symm⟩
  exact absurd tooLong (by decide)

/-- An assignment is a name that is no literal, and an equals sign. -/
theorem assignment?_iff {text rest : List Char} {target : String} :
    Token.assignment? text = some (target, rest) ↔
      Token.literalWord? target = none ∧ ∃ between, Longest text (.word target) between
        ∧ Longest (Text.skipBlanks between) (.symbol "=") rest := by
  constructor
  · intro assigns
    unfold Token.assignment? at assigns
    split at assigns
    · cases assigns
    · rename_i name between identified
      split at assigns
      · cases assigns
      · rename_i noLiteral
        split at assigns
        · cases assigns
        · rename_i further notDoubled same
          cases assigns
          rw [Option.isSome_iff_ne_none, Decidable.not_not] at noLiteral
          refine ⟨noLiteral, between, identifier?_iff.mp identified, ?_⟩
          rw [same]
          exact longest_equals notDoubled
        · cases assigns
  · rintro ⟨noLiteral, between, name, equals⟩
    obtain ⟨same, notDoubled⟩ := eq_of_longest_equals equals
    unfold Token.assignment?
    simp only [identifier?_iff.mpr name, noLiteral, Option.isSome_none, Bool.false_eq_true,
      if_false, same]

/-! ### Operators -/

theorem operator?_eq (tier : Token.Tier) (text : List Char) :
    Token.operator? tier text =
      (tier.find? fun entry => entry.1.toList.isPrefixOf text).map fun entry =>
        (entry.2, text.drop entry.1.length) := by
  induction tier with
  | nil => rfl
  | cons entry others ih =>
      rw [List.find?_cons]
      cases isFront : entry.1.toList.isPrefixOf text with
      | true =>
          rw [Token.operator?, if_pos isFront]
          rfl
      | false =>
          rw [Token.operator?, isFront, ih]
          rfl

/-- Of the operators of one tier the longer ones come first. All are symbols, and so are the longer
symbols that begin like one of them. -/
structure IsTier (tier : Token.Tier) : Prop where
  sorted : tier.Pairwise fun entry later => later.1.length ≤ entry.1.length
  isSymbol : ∀ entry ∈ tier, entry.1 ∈ symbols
  noPoint : ∀ entry ∈ tier, entry.1 ≠ "."
  longer : ∀ entry ∈ tier, ∀ other ∈ symbols, entry.1.toList <+: other.toList →
    other ∈ tier.map Prod.fst
  unique : ∀ entry ∈ tier, ∀ other ∈ tier, entry.1 = other.1 → entry = other

theorem isTier_of_mem {tier : Token.Tier} (isTier : tier ∈ Token.tiers) : IsTier tier where
  sorted := by revert tier; decide
  isSymbol := by revert tier; decide
  noPoint := by revert tier; decide
  longer := by revert tier; decide
  unique := by revert tier; decide

/-- An operator of a tier is read where its symbol stands. -/
theorem operator?_iff {tier : Token.Tier} (isTier : IsTier tier) {text rest : List Char}
    {op : BinaryOp} :
    Token.operator? tier text = some (op, rest) ↔
      ∃ symbol, (symbol, op) ∈ tier ∧ Longest text (.symbol symbol) rest := by
  rw [operator?_eq]
  constructor
  · intro found
    obtain ⟨⟨symbol, op'⟩, isFound, same⟩ := Option.map_eq_some_iff.mp found
    cases same
    obtain ⟨isFront, longest⟩ := find?_longest isTier.sorted isFound
    have isEntry := List.mem_of_find?_eq_some isFound
    have split := List.prefix_iff_eq_append.mp isFront
    rw [String.length_toList] at split
    have stands : Longest (symbol.toList ++ text.drop symbol.length) (.symbol symbol)
        (text.drop symbol.length) := by
      refine longest_symbol (isTier.isSymbol _ isEntry) ?_ fun same =>
        absurd same (isTier.noPoint _ isEntry)
      intro other isSymbol noShorter isFrontToo
      rw [split] at isFrontToo
      obtain ⟨entry, isEntryToo, rfl⟩ :=
        List.mem_map.mp (isTier.longer _ isEntry other isSymbol noShorter)
      have lengths := noShorter.length_le
      simp only [String.length_toList] at lengths
      exact (eq_of_front noShorter
        (Nat.le_antisymm lengths (longest entry isEntryToo isFrontToo))).symm
    rw [split] at stands
    exact ⟨symbol, isEntry, stands⟩
  · rintro ⟨symbol, isEntry, stands⟩
    have same := stands.eq_of_symbol
    have isFront : symbol.toList <+: text := ⟨rest, same.symm⟩
    cases found : tier.find? fun entry => entry.1.toList.isPrefixOf text with
    | none =>
        exact absurd (List.isPrefixOf_iff_prefix.mpr isFront)
          (List.find?_eq_none.mp found _ isEntry)
    | some other =>
        obtain ⟨isFrontToo, longest⟩ := find?_longest isTier.sorted found
        have isEntryToo := List.mem_of_find?_eq_some found
        have noShorter := longest _ isEntry isFront
        have noLonger := stands.length_le (isTier.isSymbol _ isEntryToo) isFrontToo
        have sameSymbol := eq_of_front (front_of_fronts isFront isFrontToo noShorter)
          (Nat.le_antisymm noShorter noLonger)
        cases isTier.unique _ isEntry _ isEntryToo sameSymbol
        rw [Option.map_some, same, ← String.length_toList, List.drop_left]

/-! ### Operands -/

/-- The texts that begin with a digit, a point and a digit, a quote, a letter or an opening
bracket. -/
def beginsPrimary : List Char → Bool
  | [] => false
  | '.' :: rest => (rest.head?.map Decimal.isDigit).getD false
  | first :: _ =>
      Token.isNameStart first || Decimal.isDigit first || Token.isQuote first || first == '['
        || first == '('

theorem beginsPrimary_cons {first : Char} (noPoint : first ≠ '.') (others : List Char) :
    beginsPrimary (first :: others) =
      (Token.isNameStart first || Decimal.isDigit first || Token.isQuote first || first == '['
        || first == '(') := by
  simp only [beginsPrimary]

theorem beginsPrimary_of_digit {first : Char} (isDigit : Decimal.isDigit first = true)
    (others : List Char) : beginsPrimary (first :: others) = true := by
  rw [beginsPrimary_cons (Decimal.ne_of_isDigit isDigit rfl), isDigit]
  simp only [Bool.or_true, Bool.true_or]

theorem beginsPrimary_of_quote {first : Char} (isQuote : Token.isQuote first = true)
    (others : List Char) : beginsPrimary (first :: others) = true := by
  rw [beginsPrimary_cons (not_isDigit_of_isQuote isQuote).2, isQuote]
  simp only [Bool.or_true, Bool.true_or]

theorem beginsPrimary_of_mantissa {text whole fraction : List Char}
    (spells : SpellsMantissa text whole fraction) (rest : List Char) :
    beginsPrimary (text ++ rest) = true := by
  cases spells with
  | whole isSome allDigits =>
      obtain ⟨digit, digits, rfl⟩ := List.exists_cons_of_ne_nil isSome
      exact beginsPrimary_of_digit (allDigits _ List.mem_cons_self) _
  | point isSome allDigits =>
      obtain ⟨digit, digits, rfl⟩ := List.exists_cons_of_ne_nil isSome
      exact beginsPrimary_of_digit (allDigits _ List.mem_cons_self) _
  | leadingPoint isSome allDigits =>
      obtain ⟨digit, digits, rfl⟩ := List.exists_cons_of_ne_nil isSome
      exact allDigits _ List.mem_cons_self

theorem beginsPrimary_of_longest {text rest : List Char} {lexeme : Lexeme}
    (stands : Longest text lexeme rest) (opens : lexeme.opensPrimary = true) :
    beginsPrimary text = true := by
  obtain ⟨front, spells, rfl, _⟩ := stands
  cases spells with
  | number mantissa =>
      rw [List.append_assoc]
      exact beginsPrimary_of_mantissa mantissa _
  | string isQuote =>
      rw [List.cons_append]
      exact beginsPrimary_of_quote isQuote _
  | word isStart =>
      rw [List.cons_append, beginsPrimary_cons (not_isDigit_of_isNameStart isStart).2.1, isStart]
      simp only [Bool.true_or]
  | symbol =>
      simp only [opensPrimary, Bool.or_eq_true, beq_iff_eq] at opens
      rcases opens with rfl | rfl <;> rfl

theorem scanLiteral?_ne_none {mantissa whole fraction : List Char}
    (spells : SpellsMantissa mantissa whole fraction) (rest : List Char) :
    Decimal.scanLiteral? (mantissa ++ rest) ≠ none := by
  obtain ⟨numeral, rest', scanned, _⟩ :=
    @scanLiteral?_covers mantissa [] ⟨whole, fraction, 0⟩ spells .missing rest
  rw [List.append_nil] at scanned
  rw [scanned]
  exact Option.some_ne_none _

/-- Where none of the five is, no operand begins. -/
theorem not_beginsPrimary {first : Char} {others : List Char}
    (noNumber : Decimal.scanLiteral? (first :: others) = none)
    (noArray : first ≠ '[') (noGroup : first ≠ '(') (noString : Token.isQuote first = false)
    (noWord : Token.identifier? (first :: others) = none) :
    beginsPrimary (first :: others) = false := by
  by_cases isPoint : first = '.'
  · subst isPoint
    cases others with
    | nil => rfl
    | cons digit more =>
        apply Bool.eq_false_iff.mpr
        intro isDigit
        have spells : SpellsMantissa ['.', digit] [] [digit] :=
          .leadingPoint (List.cons_ne_nil _ _) (List.forall_mem_singleton.mpr isDigit)
        exact scanLiteral?_ne_none spells more noNumber
  · have noDigit : Decimal.isDigit first = false := by
      apply Bool.eq_false_iff.mpr
      intro isDigit
      have spells : SpellsMantissa [first] [first] [] :=
        .whole (List.cons_ne_nil _ _) (List.forall_mem_singleton.mpr isDigit)
      exact scanLiteral?_ne_none spells others noNumber
    have noStart : Token.isNameStart first = false := by
      apply Bool.eq_false_iff.mpr
      intro isStart
      rw [Token.identifier?, if_pos isStart] at noWord
      cases noWord
    rw [beginsPrimary_cons isPoint, noStart, noDigit, noString, beq_false_of_ne noArray,
      beq_false_of_ne noGroup]
    rfl

theorem not_beginsPrimary_of_unaryOp? {text : List Char} {op : UnaryOp}
    (isOp : text.head?.bind Token.unaryOp? = some op) : beginsPrimary text = false := by
  cases text with
  | nil => cases isOp
  | cons first others => rcases eq_of_unaryOp? isOp with rfl | rfl | rfl <;> rfl

/-- An operand that begins so has no operator before it. -/
theorem unaryOp?_eq_none_of_longest {text rest : List Char} {lexeme : Lexeme}
    (stands : Longest text lexeme rest) (opens : lexeme.opensPrimary = true) :
    text.head?.bind Token.unaryOp? = none := by
  cases isOp : text.head?.bind Token.unaryOp? with
  | none => rfl
  | some op =>
      have begins := beginsPrimary_of_longest stands opens
      rw [not_beginsPrimary_of_unaryOp? isOp] at begins
      cases begins

theorem opensOperand_of_beginsPrimary {text : List Char} (begins : beginsPrimary text = true) :
    Token.opensOperand text = true := by
  unfold beginsPrimary at begins
  split at begins
  · cases begins
  · exact begins
  · simp only [Token.opensOperand, begins, Bool.true_or]

theorem opensOperand_of_unaryOp? {text : List Char} {op : UnaryOp}
    (isOp : text.head?.bind Token.unaryOp? = some op) : Token.opensOperand text = true := by
  cases text with
  | nil => cases isOp
  | cons first others => rcases eq_of_unaryOp? isOp with rfl | rfl | rfl <;> rfl

/-- Without an operator before it, an operand begins like what properties and calls apply to. -/
theorem opensOperand_eq_beginsPrimary {text : List Char}
    (isNoOp : text.head?.bind Token.unaryOp? = none) :
    Token.opensOperand text = beginsPrimary text := by
  cases text with
  | nil => rfl
  | cons first others =>
      rw [List.head?_cons, Option.bind_some] at isNoOp
      by_cases isPoint : first = '.'
      · subst isPoint
        rfl
      · simp only [Token.opensOperand, isNoOp, beginsPrimary_cons isPoint,
          Option.isSome_none, Bool.or_false]

theorem opensOperand_of_longest {text rest : List Char} {lexeme : Lexeme}
    (stands : Longest text lexeme rest) (opens : lexeme.opensOperand = true) :
    Token.opensOperand text = true := by
  by_cases isPrimary : lexeme.opensPrimary = true
  · exact opensOperand_of_beginsPrimary (beginsPrimary_of_longest stands isPrimary)
  · cases lexeme with
    | symbol spelling =>
        have same := stands.eq_of_symbol
        simp only [Lexeme.opensOperand, List.contains_iff_mem, List.mem_cons, List.not_mem_nil,
          or_false] at opens
        rcases opens with rfl | rfl | rfl | rfl | rfl <;> rw [same] <;> rfl
    | number | string | word => exact absurd rfl isPrimary

/-- An operator with one operand stands before an operand. -/
theorem longest_unary {character : Char} {op : UnaryOp} (isOp : Token.unaryOp? character = some op)
    {rest between : List Char} {lexeme : Lexeme}
    (stands : Longest (Text.skipBlanks rest) lexeme between) (opens : lexeme.opensOperand = true) :
    Longest (character :: rest) (.symbol (String.singleton character)) rest := by
  rcases eq_of_unaryOp? isOp with rfl | rfl | rfl
  · apply longest_before_equals (by decide : goesOnWith "!" ['='] = true)
    rintro further rfl
    have isOpening : Token.opensOperand ('=' :: further) = true :=
      opensOperand_of_longest stands opens
    cases isOpening
  · exact longest_of_isAlone (isAlone_of_mem _ (by simp)) rest
  · exact longest_of_isAlone (isAlone_of_mem _ (by simp)) rest

/-! ### Points -/

/-- No symbol begins with a point but the point. -/
theorem symbols_point : ∀ other ∈ symbols, ".".toList <+: other.toList → other = "." := by
  decide

/-- Without digits behind it a point is the symbol. -/
theorem longest_point {rest : List Char} (noNumber : (Decimal.spanDigits rest).1 = []) :
    Longest ('.' :: rest) (.symbol ".") rest :=
  longest_symbol (by decide) (fun other isSymbol isFront _ => symbols_point other isSymbol isFront)
    fun _ => noNumber

/-- A point before a name is the symbol. -/
theorem longest_point_of_word {rest between : List Char} {name : String}
    (stands : Longest (Text.skipBlanks rest) (.word name) between) :
    Longest ('.' :: rest) (.symbol ".") rest := by
  refine longest_point ?_
  cases rest with
  | nil => rfl
  | cons first others =>
      cases isDigit : Decimal.isDigit first with
      | false => rw [spanDigits_cons isDigit]
      | true =>
          have same : Text.skipBlanks (first :: others) = first :: others := by
            rw [Text.skipBlanks, List.dropWhile_cons,
              Decimal.isBlank_eq_false_of_isDigit isDigit]
            rfl
          obtain ⟨front, spells, split, _⟩ := stands
          cases spells with
          | word isStart =>
              rw [same, List.cons_append, List.cons.injEq] at split
              rw [← split.1, (not_isDigit_of_isNameStart isStart).1] at isDigit
              cases isDigit

/-- A point begins a number or is the symbol. -/
theorem exists_of_point (rest : List Char) :
    ∃ lexeme between, Longest ('.' :: rest) lexeme between
      ∧ ∀ symbol, lexeme = .symbol symbol → symbol = "." := by
  by_cases isNumber : (Decimal.spanDigits rest).1 = []
  · exact ⟨_, _, longest_point isNumber, fun _ same => by cases same; rfl⟩
  · exact ⟨_, _, longest_iff.mpr (next?_number (scanLiteral?_leadingPoint isNumber)),
      fun _ same => by cases same⟩

/-! ### The end of a phrase -/

/-- What stands next, if anything does, is a symbol, and it is none of these. -/
def Ends (excluded : List String) (text : List Char) : Prop :=
  ∀ lexeme rest, Longest (Text.skipBlanks text) lexeme rest →
    ∃ symbol, lexeme = .symbol symbol ∧ symbol ∉ excluded

theorem Ends.mono {excluded fewer : List String} {text : List Char} (ends : Ends excluded text)
    (subset : fewer ⊆ excluded) : Ends fewer text := by
  intro lexeme rest stands
  obtain ⟨symbol, isSymbol, isNone⟩ := ends lexeme rest stands
  exact ⟨symbol, isSymbol, fun member => isNone (subset member)⟩

theorem Ends.of_symbol {excluded : List String} {text rest : List Char} {symbol : String}
    (stands : Longest (Text.skipBlanks text) (.symbol symbol) rest) (isNone : symbol ∉ excluded) :
    Ends excluded text := by
  intro lexeme rest' standsToo
  cases (stands.unique standsToo).1
  exact ⟨symbol, rfl, isNone⟩

theorem Ends.of_blank {excluded : List String} {text : List Char}
    (isBlank : Text.skipBlanks text = []) : Ends excluded text := by
  intro lexeme rest stands
  rw [isBlank] at stands
  exact absurd stands.length_lt (Nat.not_lt_zero _)

/-- None of the symbols stands next. -/
theorem Ends.not_mem {excluded : List String} {text rest : List Char} {symbol : String}
    (ends : Ends excluded text) (stands : Longest (Text.skipBlanks text) (.symbol symbol) rest) :
    symbol ∉ excluded := by
  obtain ⟨_, same, isNone⟩ := ends _ _ stands
  cases same
  exact isNone

theorem Ends.operator?_eq_none {excluded : List String} {text : List Char}
    (ends : Ends excluded text) {tier : Token.Tier} (isTier : IsTier tier)
    (areNone : tier.map Prod.fst ⊆ excluded) :
    Token.operator? tier (Text.skipBlanks text) = none := by
  cases found : Token.operator? tier (Text.skipBlanks text) with
  | none => rfl
  | some hit =>
      obtain ⟨symbol, isEntry, stands⟩ := (operator?_iff isTier).mp found
      exact absurd (areNone (List.mem_map_of_mem isEntry)) (ends.not_mem stands)

/-- No symbol of one character stands next that is among these. -/
theorem Ends.ne_cons {excluded : List String} {text : List Char} (ends : Ends excluded text)
    {character : Char} (alone : isAlone (String.singleton character) = true)
    (isNone : String.singleton character ∈ excluded) (rest : List Char) :
    Text.skipBlanks text ≠ character :: rest := by
  intro same
  have stands := longest_of_isAlone alone rest
  rw [String.toList_singleton] at stands
  rw [List.singleton_append, ← same] at stands
  exact ends.not_mem stands isNone

theorem Ends.ne_point {excluded : List String} {text : List Char} (ends : Ends excluded text)
    (isNone : "." ∈ excluded) (rest : List Char) : Text.skipBlanks text ≠ '.' :: rest := by
  intro same
  obtain ⟨lexeme, between, stands, isPoint⟩ := exists_of_point rest
  rw [← same] at stands
  obtain ⟨symbol, isSymbol, isOther⟩ := ends _ _ stands
  exact isOther (isPoint symbol isSymbol ▸ isNone)

end AccessRules.Lexeme
