import AccessRules.Expr.Token

/-!
# Lexemes

The words a rule's source is written in: numbers, strings in quotes, names and symbols, each with
its spellings. Of all lexemes that are spelled at a place the longest one stands there, and any
blanks may stand before it.
-/

namespace AccessRules

/-- A word of a rule's source. -/
inductive Lexeme where
  | number (numeral : Decimal.Literal)
  | string (content : String)
  | word (name : String)
  | symbol (spelling : String)
deriving DecidableEq

namespace Lexeme

/-! ### Spelling -/

/-- Nothing but digits. -/
def AllDigits (text : List Char) : Prop :=
  ∀ character ∈ text, Decimal.isDigit character = true

/-- A number without its exponent: digits, with or without a point and further digits behind them,
or a point with digits behind it. -/
inductive SpellsMantissa : List Char → List Char → List Char → Prop
  | whole {whole : List Char} : whole ≠ [] → AllDigits whole → SpellsMantissa whole whole []
  | point {whole fraction : List Char} : whole ≠ [] → AllDigits whole → AllDigits fraction →
      SpellsMantissa (whole ++ '.' :: fraction) whole fraction
  | leadingPoint {fraction : List Char} : fraction ≠ [] → AllDigits fraction →
      SpellsMantissa ('.' :: fraction) [] fraction

/-- The exponent of a number, which may be missing. -/
inductive SpellsExponent : List Char → Int → Prop
  | missing : SpellsExponent [] 0
  | unsigned {letter : Char} {digits : List Char} : letter = 'e' ∨ letter = 'E' → digits ≠ [] →
      AllDigits digits → SpellsExponent (letter :: digits) (Decimal.ofDigits digits)
  | plus {letter : Char} {digits : List Char} : letter = 'e' ∨ letter = 'E' → digits ≠ [] →
      AllDigits digits → SpellsExponent (letter :: '+' :: digits) (Decimal.ofDigits digits)
  | minus {letter : Char} {digits : List Char} : letter = 'e' ∨ letter = 'E' → digits ≠ [] →
      AllDigits digits → SpellsExponent (letter :: '-' :: digits) (-(Decimal.ofDigits digits : Int))

/-- The letters that have a meaning behind a backslash, and the characters they stand for. -/
def escapes : List (Char × Char) :=
  [('n', '\n'), ('t', '\t'), ('r', '\r'), ('b', '\x08'), ('f', '\x0c'), ('v', '\x0b'),
    ('0', '\x00')]

/-- What a letter behind a backslash stands for: itself, unless it has a meaning. A `u` begins a
code instead. -/
inductive Escapes : Char → Char → Prop
  | named {letter character : Char} : (letter, character) ∈ escapes → Escapes letter character
  | itself {letter : Char} : letter ≠ 'u' → letter ∉ escapes.map Prod.fst → Escapes letter letter

/-- What may stand between quotes, and the characters that it stands for. -/
inductive SpellsContent (quote : Char) : List Char → List Char → Prop
  | nil : SpellsContent quote [] []
  | plain {character : Char} {text content : List Char} : character ≠ quote → character ≠ '\\' →
      SpellsContent quote text content →
      SpellsContent quote (character :: text) (character :: content)
  | escape {letter character : Char} {text content : List Char} : Escapes letter character →
      SpellsContent quote text content →
      SpellsContent quote ('\\' :: letter :: text) (character :: content)
  /-- Four digits that are the code of a character. No character has the code of a surrogate. -/
  | unicode {digits text content : List Char} {character : Char} : digits.length = 4 →
      (∀ digit ∈ digits, Token.isHexDigit digit = true) →
      Token.ofHex digits = character.toNat → SpellsContent quote text content →
      SpellsContent quote ('\\' :: 'u' :: (digits ++ text)) (character :: content)

/-- The symbols. Of two that begin alike the longer one comes first. -/
def symbols : List String :=
  ["===", "!==", "==", "!=", "<=", ">=", "&&", "||", "<", ">", "+", "-", "*", "/", "%", "!", "=",
   "?", ":", ".", ",", ";", "(", ")", "[", "]"]

/-- The texts that spell a lexeme. -/
inductive Spells : List Char → Lexeme → Prop
  | number {mantissa exponent : List Char} {numeral : Decimal.Literal} :
      SpellsMantissa mantissa numeral.whole numeral.fraction →
      SpellsExponent exponent numeral.exponent → Spells (mantissa ++ exponent) (.number numeral)
  | string {quote : Char} {text content : List Char} : Token.isQuote quote = true →
      SpellsContent quote text content →
      Spells (quote :: (text ++ [quote])) (.string (String.ofList content))
  | word {first : Char} {others : List Char} : Token.isNameStart first = true →
      (∀ character ∈ others, Token.isNamePart character = true) →
      Spells (first :: others) (.word (String.ofList (first :: others)))
  | symbol {spelling : String} : spelling ∈ symbols → Spells spelling.toList (.symbol spelling)

/-- A lexeme stands at the front of a text, and no longer one does. -/
def Longest (text : List Char) (lexeme : Lexeme) (rest : List Char) : Prop :=
  ∃ front, Spells front lexeme ∧ front ++ rest = text
    ∧ ∀ other longer, Spells other longer → other <+: text → other.length ≤ front.length

/-- Lexemes stand at the front of a text one after the other, any blanks before each. -/
inductive Reads : List Char → List Lexeme → List Char → Prop
  | nil (text : List Char) : Reads text [] text
  | cons {text between rest : List Char} {lexeme : Lexeme} {lexemes : List Lexeme} :
      Longest (Text.skipBlanks text) lexeme between → Reads between lexemes rest →
      Reads text (lexeme :: lexemes) rest

/-- A text is nothing but these lexemes and blanks. -/
def Lexes (text : List Char) (lexemes : List Lexeme) : Prop :=
  ∃ rest, Reads text lexemes rest ∧ Text.skipBlanks rest = []

theorem escaped_of_mem : ∀ entry ∈ escapes, entry.1 ≠ 'u' ∧ Token.escaped entry.1 = entry.2 := by
  decide

theorem escaped_of_not_mem {letter : Char} (noMeaning : letter ∉ escapes.map Prod.fst) :
    Token.escaped letter = letter := by
  unfold Token.escaped
  split
  case h_8 => rfl
  all_goals exact absurd (by decide) noMeaning

/-- The reader of strings takes a letter behind a backslash for what it stands for. -/
theorem escapes_iff {letter character : Char} :
    Escapes letter character ↔ letter ≠ 'u' ∧ Token.escaped letter = character := by
  constructor
  · intro stands
    cases stands with
    | named isNamed => exact escaped_of_mem _ isNamed
    | itself isOther noMeaning => exact ⟨isOther, escaped_of_not_mem noMeaning⟩
  · rintro ⟨isOther, rfl⟩
    by_cases noMeaning : letter ∉ escapes.map Prod.fst
    · rw [escaped_of_not_mem noMeaning]
      exact .itself isOther noMeaning
    · obtain ⟨⟨_, meaning⟩, isNamed, rfl⟩ := List.mem_map.mp (Classical.not_not.mp noMeaning)
      rw [(escaped_of_mem _ isNamed).2]
      exact .named isNamed

/-! ### Operands -/

/-- The lexemes that begin an operand without an operator before it. -/
def opensPrimary : Lexeme → Bool
  | .symbol spelling => spelling == "[" || spelling == "("
  | _ => true

/-- The lexemes that begin an operand. -/
def opensOperand : Lexeme → Bool
  | .symbol spelling => ["[", "(", "!", "-", "+"].contains spelling
  | _ => true

/-- The operators with one operand are three characters. -/
theorem eq_of_unaryOp? {character : Char} {op : UnaryOp}
    (isOp : Token.unaryOp? character = some op) :
    character = '!' ∨ character = '-' ∨ character = '+' := by
  unfold Token.unaryOp? at isOp
  split at isOp
  · exact .inl rfl
  · exact .inr (.inl rfl)
  · exact .inr (.inr rfl)
  · cases isOp

end Lexeme

end AccessRules
