import AccessRules.Decimal.Reading
import AccessRules.Expr.Basic
import AccessRules.Text.Blank

/-!
# The tokens of rule expressions

Identifiers, the words that are literals, string literals and the operators with their precedence.
Tokens are taken by longest match off the front of the remaining text.
-/

namespace AccessRules.Token

/-- A character an identifier may begin with. -/
def isNameStart (character : Char) : Bool :=
  ('a' ≤ character && character ≤ 'z') || ('A' ≤ character && character ≤ 'Z')
    || character == '_' || character == '$'

/-- A character an identifier may go on with. -/
def isNamePart (character : Char) : Bool :=
  isNameStart character || Decimal.isDigit character

/-- The identifier at the front. -/
def identifier? : List Char → Option (String × List Char)
  | [] => none
  | first :: rest =>
      if isNameStart first then
        some (String.ofList (first :: rest.takeWhile isNamePart), rest.dropWhile isNamePart)
      else none

/-- The value of a word that is a literal. -/
def literalWord? : String → Option Value
  | "true" => some (.bool true)
  | "false" => some (.bool false)
  | "null" => some .null
  | "undefined" => some .undefined
  | _ => none

/-- The expression a word is: a literal or an identifier. -/
def word (name : String) : Expr :=
  match literalWord? name with
  | some value => .literal value
  | none => .ident name

/-- The quotes a string may stand in. -/
def isQuote (character : Char) : Bool :=
  character == '\'' || character == '"' || character == '\x60'

/-- The character that an escape of one letter stands for: itself unless it has a meaning. -/
def escaped : Char → Char
  | 'n' => '\n'
  | 't' => '\t'
  | 'r' => '\r'
  | 'b' => '\x08'
  | 'f' => '\x0c'
  | 'v' => '\x0b'
  | '0' => '\x00'
  | other => other

/-- A hexadecimal digit. -/
def isHexDigit (character : Char) : Bool :=
  Decimal.isDigit character || ('a' ≤ character && character ≤ 'f')
    || ('A' ≤ character && character ≤ 'F')

/-- The value of a hexadecimal digit. -/
def hexValue (digit : Char) : Nat :=
  if Decimal.isDigit digit then digit.toNat - '0'.toNat
  else if 'a' ≤ digit then digit.toNat - 'a'.toNat + 10
  else digit.toNat - 'A'.toNat + 10

/-- The number that hexadecimal digits spell. -/
def ofHex (digits : List Char) : Nat :=
  digits.foldl (fun number digit => number * 16 + hexValue digit) 0

/-- The character that four hexadecimal digits at the front name, or what was left when that failed:
all of it if they are not there, what follows them if they name a surrogate. -/
def unicodeEscape (text : List Char) : Except (List Char) (Char × List Char) :=
  let digits := text.take 4
  if digits.length = 4 ∧ digits.all isHexDigit then
    if (ofHex digits).isValidChar then .ok (Char.ofNat (ofHex digits), text.drop 4)
    else .error (text.drop 4)
  else .error text

/-- One character of a string literal, or what was left when there was none. -/
def stringCharacter : List Char → Except (List Char) (Char × List Char)
  | [] => .error []
  | '\\' :: [] => .error []
  | '\\' :: 'u' :: rest => unicodeEscape rest
  | '\\' :: letter :: rest => .ok (escaped letter, rest)
  | character :: rest => .ok (character, rest)

theorem length_le_of_unicodeEscape {text rest : List Char} {character : Char}
    (h : unicodeEscape text = .ok (character, rest)) : rest.length ≤ text.length := by
  simp only [unicodeEscape] at h
  split at h
  · split at h <;> cases h
    simp
  · cases h

theorem length_lt_of_stringCharacter {text rest : List Char} {character : Char}
    (h : stringCharacter text = .ok (character, rest)) : rest.length < text.length := by
  unfold stringCharacter at h
  split at h
  · cases h
  · cases h
  · have := length_le_of_unicodeEscape h
    simp only [List.length_cons]
    omega
  · cases h
    simp only [List.length_cons]
    omega
  · cases h
    exact Nat.lt_succ_self _

/-- The characters of a string literal up to its closing quote, which is passed over; what was left
if it is not there. -/
def stringTail (quote : Char) (read : List Char) (text : List Char) :
    Except (List Char) (String × List Char) :=
  if text.head? = some quote then .ok (String.ofList read.reverse, text.tail)
  else
    match scanned : stringCharacter text with
    | .error left => .error left
    | .ok (character, rest) =>
        have := length_lt_of_stringCharacter scanned
        stringTail quote (character :: read) rest
termination_by text.length

/-- The operator with one operand that a character is. -/
def unaryOp? : Char → Option UnaryOp
  | '!' => some .not
  | '-' => some .negate
  | '+' => some .plus
  | _ => none

/-- The operators of one precedence, in the order in which they are tried: of two that begin alike
the longer one comes first. -/
abbrev Tier := List (String × BinaryOp)

/-- The precedences, from the loosest to the tightest. -/
def tiers : List Tier :=
  [ [("||", .or)],
    [("&&", .and)],
    [("===", .strictEqual), ("!==", .strictUnequal), ("==", .looseEqual), ("!=", .looseUnequal)],
    [("<=", .lessOrEqual), (">=", .greaterOrEqual), ("<", .less), (">", .greater)],
    [("+", .add), ("-", .subtract)],
    [("*", .multiply), ("/", .divide), ("%", .remainder)] ]

/-- The operator of a tier at the front. -/
def operator? : Tier → List Char → Option (BinaryOp × List Char)
  | [], _ => none
  | (symbol, op) :: others, text =>
      if symbol.toList.isPrefixOf text then some (op, text.drop symbol.length)
      else operator? others text

/-- The target of an assignment at the front: an identifier that is no literal, then an equals sign
that is not doubled. -/
def assignment? (text : List Char) : Option (String × List Char) :=
  match identifier? text with
  | none => none
  | some (name, rest) =>
      if (literalWord? name).isSome then none
      else
        match Text.skipBlanks rest with
        | '=' :: '=' :: _ => none
        | '=' :: rest => some (name, rest)
        | _ => none

/-- Whether an operand begins at the front: a literal, a name, a bracket or an operator before it.
-/
def opensOperand : List Char → Bool
  | [] => false
  | '.' :: rest => (rest.head?.map Decimal.isDigit).getD false
  | first :: _ =>
      isNameStart first || Decimal.isDigit first || isQuote first || first == '[' || first == '('
        || (unaryOp? first).isSome

end AccessRules.Token
