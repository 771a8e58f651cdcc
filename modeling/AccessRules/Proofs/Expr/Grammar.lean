import AccessRules.Proofs.Expr.Lexeme

/-!
# The grammar of rules

Which lexemes are which expression. The tiers of operators bind from the loosest to the tightest and
group from the left; assignments, conditionals and operators with one operand group from the right.
Each derivation has a budget of levels: what is assigned, the outcomes of a conditional, operands of
operators with one operand, and all that stands in brackets take one level of it.
-/

namespace AccessRules.Grammar

/-! ### Words and operators -/

/-- The words that are literals, and their values. -/
def literals : List (String × Value) :=
  [("true", .bool true), ("false", .bool false), ("null", .null), ("undefined", .undefined)]

/-- The operators with one operand. -/
def unaryOperators : List (String × UnaryOp) :=
  [("!", .not), ("-", .negate), ("+", .plus)]

/-- Operators with two operands that bind alike. -/
abbrev Tier := List (String × BinaryOp)

/-- The operators with two operands, from those that bind loosest to those that bind tightest. -/
def precedence : List Tier :=
  [ [("||", .or)],
    [("&&", .and)],
    [("===", .strictEqual), ("!==", .strictUnequal), ("==", .looseEqual), ("!=", .looseUnequal)],
    [("<=", .lessOrEqual), (">=", .greaterOrEqual), ("<", .less), (">", .greater)],
    [("+", .add), ("-", .subtract)],
    [("*", .multiply), ("/", .divide), ("%", .remainder)] ]

/-! ### Phrases -/

/-- The kinds of phrases an expression is put together from. -/
inductive Phrase where
  | expression
  | conditional
  /-- Operators of these tiers and the operands between them. -/
  | operation (tiers : List Tier)
  | operand
  /-- What properties are read of and what is called, with the properties and calls. -/
  | postfixed
  | primary

mutual

/-- With so many levels left these lexemes are a phrase of this kind, and its tree is this one. -/
inductive Derives : Nat → Phrase → List Lexeme → Expr → Prop
  | assign {levels : Nat} {target : String} {value : List Lexeme} {tree : Expr} :
      target ∉ literals.map Prod.fst → Derives levels .expression value tree →
      Derives (levels + 1) .expression (.word target :: .symbol "=" :: value) (.assign target tree)
  | unassigned {levels : Nat} {lexemes : List Lexeme} {tree : Expr} :
      Derives levels .conditional lexemes tree → Derives levels .expression lexemes tree
  | choose {levels : Nat} {test consequent alternate : List Lexeme} {tree tree₁ tree₂ : Expr} :
      Derives (levels + 1) (.operation precedence) test tree →
      Derives levels .expression consequent tree₁ → Derives levels .expression alternate tree₂ →
      Derives (levels + 1) .conditional
        (test ++ .symbol "?" :: (consequent ++ .symbol ":" :: alternate))
        (.conditional tree tree₁ tree₂)
  | unconditional {levels : Nat} {lexemes : List Lexeme} {tree : Expr} :
      Derives levels (.operation precedence) lexemes tree →
      Derives levels .conditional lexemes tree
  | operator {levels : Nat} {tier : Tier} {tighter : List Tier} {symbol : String}
      {op : BinaryOp} {left right : List Lexeme} {tree₁ tree₂ : Expr} :
      Derives levels (.operation (tier :: tighter)) left tree₁ → (symbol, op) ∈ tier →
      Derives levels (.operation tighter) right tree₂ →
      Derives levels (.operation (tier :: tighter)) (left ++ .symbol symbol :: right)
        (.binary op tree₁ tree₂)
  | tighter {levels : Nat} {tier : Tier} {tighter : List Tier} {lexemes : List Lexeme}
      {tree : Expr} : Derives levels (.operation tighter) lexemes tree →
      Derives levels (.operation (tier :: tighter)) lexemes tree
  | operand {levels : Nat} {lexemes : List Lexeme} {tree : Expr} :
      Derives levels .operand lexemes tree → Derives levels (.operation []) lexemes tree
  | unary {levels : Nat} {symbol : String} {op : UnaryOp} {lexemes : List Lexeme} {tree : Expr} :
      (symbol, op) ∈ unaryOperators → Derives levels .operand lexemes tree →
      Derives (levels + 1) .operand (.symbol symbol :: lexemes) (.unary op tree)
  | postfixed {levels : Nat} {lexemes : List Lexeme} {tree : Expr} :
      Derives levels .postfixed lexemes tree → Derives levels .operand lexemes tree
  | member {levels : Nat} {object : List Lexeme} {tree : Expr} {name : String} :
      Derives levels .postfixed object tree →
      Derives levels .postfixed (object ++ [.symbol ".", .word name]) (.member tree name)
  | index {levels : Nat} {object key : List Lexeme} {tree₁ tree₂ : Expr} :
      Derives (levels + 1) .postfixed object tree₁ → Derives levels .expression key tree₂ →
      Derives (levels + 1) .postfixed (object ++ .symbol "[" :: (key ++ [.symbol "]"]))
        (.index tree₁ tree₂)
  | call {levels : Nat} {callee arguments : List Lexeme} {tree : Expr} {trees : List Expr} :
      Derives (levels + 1) .postfixed callee tree → DerivesAll levels arguments trees →
      Derives (levels + 1) .postfixed (callee ++ .symbol "(" :: (arguments ++ [.symbol ")"]))
        (.call tree trees)
  | primary {levels : Nat} {lexemes : List Lexeme} {tree : Expr} :
      Derives levels .primary lexemes tree → Derives levels .postfixed lexemes tree
  | number {levels : Nat} (numeral : Decimal.Literal) :
      Derives levels .primary [.number numeral] (.literal (.number numeral.toFloat))
  | string {levels : Nat} (content : String) :
      Derives levels .primary [.string content] (.literal (.string content))
  | literal {levels : Nat} {name : String} {value : Value} : (name, value) ∈ literals →
      Derives levels .primary [.word name] (.literal value)
  | ident {levels : Nat} {name : String} : name ∉ literals.map Prod.fst →
      Derives levels .primary [.word name] (.ident name)
  /-- One comma may stand behind the items. -/
  | array {levels : Nat} {items comma : List Lexeme} {trees : List Expr} :
      DerivesAll levels items trees → comma = [] ∨ comma = [.symbol ","] →
      Derives (levels + 1) .primary (.symbol "[" :: (items ++ (comma ++ [.symbol "]"])))
        (.array trees)
  | group {levels : Nat} {lexemes : List Lexeme} {tree : Expr} :
      Derives levels .expression lexemes tree →
      Derives (levels + 1) .primary (.symbol "(" :: (lexemes ++ [.symbol ")"])) tree

/-- The same for expressions with commas between them, or none. -/
inductive DerivesAll : Nat → List Lexeme → List Expr → Prop
  | none {levels : Nat} : DerivesAll levels [] []
  | one {levels : Nat} {lexemes : List Lexeme} {tree : Expr} :
      Derives levels .expression lexemes tree → DerivesAll levels lexemes [tree]
  | more {levels : Nat} {first others : List Lexeme} {tree second : Expr} {trees : List Expr} :
      Derives levels .expression first tree → DerivesAll levels others (second :: trees) →
      DerivesAll levels (first ++ .symbol "," :: others) (tree :: second :: trees)

end

/-- A source is a rule of this tree: the lexemes of an expression, a semicolon or not, and blanks
anywhere. -/
def IsRule (levels : Nat) (source : String) (tree : Expr) : Prop :=
  ∃ lexemes closing, Lexeme.Lexes source.toList (lexemes ++ closing)
    ∧ (closing = [] ∨ closing = [.symbol ";"]) ∧ Derives levels .expression lexemes tree

/-! ### What the words and operators are for the parser -/

theorem tiers_eq_precedence : Token.tiers = precedence :=
  rfl

theorem literalWord?_of_mem :
    ∀ entry ∈ literals, Token.literalWord? entry.1 = some entry.2 := by
  simp only [literals, List.forall_mem_cons]
  exact ⟨rfl, rfl, rfl, rfl, fun _ isEntry => absurd isEntry List.not_mem_nil⟩

theorem literalWord?_eq_none_iff {name : String} :
    Token.literalWord? name = none ↔ name ∉ literals.map Prod.fst := by
  constructor
  · intro noLiteral isLiteral
    obtain ⟨entry, isEntry, rfl⟩ := List.mem_map.mp isLiteral
    rw [literalWord?_of_mem entry isEntry] at noLiteral
    cases noLiteral
  · intro noLiteral
    unfold Token.literalWord?
    split
    case h_5 => rfl
    all_goals exact absurd (by decide) noLiteral

theorem word_of_mem {name : String} {value : Value} (isLiteral : (name, value) ∈ literals) :
    Token.word name = .literal value := by
  rw [Token.word, literalWord?_of_mem _ isLiteral]

theorem word_of_not_mem {name : String} (noLiteral : name ∉ literals.map Prod.fst) :
    Token.word name = .ident name := by
  rw [Token.word, literalWord?_eq_none_iff.mpr noLiteral]

/-- A word is the literal or the identifier that the parser takes it for. -/
theorem Derives.word {levels : Nat} (name : String) :
    Derives levels .primary [.word name] (Token.word name) := by
  by_cases noLiteral : name ∉ literals.map Prod.fst
  · rw [word_of_not_mem noLiteral]
    exact .ident noLiteral
  · obtain ⟨⟨_, value⟩, isLiteral, rfl⟩ := List.mem_map.mp (Classical.not_not.mp noLiteral)
    rw [word_of_mem isLiteral]
    exact .literal isLiteral

theorem mem_of_unaryOp? {character : Char} {op : UnaryOp}
    (isOp : Token.unaryOp? character = some op) :
    (String.singleton character, op) ∈ unaryOperators := by
  rcases Lexeme.eq_of_unaryOp? isOp with rfl | rfl | rfl
  all_goals
    cases isOp
    decide

theorem exists_unaryOp?_of_mem {symbol : String} {op : UnaryOp}
    (isOp : (symbol, op) ∈ unaryOperators) :
    ∃ character, Token.unaryOp? character = some op ∧ symbol = String.singleton character := by
  simp only [unaryOperators, List.mem_cons, Prod.mk.injEq, List.not_mem_nil, or_false] at isOp
  rcases isOp with ⟨rfl, rfl⟩ | ⟨rfl, rfl⟩ | ⟨rfl, rfl⟩
  · exact ⟨'!', rfl, rfl⟩
  · exact ⟨'-', rfl, rfl⟩
  · exact ⟨'+', rfl, rfl⟩

/-! ### The front of a phrase -/

/-- The lexemes that a phrase begins with. -/
def Phrase.opens : Phrase → Lexeme → Bool
  | .postfixed | .primary => Lexeme.opensPrimary
  | .expression | .conditional | .operation _ | .operand => Lexeme.opensOperand

theorem opensOperand_of_opensPrimary {lexeme : Lexeme} (opens : lexeme.opensPrimary = true) :
    lexeme.opensOperand = true := by
  cases lexeme with
  | symbol spelling =>
      simp only [Lexeme.opensPrimary, Bool.or_eq_true, beq_iff_eq] at opens
      rcases opens with rfl | rfl <;> decide
  | number | string | word => rfl

theorem opensOperand_of_mem :
    ∀ entry ∈ unaryOperators, (Lexeme.symbol entry.1).opensOperand = true := by
  decide

/-- A phrase begins with a lexeme that opens it. -/
theorem Derives.exists_opens :
    ∀ {levels : Nat} {phrase : Phrase} {lexemes : List Lexeme} {tree : Expr},
      Derives levels phrase lexemes tree →
        ∃ first others, lexemes = first :: others ∧ phrase.opens first = true
  | _, _, _, _, .assign _ _ => ⟨_, _, rfl, rfl⟩
  | _, _, _, _, .unassigned derives => derives.exists_opens
  | _, _, _, _, .choose test _ _ => by
      obtain ⟨first, others, rfl, opens⟩ := test.exists_opens
      exact ⟨first, _, rfl, opens⟩
  | _, _, _, _, .unconditional derives => derives.exists_opens
  | _, _, _, _, .operator left _ _ => by
      obtain ⟨first, others, rfl, opens⟩ := left.exists_opens
      exact ⟨first, _, rfl, opens⟩
  | _, _, _, _, .tighter derives => derives.exists_opens
  | _, _, _, _, .operand derives => derives.exists_opens
  | _, _, _, _, .unary isOp _ => ⟨_, _, rfl, opensOperand_of_mem _ isOp⟩
  | _, _, _, _, .postfixed derives => by
      obtain ⟨first, others, rfl, opens⟩ := derives.exists_opens
      exact ⟨first, _, rfl, opensOperand_of_opensPrimary opens⟩
  | _, _, _, _, .member object => by
      obtain ⟨first, others, rfl, opens⟩ := object.exists_opens
      exact ⟨first, _, rfl, opens⟩
  | _, _, _, _, .index object _ => by
      obtain ⟨first, others, rfl, opens⟩ := object.exists_opens
      exact ⟨first, _, rfl, opens⟩
  | _, _, _, _, .call callee _ => by
      obtain ⟨first, others, rfl, opens⟩ := callee.exists_opens
      exact ⟨first, _, rfl, opens⟩
  | _, _, _, _, .primary derives => derives.exists_opens
  | _, _, _, _, .number _ => ⟨_, _, rfl, rfl⟩
  | _, _, _, _, .string _ => ⟨_, _, rfl, rfl⟩
  | _, _, _, _, .literal _ => ⟨_, _, rfl, rfl⟩
  | _, _, _, _, .ident _ => ⟨_, _, rfl, rfl⟩
  | _, _, _, _, .array _ _ => ⟨_, _, rfl, rfl⟩
  | _, _, _, _, .group _ => ⟨_, _, rfl, rfl⟩

theorem Derives.ne_nil {levels : Nat} {phrase : Phrase} {lexemes : List Lexeme} {tree : Expr}
    (derives : Derives levels phrase lexemes tree) : lexemes ≠ [] := by
  obtain ⟨first, others, rfl, _⟩ := derives.exists_opens
  exact List.cons_ne_nil _ _

theorem DerivesAll.ne_nil {levels : Nat} {lexemes : List Lexeme} {trees : List Expr}
    (derives : DerivesAll levels lexemes trees) (isSome : trees ≠ []) : lexemes ≠ [] := by
  cases derives with
  | none => exact absurd rfl isSome
  | one derives => exact derives.ne_nil
  | more => exact List.append_ne_nil_of_right_ne_nil _ (List.cons_ne_nil _ _)

/-- A name and an equals sign at the front. -/
def BeginsAssignment (lexemes : List Lexeme) : Prop :=
  ∃ name others, lexemes = .word name :: .symbol "=" :: others

/-- What follows a phrase does not make an assignment of it, unless it is an equals sign. -/
theorem not_beginsAssignment_append {left right : List Lexeme} {symbol : String}
    (isSome : left ≠ []) (noAssignment : ¬ BeginsAssignment left) (noEquals : symbol ≠ "=") :
    ¬ BeginsAssignment (left ++ .symbol symbol :: right) := by
  rintro ⟨name, others, same⟩
  cases left with
  | nil => exact isSome rfl
  | cons first left =>
      cases left with
      | nil =>
          cases same
          exact noEquals rfl
      | cons second left =>
          cases same
          exact noAssignment ⟨_, _, rfl⟩

/-- A phrase of tiers that are the tightest of all. -/
def Phrase.Tightest : Phrase → Prop
  | .operation tiers => tiers <:+ precedence
  | _ => True

theorem mem_of_tightest {tier : Tier} {tighter : List Tier}
    (tightest : tier :: tighter <:+ precedence) : tier ∈ precedence :=
  tightest.subset List.mem_cons_self

theorem ne_equals_of_mem_precedence :
    ∀ tier ∈ precedence, ∀ entry ∈ tier, entry.1 ≠ "=" := by
  decide

/-- Only an expression may begin with a name and an equals sign. -/
theorem Derives.not_beginsAssignment :
    ∀ {levels : Nat} {phrase : Phrase} {lexemes : List Lexeme} {tree : Expr},
      Derives levels phrase lexemes tree → phrase ≠ .expression → phrase.Tightest →
        ¬ BeginsAssignment lexemes
  | _, _, _, _, .assign _ _, isOther, _ => absurd rfl isOther
  | _, _, _, _, .unassigned _, isOther, _ => absurd rfl isOther
  | _, _, _, _, .choose test _ _, _, _ =>
      not_beginsAssignment_append test.ne_nil
        (test.not_beginsAssignment (fun same => by cases same) (List.suffix_refl _)) (by decide)
  | _, _, _, _, .unconditional derives, _, _ =>
      derives.not_beginsAssignment (fun same => by cases same) (List.suffix_refl _)
  | _, _, _, _, .operator left isEntry _, _, tightest =>
      not_beginsAssignment_append left.ne_nil
        (left.not_beginsAssignment (fun same => by cases same) tightest)
        (ne_equals_of_mem_precedence _ (mem_of_tightest tightest) _ isEntry)
  | _, _, _, _, .tighter derives, _, tightest =>
      derives.not_beginsAssignment (fun same => by cases same)
        ((List.suffix_cons _ _).trans tightest)
  | _, _, _, _, .operand derives, _, _ =>
      derives.not_beginsAssignment (fun same => by cases same) trivial
  | _, _, _, _, .unary _ _, _, _ => by
      rintro ⟨_, _, same⟩
      cases same
  | _, _, _, _, .postfixed derives, _, _ =>
      derives.not_beginsAssignment (fun same => by cases same) trivial
  | _, _, _, _, .member object, _, _ =>
      not_beginsAssignment_append object.ne_nil
        (object.not_beginsAssignment (fun same => by cases same) trivial) (by decide)
  | _, _, _, _, .index object _, _, _ =>
      not_beginsAssignment_append object.ne_nil
        (object.not_beginsAssignment (fun same => by cases same) trivial) (by decide)
  | _, _, _, _, .call callee _, _, _ =>
      not_beginsAssignment_append callee.ne_nil
        (callee.not_beginsAssignment (fun same => by cases same) trivial) (by decide)
  | _, _, _, _, .primary derives, _, _ =>
      derives.not_beginsAssignment (fun same => by cases same) trivial
  | _, _, _, _, .number _, _, _ => by
      rintro ⟨_, _, same⟩
      cases same
  | _, _, _, _, .string _, _, _ => by
      rintro ⟨_, _, same⟩
      cases same
  | _, _, _, _, .literal _, _, _ => by
      rintro ⟨_, _, same⟩
      cases same
  | _, _, _, _, .ident _, _, _ => by
      rintro ⟨_, _, same⟩
      cases same
  | _, _, _, _, .array _ _, _, _ => by
      rintro ⟨_, _, same⟩
      cases same
  | _, _, _, _, .group _, _, _ => by
      rintro ⟨_, _, same⟩
      cases same

/-- A further expression behind a list of some. -/
theorem DerivesAll.snoc {levels : Nat} :
    ∀ {lexemes others : List Lexeme} {trees : List Expr} {last : Expr},
      DerivesAll levels lexemes trees → trees ≠ [] → Derives levels .expression others last →
        DerivesAll levels (lexemes ++ .symbol "," :: others) (trees ++ [last])
  | _, _, _, _, .none, isSome, _ => absurd rfl isSome
  | _, _, _, _, .one derives, _, further => .more derives (.one further)
  | _, _, _, _, .more derives others, _, further => by
      rw [List.append_assoc]
      exact .more derives (others.snoc (List.cons_ne_nil _ _) further)

end AccessRules.Grammar
