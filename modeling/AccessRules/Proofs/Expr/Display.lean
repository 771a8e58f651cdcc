import AccessRules.Expr.Display
import AccessRules.Proofs.Code.Scoping
import AccessRules.Proofs.Decimal.NumberText
import AccessRules.Proofs.Expr.Limits
import AccessRules.Proofs.Expr.SideBySide

/-!
# Reading the text of a tree

The text of a tree is in parentheses wherever a tree could be taken for a part of another one, so it
is read as the tree that it shows, if the literals in it are written as they are read. Each pair of
parentheses is a level more, and so the text can be nested too deep where the source was not.
-/

namespace AccessRules.Expr

open Grammar Lexeme

/-! ### Operands as phrases of any kind -/

theorem operation_of_operand {levels : Nat} {lexemes : List Lexeme} {tree : Expr}
    (derives : Derives levels .operand lexemes tree) :
    ∀ tiers : List Tier, Derives levels (.operation tiers) lexemes tree
  | [] => .operand derives
  | _ :: tighter => .tighter (operation_of_operand derives tighter)

theorem expression_of_operand {levels : Nat} {lexemes : List Lexeme} {tree : Expr}
    (derives : Derives levels .operand lexemes tree) : Derives levels .expression lexemes tree :=
  .unassigned (.unconditional (operation_of_operand derives precedence))

/-- An operation is one of all tiers, the looser ones put before its own. -/
theorem operation_of_tighter {levels : Nat} {tiers : List Tier} {lexemes : List Lexeme}
    {tree : Expr} (derives : Derives levels (.operation tiers) lexemes tree)
    (looser : List Tier) : Derives levels (.operation (looser ++ tiers)) lexemes tree := by
  induction looser with
  | nil => exact derives
  | cons tier looser ih => exact .tighter ih

theorem mem_precedence (op : BinaryOp) : (op.symbol, op) ∈ precedence.flatten := by
  cases op <;> decide

theorem symbol_mem_symbols (op : BinaryOp) : op.symbol ∈ symbols := by
  cases op <;> decide

/-- An operator with an operand on either side. -/
theorem operation_of_operands {levels : Nat} {left right : List Lexeme} {tree₁ tree₂ : Expr}
    (op : BinaryOp) (derives₁ : Derives levels .operand left tree₁)
    (derives₂ : Derives levels .operand right tree₂) :
    Derives levels (.operation precedence) (left ++ .symbol op.symbol :: right)
      (.binary op tree₁ tree₂) := by
  obtain ⟨tier, isTier, isEntry⟩ := List.mem_flatten.mp (mem_precedence op)
  obtain ⟨looser, tighter, split⟩ := List.append_of_mem isTier
  rw [split]
  apply operation_of_tighter
  exact .operator (operation_of_operand derives₁ _) isEntry (operation_of_operand derives₂ _)

theorem mem_unaryOperators (op : UnaryOp) : (op.symbol, op) ∈ unaryOperators := by
  cases op <;> decide

/-! ### The characters of the text -/

theorem toList_display_string (text : String) :
    (display (.literal (.string text))).toList = '"' :: (text.toList ++ ['"']) := by
  change ("\"" ++ text ++ "\"").toList = _
  rw [String.toList_append, String.toList_append]
  rfl

theorem toList_displays_cons (tree second : Expr) (trees : List Expr) :
    (String.intercalate ", " (displays (tree :: second :: trees))).toList
      = tree.display.toList
        ++ ',' :: ' ' :: (String.intercalate ", " (displays (second :: trees))).toList := by
  change (String.intercalate ", " (tree.display :: second.display :: displays trees)).toList = _
  simp only [String.intercalate_cons_cons, String.toList_append, List.append_assoc]
  rfl

theorem toList_display_array (items : List Expr) :
    (display (.array items)).toList
      = '[' :: ((String.intercalate ", " (displays items)).toList ++ [']']) := by
  change ("[" ++ String.intercalate ", " (displays items) ++ "]").toList = _
  rw [String.toList_append, String.toList_append]
  rfl

theorem toList_display_member (object : Expr) (name : String) :
    (display (.member object name)).toList = object.display.toList ++ '.' :: name.toList := by
  change (object.display ++ "." ++ name).toList = _
  rw [String.toList_append, String.toList_append, List.append_assoc]
  rfl

theorem toList_display_index (object key : Expr) :
    (display (.index object key)).toList
      = object.display.toList ++ '[' :: (key.display.toList ++ [']']) := by
  change (object.display ++ "[" ++ key.display ++ "]").toList = _
  simp only [String.toList_append, List.append_assoc]
  rfl

theorem toList_display_call (callee : Expr) (arguments : List Expr) :
    (display (.call callee arguments)).toList
      = callee.display.toList
        ++ '(' :: ((String.intercalate ", " (displays arguments)).toList ++ [')']) := by
  change (callee.display ++ "(" ++ String.intercalate ", " (displays arguments) ++ ")").toList = _
  simp only [String.toList_append, List.append_assoc]
  rfl

theorem toList_display_unary (op : UnaryOp) (operand : Expr) :
    (display (.unary op operand)).toList
      = '(' :: ((op.symbol.toList ++ operand.display.toList) ++ [')']) := by
  change ("(" ++ op.symbol ++ operand.display ++ ")").toList = _
  simp only [String.toList_append, List.append_assoc]
  rfl

theorem toList_display_binary (op : BinaryOp) (left right : Expr) :
    (display (.binary op left right)).toList
      = '(' :: ((left.display.toList ++ ' ' :: (op.symbol.toList ++ ' ' :: right.display.toList))
        ++ [')']) := by
  change ("(" ++ left.display ++ " " ++ op.symbol ++ " " ++ right.display ++ ")").toList = _
  simp only [String.toList_append, List.append_assoc, List.cons_append]
  rfl

theorem toList_display_conditional (test consequent alternate : Expr) :
    (display (.conditional test consequent alternate)).toList
      = '(' :: ((test.display.toList ++ ' ' :: '?' :: ' ' :: (consequent.display.toList
        ++ ' ' :: ':' :: ' ' :: alternate.display.toList)) ++ [')']) := by
  change ("(" ++ test.display ++ " ? " ++ consequent.display ++ " : "
    ++ alternate.display ++ ")").toList = _
  simp only [String.toList_append, List.append_assoc, List.cons_append]
  rfl

theorem toList_display_assign (target : String) (value : Expr) :
    (display (.assign target value)).toList
      = '(' :: ((target.toList ++ ' ' :: '=' :: ' ' :: value.display.toList) ++ [')']) := by
  change ("(" ++ target ++ " = " ++ value.display ++ ")").toList = _
  simp only [String.toList_append, List.append_assoc, List.cons_append]
  rfl

/-- A word stands for what has it as its text. -/
theorem display_word (name : String) : (Token.word name).display = name := by
  unfold Token.word Token.literalWord?
  split
  · rename_i isLiteral
    split at isLiteral <;> cases isLiteral <;> rfl
  · rfl

/-! ### What may follow -/

/-- Neither a word nor a number goes on there. -/
def Separates (rest : List Char) : Prop :=
  Apart Token.isNamePart rest ∧ Apart isNumberPart rest

theorem separates_nil : Separates [] :=
  ⟨.nil, .nil⟩

theorem separates_cons {next : Char} (noName : Token.isNamePart next = false)
    (noNumber : isNumberPart next = false) (rest : List Char) : Separates (next :: rest) :=
  ⟨.cons noName rest, .cons noNumber rest⟩

/-- What may follow the text of a tree. Only behind a number a point makes a difference. -/
def MayFollow (tree : Expr) (rest : List Char) : Prop :=
  Apart Token.isNamePart rest
    ∧ ∀ number, tree = .literal (.number number) → Apart isNumberPart rest

theorem Separates.mayFollow {rest : List Char} (separates : Separates rest) (tree : Expr) :
    MayFollow tree rest :=
  ⟨separates.1, fun _ _ => separates.2⟩

/-! ### The lexemes of the text -/

/-- The text of the tree consists of these lexemes, from which the tree is derived. Every operation
takes two levels at most: that of its parentheses and its own. -/
structure ShownBy (tree : Expr) (lexemes : List Lexeme) : Prop where
  derives : ∀ levels, 2 * tree.operations ≤ levels → Derives levels .postfixed lexemes tree
  reads : ∀ rest, MayFollow tree rest → Reads (tree.display.toList ++ rest) lexemes rest

/-- The same for several trees with commas between them. -/
structure AllShownBy (trees : List Expr) (lexemes : List Lexeme) : Prop where
  derives : ∀ levels, 2 * allOperations trees ≤ levels → DerivesAll levels lexemes trees
  reads : ∀ rest, Separates rest →
    Reads ((String.intercalate ", " (displays trees)).toList ++ rest) lexemes rest

namespace ShownBy

section

variable {tree : Expr} {lexemes : List Lexeme}

theorem operand (shown : ShownBy tree lexemes) {levels : Nat}
    (enough : 2 * tree.operations ≤ levels) : Derives levels .operand lexemes tree :=
  .postfixed (shown.derives levels enough)

theorem expression (shown : ShownBy tree lexemes) {levels : Nat}
    (enough : 2 * tree.operations ≤ levels) : Derives levels .expression lexemes tree :=
  expression_of_operand (shown.operand enough)

theorem ne_nil (shown : ShownBy tree lexemes) : lexemes ≠ [] :=
  (shown.derives _ (Nat.le_refl _)).ne_nil

/-- The text is read where a character follows that separates it from the rest. -/
theorem readsBefore (shown : ShownBy tree lexemes) (next : Char)
    (noName : Token.isNamePart next = false) (noNumber : isNumberPart next = false)
    (rest : List Char) : Reads (tree.display.toList ++ next :: rest) lexemes (next :: rest) :=
  shown.reads _ ((separates_cons noName noNumber rest).mayFollow tree)

end

/-! #### Literals and names -/

theorem number {number : Float} {literal : Decimal.Literal}
    (scanned : Decimal.scanLiteral? (Value.numberLayout.render number).toList = some (literal, []))
    (same : literal.toFloat = number) :
    ShownBy (.literal (.number number)) [.number literal] where
  derives levels _ := by
    rw [← same]
    exact .primary (.number literal)
  reads rest follows := by
    obtain ⟨front, spells, split⟩ := scanLiteral?_spells scanned
    rw [List.append_nil] at split
    rw [split] at spells
    exact .next (longest_number spells (follows.2 number rfl)) (.nil rest)

theorem string {text : String} (noQuote : '"' ∉ text.toList) (noEscape : '\\' ∉ text.toList) :
    ShownBy (.literal (.string text)) [.string text] where
  derives levels _ := .primary (.string text)
  reads rest _ := by
    have spells : Spells ('"' :: (text.toList ++ ['"'])) (.string (String.ofList text.toList)) :=
      .string rfl (spellsContent_plain noQuote noEscape)
    rw [String.ofList_toList] at spells
    rw [toList_display_string]
    exact .next (longest_string spells rest) (.nil rest)

theorem word {name : String} (spells : Spells name.toList (.word name)) :
    ShownBy (Token.word name) [.word name] where
  derives levels _ := .primary (.word name)
  reads rest follows := by
    rw [display_word]
    exact .next (longest_word spells follows.1) (.nil rest)

/-! #### Properties and calls -/

theorem member {object : Expr} {lexemes : List Lexeme} (shown : ShownBy object lexemes)
    (noNumber : ∀ number, object ≠ .literal (.number number)) {name : String}
    (spells : Spells name.toList (.word name)) :
    ShownBy (.member object name) (lexemes ++ [.symbol ".", .word name]) where
  derives levels enough := by
    rw [operations] at enough
    exact .member (shown.derives levels (by omega))
  reads rest follows := by
    have isName := longest_word spells follows.1
    have isPoint : Longest ('.' :: (name.toList ++ rest)) (.symbol ".") (name.toList ++ rest) :=
      longest_point_of_word ((skipBlanks_of_longest isName).symm ▸ isName)
    rw [toList_display_member, List.append_assoc, List.cons_append]
    have object := shown.reads ('.' :: (name.toList ++ rest))
      ⟨.cons rfl _, fun number same => absurd same (noNumber number)⟩
    exact object.append (.next isPoint (.next isName (.nil rest)))

theorem index {object key : Expr} {lexemes others : List Lexeme} (shown : ShownBy object lexemes)
    (shownKey : ShownBy key others) :
    ShownBy (.index object key) (lexemes ++ .symbol "[" :: (others ++ [.symbol "]"])) where
  derives levels enough := by
    rw [operations] at enough
    obtain ⟨fewer, rfl⟩ : ∃ fewer, levels = fewer + 1 := ⟨levels - 1, by omega⟩
    exact .index (shown.derives _ (by omega)) (shownKey.expression (by omega))
  reads rest _ := by
    simp only [toList_display_index, List.append_assoc, List.cons_append, List.nil_append]
    have opening := longest_of_isAlone (isAlone_of_mem "[" (by simp))
      (key.display.toList ++ ']' :: rest)
    have closing := longest_of_isAlone (isAlone_of_mem "]" (by simp)) rest
    exact (shown.readsBefore '[' rfl rfl _).append (.next opening
      ((shownKey.readsBefore ']' rfl rfl rest).append (.next closing (.nil rest))))

theorem call {callee : Expr} {arguments : List Expr} {lexemes others : List Lexeme}
    (shown : ShownBy callee lexemes) (shownArguments : AllShownBy arguments others) :
    ShownBy (.call callee arguments) (lexemes ++ .symbol "(" :: (others ++ [.symbol ")"])) where
  derives levels enough := by
    rw [operations] at enough
    obtain ⟨fewer, rfl⟩ : ∃ fewer, levels = fewer + 1 := ⟨levels - 1, by omega⟩
    exact .call (shown.derives _ (by omega)) (shownArguments.derives fewer (by omega))
  reads rest _ := by
    simp only [toList_display_call, List.append_assoc, List.cons_append, List.nil_append]
    have opening := longest_of_isAlone (isAlone_of_mem "(" (by simp))
      ((String.intercalate ", " (displays arguments)).toList ++ ')' :: rest)
    have closing := longest_of_isAlone (isAlone_of_mem ")" (by simp)) rest
    have inside := shownArguments.reads (')' :: rest) (separates_cons rfl rfl rest)
    exact (shown.readsBefore '(' rfl rfl _).append (.next opening
      (inside.append (.next closing (.nil rest))))

theorem array {items : List Expr} {lexemes : List Lexeme} (shown : AllShownBy items lexemes) :
    ShownBy (.array items) (.symbol "[" :: (lexemes ++ [.symbol "]"])) where
  derives levels enough := by
    rw [operations] at enough
    obtain ⟨fewer, rfl⟩ : ∃ fewer, levels = fewer + 1 := ⟨levels - 1, by omega⟩
    exact .primary (.array (shown.derives fewer (by omega)) (.inl rfl))
  reads rest _ := by
    simp only [toList_display_array, List.append_assoc, List.cons_append, List.nil_append]
    have opening := longest_of_isAlone (isAlone_of_mem "[" (by simp))
      ((String.intercalate ", " (displays items)).toList ++ ']' :: rest)
    have closing := longest_of_isAlone (isAlone_of_mem "]" (by simp)) rest
    have inside := shown.reads (']' :: rest) (separates_cons rfl rfl rest)
    exact .next opening (inside.append (.next closing (.nil rest)))

/-! #### What stands in parentheses -/

theorem enclosed {tree : Expr} {lexemes : List Lexeme} {inside : List Char}
    (text : tree.display.toList = '(' :: (inside ++ [')']))
    (derives : ∀ levels, 2 * tree.operations ≤ levels + 1 →
      Derives levels .expression lexemes tree)
    (isOperation : 0 < tree.operations)
    (reads : ∀ rest, Reads (inside ++ ')' :: rest) lexemes (')' :: rest)) :
    ShownBy tree (.symbol "(" :: (lexemes ++ [.symbol ")"])) where
  derives levels enough := by
    obtain ⟨fewer, rfl⟩ : ∃ fewer, levels = fewer + 1 := ⟨levels - 1, by omega⟩
    exact .primary (.group (derives fewer enough))
  reads rest _ := by
    simp only [text, List.append_assoc, List.cons_append, List.nil_append]
    have opening := longest_of_isAlone (isAlone_of_mem "(" (by simp)) (inside ++ ')' :: rest)
    have closing := longest_of_isAlone (isAlone_of_mem ")" (by simp)) rest
    exact .next opening ((reads rest).append (.next closing (.nil rest)))

theorem unary (op : UnaryOp) {operand : Expr} {lexemes : List Lexeme}
    (shown : ShownBy operand lexemes) :
    ShownBy (.unary op operand) (.symbol "(" :: ((.symbol op.symbol :: lexemes) ++ [.symbol ")"])) := by
  obtain ⟨character, isOp, isSymbol⟩ := exists_unaryOp?_of_mem (mem_unaryOperators op)
  apply enclosed (toList_display_unary op operand)
  · intro levels enough
    rw [operations] at enough
    obtain ⟨fewer, rfl⟩ : ∃ fewer, levels = fewer + 1 := ⟨levels - 1, by omega⟩
    exact expression_of_operand (.unary (mem_unaryOperators op) (shown.operand (by omega)))
  · exact Nat.succ_pos _
  · intro rest
    have reads := shown.readsBefore ')' rfl rfl rest
    obtain ⟨first, others, rfl, opens⟩ := (shown.derives _ (Nat.le_refl _)).exists_opens
    cases reads with
    | cons stands reads =>
        have operator := longest_unary isOp stands (opensOperand_of_opensPrimary opens)
        rw [isSymbol, String.toList_singleton, List.append_assoc]
        exact .next operator (.cons stands reads)

theorem binary (op : BinaryOp) {left right : Expr} {lexemes others : List Lexeme}
    (shown : ShownBy left lexemes) (shownRight : ShownBy right others) :
    ShownBy (.binary op left right)
      (.symbol "(" :: ((lexemes ++ .symbol op.symbol :: others) ++ [.symbol ")"])) := by
  apply enclosed (toList_display_binary op left right)
  · intro levels enough
    rw [operations] at enough
    exact .unassigned (.unconditional
      (operation_of_operands op (shown.operand (by omega)) (shownRight.operand (by omega))))
  · exact Nat.succ_pos _
  · intro rest
    simp only [List.append_assoc, List.cons_append]
    have operator := longest_symbol_blank (symbol_mem_symbols op)
      (right.display.toList ++ ')' :: rest)
    have behind := (shownRight.readsBefore ')' rfl rfl rest).blank shownRight.ne_nil
    exact (shown.readsBefore ' ' rfl rfl _).append
      (Reads.blank (List.cons_ne_nil _ _) (.next operator behind))

theorem conditional {test consequent alternate : Expr} {lexemes lexemes₁ lexemes₂ : List Lexeme}
    (shown : ShownBy test lexemes) (shown₁ : ShownBy consequent lexemes₁)
    (shown₂ : ShownBy alternate lexemes₂) :
    ShownBy (.conditional test consequent alternate)
      (.symbol "(" :: ((lexemes ++ .symbol "?" :: (lexemes₁ ++ .symbol ":" :: lexemes₂))
        ++ [.symbol ")"])) := by
  apply enclosed (toList_display_conditional test consequent alternate)
  · intro levels enough
    rw [operations] at enough
    obtain ⟨fewer, rfl⟩ : ∃ fewer, levels = fewer + 1 := ⟨levels - 1, by omega⟩
    exact .unassigned (.choose (operation_of_operand (shown.operand (by omega)) _)
      (shown₁.expression (by omega)) (shown₂.expression (by omega)))
  · exact Nat.succ_pos _
  · intro rest
    simp only [List.append_assoc, List.cons_append]
    have colon := longest_of_isAlone (isAlone_of_mem ":" (by simp))
      (' ' :: (alternate.display.toList ++ ')' :: rest))
    have behindColon := (shown₂.readsBefore ')' rfl rfl rest).blank shown₂.ne_nil
    have outcomes := (shown₁.readsBefore ' ' rfl rfl _).append
      (Reads.blank (List.cons_ne_nil _ _) (.next colon behindColon))
    have mark := longest_of_isAlone (isAlone_of_mem "?" (by simp))
      (' ' :: (consequent.display.toList
        ++ ' ' :: ':' :: ' ' :: (alternate.display.toList ++ ')' :: rest)))
    have behindMark := outcomes.blank (List.append_ne_nil_of_left_ne_nil shown₁.ne_nil _)
    exact (shown.readsBefore ' ' rfl rfl _).append
      (Reads.blank (List.cons_ne_nil _ _) (.next mark behindMark))

theorem assign {target : String} (spells : Spells target.toList (.word target))
    (noLiteral : target ∉ literals.map Prod.fst) {value : Expr} {lexemes : List Lexeme}
    (shown : ShownBy value lexemes) :
    ShownBy (.assign target value)
      (.symbol "(" :: ((.word target :: .symbol "=" :: lexemes) ++ [.symbol ")"])) := by
  apply enclosed (toList_display_assign target value)
  · intro levels enough
    rw [operations] at enough
    obtain ⟨fewer, rfl⟩ : ∃ fewer, levels = fewer + 1 := ⟨levels - 1, by omega⟩
    exact .assign noLiteral (shown.expression (by omega))
  · exact Nat.succ_pos _
  · intro rest
    simp only [List.append_assoc, List.cons_append]
    have equals := longest_symbol_blank (show "=" ∈ symbols by decide)
      (value.display.toList ++ ')' :: rest)
    have behind := (shown.readsBefore ')' rfl rfl rest).blank shown.ne_nil
    exact .next (longest_word spells (.cons rfl _))
      (Reads.blank (List.cons_ne_nil _ _) (.next equals behind))

end ShownBy

namespace AllShownBy

theorem nil : AllShownBy [] [] where
  derives _ _ := .none
  reads rest _ := .nil rest

theorem one {tree : Expr} {lexemes : List Lexeme} (shown : ShownBy tree lexemes) :
    AllShownBy [tree] lexemes where
  derives levels enough := .one (shown.expression enough)
  reads rest separates := by
    rw [displays, displays, String.intercalate_singleton]
    exact shown.reads rest (separates.mayFollow tree)

theorem more {tree second : Expr} {trees : List Expr} {lexemes others : List Lexeme}
    (shown : ShownBy tree lexemes) (shownOthers : AllShownBy (second :: trees) others) :
    AllShownBy (tree :: second :: trees) (lexemes ++ .symbol "," :: others) where
  derives levels enough := by
    rw [allOperations] at enough
    exact .more (shown.expression (by omega)) (shownOthers.derives levels (by omega))
  reads rest separates := by
    have comma := longest_of_isAlone (isAlone_of_mem "," (by simp))
      (' ' :: ((String.intercalate ", " (displays (second :: trees))).toList ++ rest))
    have isSome : others ≠ [] :=
      (shownOthers.derives _ (Nat.le_refl _)).ne_nil (List.cons_ne_nil _ _)
    have behind := (shownOthers.reads rest separates).blank isSome
    rw [toList_displays_cons, List.append_assoc]
    exact (shown.readsBefore ',' rfl rfl _).append (.next comma behind)

end AllShownBy

/-! ### Every tree that was read is shown -/

/-- The literals of these expressions are written as they are read, and no property is read of a
number. -/
structure Legible (parts : List Expr) : Prop where
  numbers : ∀ number, .literal (.number number) ∈ parts →
    Decimal.ofText? (Value.numberLayout.render number).toList = some number
  strings : ∀ text, .literal (.string text) ∈ parts → '"' ∉ text.toList ∧ '\\' ∉ text.toList
  objects : ∀ number name, .member (.literal (.number number)) name ∉ parts

theorem Legible.mono {parts others : List Expr} (legible : Legible parts)
    (subset : others ⊆ parts) : Legible others where
  numbers number among := legible.numbers number (subset among)
  strings text among := legible.strings text (subset among)
  objects number name among := legible.objects number name (subset among)

theorem legible_ident (name : String) : Legible (parts (.ident name)) := by
  constructor <;> simp [parts]

theorem Legible.callee {callee : Expr} {arguments : List Expr}
    (legible : Legible (parts (.call callee arguments))) : Legible callee.parts := by
  have inside := legible.mono (List.subset_cons_self _ _)
  have ofCallee := inside.mono (List.subset_append_left _ _)
  split at ofCallee
  · -- The name of the cross reference function is no part of the call.
    rename_i isCrossReference
    cases callee with
    | ident name => exact legible_ident name
    | _ => cases isCrossReference
  · exact ofCallee

mutual

theorem exists_shownBy :
    ∀ {levels : Nat} {phrase : Phrase} {lexemes : List Lexeme} {tree : Expr},
      Derives levels phrase lexemes tree → (∀ lexeme ∈ lexemes, ∃ text, Spells text lexeme) →
        Legible tree.parts → ∃ lexemes', ShownBy tree lexemes'
  | _, _, _, _, .assign noLiteral derives, spelled, legible => by
      obtain ⟨⟨text, spells⟩, spelled⟩ := List.forall_mem_cons.mp spelled
      obtain ⟨_, spelled⟩ := List.forall_mem_cons.mp spelled
      obtain ⟨_, shown⟩ := exists_shownBy derives spelled (legible.mono (List.subset_cons_self _ _))
      exact ⟨_, .assign (spells_of_word spells) noLiteral shown⟩
  | _, _, _, _, .unassigned derives, spelled, legible => exists_shownBy derives spelled legible
  | _, _, _, _, .choose test consequent alternate, spelled, legible => by
      obtain ⟨spelledTest, spelled⟩ := List.forall_mem_append.mp spelled
      obtain ⟨_, spelled⟩ := List.forall_mem_cons.mp spelled
      obtain ⟨spelledConsequent, spelled⟩ := List.forall_mem_append.mp spelled
      obtain ⟨_, spelledAlternate⟩ := List.forall_mem_cons.mp spelled
      have inside := legible.mono (List.subset_cons_self _ _)
      have outcomes := inside.mono (List.subset_append_right _ _)
      obtain ⟨_, shown⟩ :=
        exists_shownBy test spelledTest (inside.mono (List.subset_append_left _ _))
      obtain ⟨_, shown₁⟩ :=
        exists_shownBy consequent spelledConsequent (outcomes.mono (List.subset_append_left _ _))
      obtain ⟨_, shown₂⟩ :=
        exists_shownBy alternate spelledAlternate (outcomes.mono (List.subset_append_right _ _))
      exact ⟨_, .conditional shown shown₁ shown₂⟩
  | _, _, _, _, .unconditional derives, spelled, legible => exists_shownBy derives spelled legible
  | _, _, _, _, .operator left _ right, spelled, legible => by
      obtain ⟨spelledLeft, spelled⟩ := List.forall_mem_append.mp spelled
      obtain ⟨_, spelledRight⟩ := List.forall_mem_cons.mp spelled
      have inside := legible.mono (List.subset_cons_self _ _)
      obtain ⟨_, shown⟩ :=
        exists_shownBy left spelledLeft (inside.mono (List.subset_append_left _ _))
      obtain ⟨_, shownRight⟩ :=
        exists_shownBy right spelledRight (inside.mono (List.subset_append_right _ _))
      exact ⟨_, .binary _ shown shownRight⟩
  | _, _, _, _, .tighter derives, spelled, legible => exists_shownBy derives spelled legible
  | _, _, _, _, .operand derives, spelled, legible => exists_shownBy derives spelled legible
  | _, _, _, _, .unary _ derives, spelled, legible => by
      obtain ⟨_, spelled⟩ := List.forall_mem_cons.mp spelled
      obtain ⟨_, shown⟩ := exists_shownBy derives spelled (legible.mono (List.subset_cons_self _ _))
      exact ⟨_, .unary _ shown⟩
  | _, _, _, _, .postfixed derives, spelled, legible => exists_shownBy derives spelled legible
  | _, _, _, _, @Derives.member _ _ _ name object, spelled, legible => by
      obtain ⟨spelledObject, spelled⟩ := List.forall_mem_append.mp spelled
      obtain ⟨text, spells⟩ := spelled (.word name) (by simp)
      obtain ⟨_, shown⟩ :=
        exists_shownBy object spelledObject (legible.mono (List.subset_cons_self _ _))
      refine ⟨_, .member shown ?_ (spells_of_word spells)⟩
      rintro number rfl
      exact legible.objects number name List.mem_cons_self
  | _, _, _, _, .index object key, spelled, legible => by
      obtain ⟨spelledObject, spelled⟩ := List.forall_mem_append.mp spelled
      obtain ⟨_, spelled⟩ := List.forall_mem_cons.mp spelled
      obtain ⟨spelledKey, _⟩ := List.forall_mem_append.mp spelled
      have inside := legible.mono (List.subset_cons_self _ _)
      obtain ⟨_, shown⟩ :=
        exists_shownBy object spelledObject (inside.mono (List.subset_append_left _ _))
      obtain ⟨_, shownKey⟩ :=
        exists_shownBy key spelledKey (inside.mono (List.subset_append_right _ _))
      exact ⟨_, .index shown shownKey⟩
  | _, _, _, _, .call callee arguments, spelled, legible => by
      obtain ⟨spelledCallee, spelled⟩ := List.forall_mem_append.mp spelled
      obtain ⟨_, spelled⟩ := List.forall_mem_cons.mp spelled
      obtain ⟨spelledArguments, _⟩ := List.forall_mem_append.mp spelled
      have inside := legible.mono (List.subset_cons_self _ _)
      obtain ⟨_, shown⟩ := exists_shownBy callee spelledCallee legible.callee
      obtain ⟨_, shownArguments⟩ :=
        exists_allShownBy arguments spelledArguments (inside.mono (List.subset_append_right _ _))
      exact ⟨_, .call shown shownArguments⟩
  | _, _, _, _, .primary derives, spelled, legible => exists_shownBy derives spelled legible
  | _, _, _, _, .number numeral, _, legible => by
      have noSign := Decimal.not_hasSign_render numeral.unsigned_toFloat
      obtain ⟨literal, scanned, same⟩ := Decimal.exists_literal_of_ofText? noSign
        (legible.numbers _ List.mem_cons_self)
      exact ⟨_, .number scanned same⟩
  | _, _, _, _, .string content, _, legible => by
      obtain ⟨noQuote, noEscape⟩ := legible.strings content List.mem_cons_self
      exact ⟨_, .string noQuote noEscape⟩
  | _, _, _, _, .literal isLiteral, spelled, _ => by
      obtain ⟨text, spells⟩ := spelled _ List.mem_cons_self
      rw [← word_of_mem isLiteral]
      exact ⟨_, .word (spells_of_word spells)⟩
  | _, _, _, _, .ident noLiteral, spelled, _ => by
      obtain ⟨text, spells⟩ := spelled _ List.mem_cons_self
      rw [← word_of_not_mem noLiteral]
      exact ⟨_, .word (spells_of_word spells)⟩
  | _, _, _, _, .array items _, spelled, legible => by
      obtain ⟨_, spelled⟩ := List.forall_mem_cons.mp spelled
      obtain ⟨spelledItems, _⟩ := List.forall_mem_append.mp spelled
      obtain ⟨_, shown⟩ :=
        exists_allShownBy items spelledItems (legible.mono (List.subset_cons_self _ _))
      exact ⟨_, .array shown⟩
  | _, _, _, _, .group derives, spelled, legible => by
      obtain ⟨_, spelled⟩ := List.forall_mem_cons.mp spelled
      exact exists_shownBy derives (List.forall_mem_append.mp spelled).1 legible

theorem exists_allShownBy {levels : Nat} :
    ∀ {lexemes : List Lexeme} {trees : List Expr}, DerivesAll levels lexemes trees →
      (∀ lexeme ∈ lexemes, ∃ text, Spells text lexeme) → Legible (allParts trees) →
        ∃ lexemes', AllShownBy trees lexemes'
  | _, _, .none, _, _ => ⟨_, .nil⟩
  | _, _, .one derives, spelled, legible => by
      obtain ⟨_, shown⟩ :=
        exists_shownBy derives spelled (legible.mono (List.subset_append_left _ _))
      exact ⟨_, .one shown⟩
  | _, _, .more first others, spelled, legible => by
      obtain ⟨spelledFirst, spelled⟩ := List.forall_mem_append.mp spelled
      obtain ⟨_, spelledOthers⟩ := List.forall_mem_cons.mp spelled
      obtain ⟨_, shown⟩ :=
        exists_shownBy first spelledFirst (legible.mono (List.subset_append_left _ _))
      obtain ⟨_, shownOthers⟩ :=
        exists_allShownBy others spelledOthers (legible.mono (List.subset_append_right _ _))
      exact ⟨_, .more shown shownOthers⟩

end

/-- The text of a tree that was read is a rule of that tree. -/
theorem isRule_display {source : String} {tree : Expr} (accepts : parse source = .ok tree)
    (legible : Legible tree.parts) : IsRule (2 * tree.operations) tree.display tree := by
  obtain ⟨⟨lexemes, closing, ⟨rest, reads, _⟩, _, derives⟩, _⟩ := parseWithin_eq_ok_iff.mp accepts
  have spelled := (List.forall_mem_append.mp reads.exists_spells).1
  obtain ⟨shownLexemes, shown⟩ := exists_shownBy derives spelled legible
  have isRead := shown.reads [] (separates_nil.mayFollow tree)
  rw [List.append_nil] at isRead
  refine ⟨shownLexemes, [], ⟨[], ?_, rfl⟩, .inl rfl, shown.expression (Nat.le_refl _)⟩
  rw [List.append_nil]
  exact isRead

/-- The text of a tree that was read is read as that tree, unless it is nested too deep: if its
numbers are finite, and so are read back from their text, if no quote and no escape stands in its
strings, and no property is read of a number. -/
theorem parse_display {source : String} {tree : Expr} (accepts : parse source = .ok tree)
    (finite : ∀ number, .literal (.number number) ∈ tree.parts → number.isFinite = true)
    (plain : ∀ text, .literal (.string text) ∈ tree.parts →
      '"' ∉ text.toList ∧ '\\' ∉ text.toList)
    (apart : ∀ number name, .member (.literal (.number number)) name ∉ tree.parts)
    (readsBack : ∀ number, .literal (.number number) ∈ tree.parts → number.isFinite = true →
      Decimal.ofText? (Value.numberLayout.render number).toList = some number) :
    ∃ levels, Takes levels tree.display tree
      ∧ (levels ≤ 64 → parse tree.display = .ok tree)
      ∧ (64 < levels → ∃ error, parse tree.display = .error error
        ∧ error.detail = "Expression nested more than 64 levels deep") := by
  have legible : Legible tree.parts :=
    ⟨fun number among => readsBack number among (finite number among), plain, apart⟩
  have operations := (parseWithin_eq_ok_iff.mp accepts).2
  obtain ⟨levels, isRule, least⟩ := exists_takes (isRule_display accepts legible)
  refine ⟨levels, ⟨isRule, least⟩, ?accepted, ?refused⟩
  case accepted =>
    intro nesting
    exact parseWithin_eq_ok isRule nesting operations
  case refused =>
    intro tooDeep
    cases parsed : parse tree.display with
    | ok tree' =>
        obtain ⟨isRule', _⟩ := parseWithin_eq_ok_iff.mp parsed
        cases eq_of_isRule isRule isRule'
        exact absurd (least 64 isRule') (Nat.not_le_of_lt tooDeep)
    | error error =>
        exact ⟨error, rfl, detail_of_nesting parsed (nesting_of_parseWithin isRule operations parsed)⟩

/-- The numbers `0.5` and `1e3` as they are written there. -/
def half : Decimal.Literal := ⟨['0'], ['5'], 0⟩

def thousand : Decimal.Literal := ⟨['1'], [], 3⟩

/-- An assignment of a conditional, with two numbers, a string and operators in it. -/
def shareTree : Expr :=
  .assign "share" (.conditional
    (.binary .greater (.ident "used") (.literal (.number half.toFloat)))
    (.literal (.string "most"))
    (.unary .not (.index (.ident "shares") (.literal (.number thousand.toFloat)))))

theorem parse_share : parse "share = used > 0.5 ? 'most' : !shares[1e3]" = .ok shareTree := by
  have quoted (rest : List Char) : Longest ("'most'".toList ++ rest) (.string "most") rest :=
    longest_string (.string rfl (@spellsContent_plain _ "most".toList (by decide) (by decide))) rest
  have reads : Reads "share = used > 0.5 ? 'most' : !shares[1e3]".toList
      [.word "share", .symbol "=", .word "used", .symbol ">", .number half, .symbol "?",
        .string "most", .symbol ":", .symbol "!", .word "shares", .symbol "[", .number thousand,
        .symbol "]"] [] := by
    rw [show "share = used > 0.5 ? 'most' : !shares[1e3]".toList = ['s', 'h', 'a', 'r', 'e', ' ',
      '=', ' ', 'u', 's', 'e', 'd', ' ', '>', ' ', '0', '.', '5', ' ', '?', ' ', '\'', 'm', 'o',
      's', 't', '\'', ' ', ':', ' ', '!', 's', 'h', 'a', 'r', 'e', 's', '[', '1', 'e', '3', ']']
      from rfl]
    iterate 6 refine .cons (longest_iff.mpr rfl) ?_
    refine .cons (quoted _) ?_
    iterate 6 refine .cons (longest_iff.mpr rfl) ?_
    exact .nil _
  have test := operation_of_operands .greater (.postfixed (.primary (.word "used")))
    (.postfixed (.primary (@Derives.number 3 half)))
  have most : Derives 2 .expression [.string "most"] (.literal (.string "most")) :=
    expression_of_operand (.postfixed (.primary (.string "most")))
  have key : Derives 0 .expression [.number thousand] _ :=
    expression_of_operand (.postfixed (.primary (.number thousand)))
  have shares := expression_of_operand (.unary (mem_unaryOperators .not)
    (.postfixed (.index (.primary (.word "shares")) key)))
  have derives : Derives 4 .expression _ shareTree :=
    .assign (by decide) (.unassigned (.choose test most shares))
  have isRule : IsRule 4 "share = used > 0.5 ? 'most' : !shares[1e3]" shareTree :=
    ⟨_, [], ⟨[], reads, rfl⟩, .inl rfl, derives⟩
  exact parseWithin_eq_ok isRule (by decide) (by decide)

/-- The text has other quotes than the source, another form of a number and all parentheses. -/
theorem shareTree_readsBack :
    shareTree.display = "(share = ((used > 0.5) ? \"most\" : (!shares[1000])))"
      ∧ ∃ levels, Takes levels shareTree.display shareTree
        ∧ (levels ≤ 64 → parse shareTree.display = .ok shareTree)
        ∧ (64 < levels → ∃ error, parse shareTree.display = .error error
          ∧ error.detail = "Expression nested more than 64 levels deep") := by
  have numbers {number : Float} (among : .literal (.number number) ∈ shareTree.parts) :
      number = half.toFloat ∨ number = thousand.toFloat := by
    simpa [shareTree, parts] using among
  refine ⟨by decide, parse_display parse_share ?finite ?plain ?apart ?readsBack⟩
  case finite =>
    intro number among
    rcases numbers among with rfl | rfl <;> decide
  case plain =>
    intro text among
    have same : text = "most" := by simpa [shareTree, parts] using among
    subst same
    decide
  case apart =>
    intro number name among
    simp [shareTree, parts] at among
  case readsBack =>
    intro number among _
    rcases numbers among with rfl | rfl <;> decide +kernel

end AccessRules.Expr
