import AccessRules.Proofs.Expr.Soundness

/-!
# What the parser does not refuse

A phrase is read in full wherever nothing behind it makes it longer, and only a limit keeps the
parser from it. What stands behind a phrase decides where the repeated steps end, so a part that
groups from the left is followed together with the steps that are still to come.
-/

namespace AccessRules.Expr.Parser

open Grammar Lexeme

/-- A result is the expected one, or it is a limit that stops the reader. No limit stops it at what
fits. -/
def Attains {α : Type} (fits : Prop) (result expected : Except Stop α) : Prop :=
  result = expected ∨ ¬ fits ∧ ∃ stop, result = .error stop ∧ stop.fault ≠ .unexpected

namespace Attains

variable {α β : Type} {fits part : Prop}

theorem of_eq {result expected : Except Stop α} (same : result = expected) :
    Attains fits result expected :=
  .inl same

theorem trans {first second third : Except Stop α} (attains : Attains part first second)
    (isPart : fits → part) (next : Attains fits second third) : Attains fits first third := by
  rcases attains with rfl | ⟨noFit, stopped⟩
  · exact next
  · exact .inr ⟨fun isFit => noFit (isPart isFit), stopped⟩

theorem bind {first : Except Stop α} {value : α} {next : α → Except Stop β}
    {expected : Except Stop β} (attains : Attains part first (.ok value)) (isPart : fits → part)
    (goesOn : Attains fits (next value) expected) : Attains fits (first >>= next) expected := by
  rcases attains with rfl | ⟨noFit, stop, rfl, isLimit⟩
  · exact goesOn
  · exact .inr ⟨fun isFit => noFit (isPart isFit), stop, rfl, isLimit⟩

theorem count {limits : Limits} {more : Nat} {cursor : Cursor} :
    Attains (cursor.operations + more ≤ limits.operations) (Parser.count limits more cursor)
      (.ok { cursor with operations := cursor.operations + more }) := by
  unfold Parser.count
  simp only
  split
  · exact .inl rfl
  · rename_i noFit
    exact .inr ⟨noFit, _, rfl, fun same => by cases same⟩

/-- The steps go on behind a step that passes over something. -/
theorem step {step : α → Cursor → Except Stop (Option (α × Cursor))} {state state' : α}
    {cursor cursor' : Cursor} {expected : Except Stop (α × Cursor)}
    (attains : Attains part (step state cursor) (.ok (some (state', cursor'))))
    (isPart : fits → part) (shorter : cursor'.rest.length < cursor.rest.length)
    (goesOn : Attains fits (repeatSteps step state' cursor') expected) :
    Attains fits (repeatSteps step state cursor) expected := by
  rw [repeatSteps]
  rcases attains with stepped | ⟨noFit, stop, stopped, isLimit⟩
  · simp only [stepped, shorter, if_true]
    exact goesOn
  · simp only [stopped]
    exact .inr ⟨fun isFit => noFit (isPart isFit), stop, rfl, isLimit⟩

end Attains

theorem repeatSteps_eq_of_none {α : Type} {step : α → Cursor → Except Stop (Option (α × Cursor))}
    {state : α} {cursor : Cursor} (stepped : step state cursor = .ok none) :
    repeatSteps step state cursor = .ok (state, cursor) := by
  rw [repeatSteps, stepped]

/-- The symbols that properties and calls begin with. -/
def postfixSymbols : List String :=
  [".", "[", "("]

/-- The symbols of the operators of some tiers. -/
def operatorSymbols (tiers : List Tier) : List String :=
  tiers.flatMap (·.map Prod.fst)

/-- The symbols that make a phrase longer where they stand behind it. -/
def continues : Phrase → List String
  | .primary => []
  | .postfixed | .operand => postfixSymbols
  | .operation tiers => operatorSymbols tiers ++ postfixSymbols
  | .conditional | .expression => "=" :: "?" :: (operatorSymbols precedence ++ postfixSymbols)

/-- A reader does not refuse a phrase of this kind if it fits, and nothing that follows belongs to
it. -/
def Complete (limits : Limits) (left : Nat) (phrase : Phrase) (reader : Reader Expr) : Prop :=
  ∀ ⦃levels lexemes tree⦄, Derives levels phrase lexemes tree →
    ∀ ⦃text rest⦄ (counted : Nat), Reads text lexemes rest → Ends (continues phrase) rest →
      Attains (levels ≤ left ∧ counted + tree.operations ≤ limits.operations)
        (reader ⟨text, counted⟩) (.ok (tree, ⟨rest, counted + tree.operations⟩))

structure Level.Complete (limits : Limits) (left : Nat) (level : Level) : Prop where
  expression : Parser.Complete limits left .expression level.expression
  operand : Parser.Complete limits left .operand level.operand

/-- The next level reads with one level less. It is missing only if none is left. -/
inductive InnerComplete (limits : Limits) : Nat → Option Level → Prop
  | none : InnerComplete limits 0 none
  | some {fewer : Nat} {level : Level} : level.Complete limits fewer →
      InnerComplete limits (fewer + 1) (some level)

/-- A level is opened if one is left. -/
theorem Attains.enter {α : Type} {limits : Limits} {left levels : Nat} {inner : Option Level}
    (below : InnerComplete limits left inner) {fits : Prop} (needs : fits → levels + 1 ≤ left)
    {cursor : Cursor} {next : Level → Except Stop α} {expected : Except Stop α}
    (inside : ∀ fewer level, left = fewer + 1 → level.Complete limits fewer →
      Attains fits (next level) expected) :
    Attains fits (Parser.enter inner cursor >>= next) expected := by
  cases below with
  | none => exact .inr ⟨fun isFit => Nat.not_succ_le_zero _ (needs isFit), _, rfl, nofun⟩
  | some complete => exact inside _ _ rfl complete

section

variable {limits : Limits} {left : Nat} {inner : Option Level}

theorem eq_of_symbol {text rest : List Char} {symbol : String} {character : Char}
    (spelled : symbol.toList = [character]) (stands : Longest text (.symbol symbol) rest) :
    text = character :: rest := by
  rw [stands.eq_of_symbol, spelled, List.singleton_append]

theorem expect_eq_ok {text rest : List Char} {symbol : String} {character : Char} {counted : Nat}
    (spelled : symbol.toList = [character])
    (stands : Longest (Text.skipBlanks text) (.symbol symbol) rest) :
    expect character ⟨text, counted⟩ = .ok ⟨rest, counted⟩ := by
  simp only [expect, eq_of_symbol spelled stands, if_true]

/-! ### Lists -/

/-- Neither an expression stands next nor a comma with one behind it, and nothing that makes an
expression longer. -/
structure ListEnds (text : List Char) : Prop where
  ends : Ends (continues .expression) text
  noItem : Token.opensOperand (Text.skipBlanks text) = false
  noComma : ∀ further, Text.skipBlanks text = ',' :: further →
    Token.opensOperand (Text.skipBlanks further) = false

theorem ListEnds.commaStep {level : Level} {read : List Expr} {text : List Char} {counted : Nat}
    (ends : ListEnds text) : commaStep level read ⟨text, counted⟩ = .ok none := by
  unfold Parser.commaStep
  simp only
  split
  · rename_i rest same
    rw [ends.noComma rest same]
    rfl
  · rfl

theorem opensOperand_of_derives {levels : Nat} {lexemes : List Lexeme} {tree : Expr}
    (derives : Derives levels .expression lexemes tree) {text rest : List Char}
    (reads : Reads text lexemes rest) : Token.opensOperand (Text.skipBlanks text) = true := by
  obtain ⟨first, others, rfl, opens⟩ := derives.exists_opens
  cases reads with
  | cons stands _ => exact opensOperand_of_longest stands opens

theorem commaStep_attains {level : Level} (complete : level.Complete limits left) {levels : Nat}
    {lexemes : List Lexeme} {tree : Expr} (derives : Derives levels .expression lexemes tree)
    {text between rest : List Char}
    (comma : Longest (Text.skipBlanks text) (.symbol ",") between)
    (reads : Reads between lexemes rest) (ends : Ends (continues .expression) rest)
    (read : List Expr) (counted : Nat) :
    Attains (levels ≤ left ∧ counted + tree.operations ≤ limits.operations)
      (commaStep level read ⟨text, counted⟩)
      (.ok (some (tree :: read, ⟨rest, counted + tree.operations⟩))) := by
  have same : Text.skipBlanks text = ',' :: between := eq_of_symbol rfl comma
  simp only [commaStep, same, opensOperand_of_derives derives reads, if_true]
  exact .bind (complete.expression derives counted reads ends) id (.of_eq rfl)

/-- What stands behind the expressions of a list lets none of them go on. -/
theorem ends_of_comma {text between : List Char}
    (comma : Longest (Text.skipBlanks text) (.symbol ",") between) :
    Ends (continues .expression) text :=
  .of_symbol comma (by decide)

theorem length_lt_of_longest {text between rest : List Char} {lexeme : Lexeme}
    {lexemes : List Lexeme} (stands : Longest (Text.skipBlanks text) lexeme between)
    (reads : Reads between lexemes rest) : rest.length < text.length :=
  Nat.lt_of_le_of_lt reads.length_le
    (Nat.lt_of_lt_of_le stands.length_lt (length_skipBlanks_le text))

/-- Behind the first expression the others are read one by one. -/
theorem repeatSteps_commaStep_attains {level : Level} (complete : level.Complete limits left)
    {levels : Nat} {lexemes : List Lexeme} {trees : List Expr}
    (derives : DerivesAll levels lexemes trees) (isSome : trees ≠ [])
    {text between rest : List Char} (comma : Longest (Text.skipBlanks text) (.symbol ",") between)
    (reads : Reads between lexemes rest) (ends : ListEnds rest) (read : List Expr) (counted : Nat) :
    Attains (levels ≤ left ∧ counted + allOperations trees ≤ limits.operations)
      (repeatSteps (commaStep level) read ⟨text, counted⟩)
      (.ok (trees.reverse ++ read, ⟨rest, counted + allOperations trees⟩)) := by
  induction trees generalizing lexemes text between read counted with
  | nil => exact absurd rfl isSome
  | cons tree trees ih =>
    cases derives with
    | one derives =>
        simp only [allOperations, Nat.add_zero]
        exact .step (commaStep_attains complete derives comma reads ends.ends read counted) id
          (length_lt_of_longest comma reads) (.of_eq (repeatSteps_eq_of_none ends.commaStep))
    | more derives others =>
        obtain ⟨middle, first, reads⟩ := reads.split
        cases reads with
        | cons comma' reads =>
          have itemRead :=
            commaStep_attains complete derives comma first (ends_of_comma comma') read counted
          have attains := ih others (List.cons_ne_nil _ _) comma' reads (tree :: read)
            (counted + tree.operations)
          simp only [allOperations, List.reverse_cons, List.append_assoc, List.cons_append,
            List.nil_append, Nat.add_assoc] at attains ⊢
          exact .step itemRead (by omega) (length_lt_of_longest comma first) attains

theorem expressions_attains {level : Level} (complete : level.Complete limits left) {levels : Nat}
    {lexemes : List Lexeme} {trees : List Expr} (derives : DerivesAll levels lexemes trees)
    {text rest : List Char} (counted : Nat) (reads : Reads text lexemes rest)
    (ends : ListEnds rest) :
    Attains (levels ≤ left ∧ counted + allOperations trees ≤ limits.operations)
      (expressions level ⟨text, counted⟩)
      (.ok (trees, ⟨rest, counted + allOperations trees⟩)) := by
  cases derives with
  | none =>
      cases reads
      refine .of_eq ?_
      simp only [expressions, ends.noItem]
      rfl
  | one derives =>
      simp only [expressions, opensOperand_of_derives derives reads, if_true, allOperations,
        Nat.add_zero]
      refine .bind (complete.expression derives counted reads ends.ends) id (.of_eq ?_)
      simp only [repeatSteps_eq_of_none ends.commaStep]
      rfl
  | more derives others =>
      obtain ⟨middle, first, reads⟩ := reads.split
      cases reads with
      | cons comma reads =>
          simp only [expressions, opensOperand_of_derives derives first, if_true]
          refine .bind (complete.expression derives counted first (ends_of_comma comma)) ?_ ?_
          · intro fits
            simp only [allOperations] at fits
            omega
          · refine .bind (repeatSteps_commaStep_attains complete others (List.cons_ne_nil _ _)
              comma reads ends [_] _) ?_ (.of_eq ?_)
            · intro fits
              simp only [allOperations] at fits ⊢
              omega
            · simp only [List.reverse_append, List.reverse_reverse, allOperations, Nat.add_assoc]
              rfl

/-- Behind a list stands the bracket that closes it, -/
theorem ListEnds.of_closing {text rest : List Char} {symbol : String}
    (closes : symbol = "]" ∨ symbol = ")")
    (stands : Longest (Text.skipBlanks text) (.symbol symbol) rest) : ListEnds text := by
  have ends : symbol ∉ continues .expression := by
    rcases closes with rfl | rfl <;> decide
  have same := stands.eq_of_symbol
  refine ⟨.of_symbol stands ends, ?_, ?_⟩
  · rcases closes with rfl | rfl <;> rw [same] <;> rfl
  · intro further isComma
    rw [same] at isComma
    rcases closes with rfl | rfl <;> cases isComma

/-- or a comma and that bracket. -/
theorem ListEnds.of_comma {text between rest : List Char}
    (comma : Longest (Text.skipBlanks text) (.symbol ",") between)
    (stands : Longest (Text.skipBlanks between) (.symbol "]") rest) : ListEnds text := by
  have same : Text.skipBlanks text = ',' :: between := eq_of_symbol rfl comma
  refine ⟨ends_of_comma comma, by rw [same]; rfl, fun further isComma => ?_⟩
  rw [same] at isComma
  cases isComma
  exact (ListEnds.of_closing (.inl rfl) stands).noItem

/-! ### Operands -/

theorem array_attains (below : InnerComplete limits left inner) {levels : Nat}
    {items comma : List Lexeme} {trees : List Expr} (derives : DerivesAll levels items trees)
    (isComma : comma = [] ∨ comma = [.symbol ","]) {text rest : List Char} (counted : Nat)
    (reads : Reads text (items ++ (comma ++ [.symbol "]"])) rest) :
    Attains (levels + 1 ≤ left ∧ counted + (Expr.array trees).operations ≤ limits.operations)
      (array limits inner ⟨text, counted⟩)
      (.ok (.array trees, ⟨rest, counted + (Expr.array trees).operations⟩)) := by
  simp only [operations, ← Nat.add_assoc]
  refine .enter below And.left ?_
  rintro fewer level rfl complete
  obtain ⟨middle, itemsRead, closing⟩ := reads.split
  rcases isComma with rfl | rfl
  · cases closing with
    | cons bracket reads =>
      cases reads
      have same : Text.skipBlanks middle = ']' :: rest := eq_of_symbol rfl bracket
      have itemsAttain := expressions_attains complete derives counted itemsRead
        (.of_closing (.inl rfl) bracket)
      refine .bind itemsAttain (by omega) ?_
      simp only [same]
      exact .bind (.of_eq (expect_eq_ok rfl bracket)) id (.bind .count And.right (.of_eq rfl))
  · cases closing with
    | cons comma reads =>
      cases reads with
      | cons bracket reads =>
        cases reads
        rename_i between
        have same : Text.skipBlanks middle = ',' :: between := eq_of_symbol rfl comma
        have itemsAttain := expressions_attains complete derives counted itemsRead
          (.of_comma comma bracket)
        refine .bind itemsAttain (by omega) ?_
        simp only [same]
        exact .bind (.of_eq (expect_eq_ok rfl bracket)) id (.bind .count And.right (.of_eq rfl))

theorem group_attains (below : InnerComplete limits left inner) {levels : Nat}
    {lexemes : List Lexeme} {tree : Expr} (derives : Derives levels .expression lexemes tree)
    {text rest : List Char} (counted : Nat) (reads : Reads text (lexemes ++ [.symbol ")"]) rest) :
    Attains (levels + 1 ≤ left ∧ counted + tree.operations ≤ limits.operations)
      (group inner ⟨text, counted⟩) (.ok (tree, ⟨rest, counted + tree.operations⟩)) := by
  refine .enter below And.left ?_
  rintro fewer level rfl complete
  obtain ⟨middle, inside, closing⟩ := reads.split
  cases closing with
  | cons bracket reads =>
    cases reads
    refine .bind (complete.expression derives counted inside (.of_symbol bracket (by decide)))
      (by omega) ?_
    exact .bind (.of_eq (expect_eq_ok rfl bracket)) id (.of_eq rfl)

theorem primary_string {text rest : List Char} {content : String} (counted : Nat)
    (stands : Longest (Text.skipBlanks text) (.string content) rest) :
    primary limits inner ⟨text, counted⟩ = .ok (.literal (.string content), ⟨rest, counted⟩) := by
  obtain ⟨quote, others, same, isQuote, scanned⟩ := exists_of_longest_string stands
  obtain ⟨noDigit, noPoint⟩ := not_isDigit_of_isQuote isQuote
  have noNumber : Decimal.scanLiteral? (quote :: others) = none :=
    scanLiteral?_cons_eq_none noDigit fun same => absurd same noPoint
  have noBracket : quote ≠ '[' := by rintro rfl; cases isQuote
  have noParenthesis : quote ≠ '(' := by rintro rfl; cases isQuote
  simp only [primary, Cursor.skipBlanks, same, noNumber, isQuote, scanned, if_true]

theorem primary_word {text rest : List Char} {name : String} (counted : Nat)
    (stands : Longest (Text.skipBlanks text) (.word name) rest) :
    primary limits inner ⟨text, counted⟩ = .ok (Token.word name, ⟨rest, counted⟩) := by
  have identified := identifier?_iff.mpr stands
  cases same : Text.skipBlanks text with
  | nil =>
      rw [same] at identified
      cases identified
  | cons first others =>
      rw [same] at identified
      have isStart := isNameStart_of_identifier? identified
      obtain ⟨noDigit, noPoint, noQuote⟩ := not_isDigit_of_isNameStart isStart
      have noNumber : Decimal.scanLiteral? (first :: others) = none :=
        scanLiteral?_cons_eq_none noDigit fun same => absurd same noPoint
      have noBracket : first ≠ '[' := by rintro rfl; cases isStart
      have noParenthesis : first ≠ '(' := by rintro rfl; cases isStart
      simp only [primary, Cursor.skipBlanks, same, noNumber, noQuote, identified,
        Bool.false_eq_true, if_false]

/-- Nothing that stands behind it makes an operand of this kind longer. -/
theorem primary_attains (below : InnerComplete limits left inner) {levels : Nat}
    {lexemes : List Lexeme} {tree : Expr} (derives : Derives levels .primary lexemes tree)
    {text rest : List Char} (counted : Nat) (reads : Reads text lexemes rest) :
    Attains (levels ≤ left ∧ counted + tree.operations ≤ limits.operations)
      (primary limits inner ⟨text, counted⟩) (.ok (tree, ⟨rest, counted + tree.operations⟩)) := by
  cases derives with
  | number numeral =>
      cases reads with
      | cons stands reads =>
        cases reads
        refine .of_eq ?_
        simp only [primary, Cursor.skipBlanks, scanLiteral?_iff.mpr stands]
        rfl
  | string content =>
      cases reads with
      | cons stands reads =>
        cases reads
        exact .of_eq (primary_string counted stands)
  | literal isLiteral =>
      cases reads with
      | cons stands reads =>
        cases reads
        rw [← word_of_mem isLiteral, operations_word]
        exact .of_eq (primary_word counted stands)
  | ident noLiteral =>
      cases reads with
      | cons stands reads =>
        cases reads
        rw [← word_of_not_mem noLiteral, operations_word]
        exact .of_eq (primary_word counted stands)
  | array derives isComma =>
      cases reads with
      | cons bracket reads =>
        rename_i between
        have same : Text.skipBlanks text = '[' :: between := eq_of_symbol rfl bracket
        have noNumber : Decimal.scanLiteral? ('[' :: between) = none :=
          scanLiteral?_cons_eq_none rfl (fun same => absurd same (by decide))
        simp only [primary, Cursor.skipBlanks, same, noNumber]
        exact array_attains below derives isComma counted reads
  | group derives =>
      cases reads with
      | cons bracket reads =>
        rename_i between
        have same : Text.skipBlanks text = '(' :: between := eq_of_symbol rfl bracket
        have noNumber : Decimal.scanLiteral? ('(' :: between) = none :=
          scanLiteral?_cons_eq_none rfl (fun same => absurd same (by decide))
        simp only [primary, Cursor.skipBlanks, same, noNumber]
        exact group_attains below derives counted reads

theorem postfixStep_member {tree : Expr} {text between rest : List Char} {name : String}
    (counted : Nat) (point : Longest (Text.skipBlanks text) (.symbol ".") between)
    (stands : Longest (Text.skipBlanks between) (.word name) rest) :
    Attains (counted + 1 ≤ limits.operations) (postfixStep limits inner tree ⟨text, counted⟩)
      (.ok (some (.member tree name, ⟨rest, counted + 1⟩))) := by
  have same : Text.skipBlanks text = '.' :: between := eq_of_symbol rfl point
  simp only [postfixStep, same, identifier?_iff.mpr stands]
  exact .bind .count id (.of_eq rfl)

theorem postfixStep_index (below : InnerComplete limits left inner) {tree : Expr} {levels : Nat}
    {lexemes : List Lexeme} {key : Expr} (derives : Derives levels .expression lexemes key)
    {text between rest : List Char} (counted : Nat)
    (bracket : Longest (Text.skipBlanks text) (.symbol "[") between)
    (reads : Reads between (lexemes ++ [.symbol "]"]) rest) :
    Attains (levels + 1 ≤ left ∧ counted + key.operations + 1 ≤ limits.operations)
      (postfixStep limits inner tree ⟨text, counted⟩)
      (.ok (some (.index tree key, ⟨rest, counted + key.operations + 1⟩))) := by
  have same : Text.skipBlanks text = '[' :: between := eq_of_symbol rfl bracket
  simp only [postfixStep, same]
  refine .enter below And.left ?_
  rintro fewer level rfl complete
  obtain ⟨middle, inside, closing⟩ := reads.split
  cases closing with
  | cons closing reads =>
    cases reads
    refine .bind (complete.expression derives counted inside (.of_symbol closing (by decide)))
      (by omega) ?_
    exact .bind (.of_eq (expect_eq_ok rfl closing)) id (.bind .count And.right (.of_eq rfl))

theorem postfixStep_call (below : InnerComplete limits left inner) {tree : Expr} {levels : Nat}
    {lexemes : List Lexeme} {arguments : List Expr} (derives : DerivesAll levels lexemes arguments)
    {text between rest : List Char} (counted : Nat)
    (bracket : Longest (Text.skipBlanks text) (.symbol "(") between)
    (reads : Reads between (lexemes ++ [.symbol ")"]) rest) :
    Attains (levels + 1 ≤ left ∧ counted + allOperations arguments + 1 ≤ limits.operations)
      (postfixStep limits inner tree ⟨text, counted⟩)
      (.ok (some (.call tree arguments, ⟨rest, counted + allOperations arguments + 1⟩))) := by
  have same : Text.skipBlanks text = '(' :: between := eq_of_symbol rfl bracket
  simp only [postfixStep, same]
  refine .enter below And.left ?_
  rintro fewer level rfl complete
  obtain ⟨middle, inside, closing⟩ := reads.split
  cases closing with
  | cons closing reads =>
    cases reads
    refine .bind (expressions_attains complete derives counted inside
      (.of_closing (.inr rfl) closing)) (by omega) ?_
    exact .bind (.of_eq (expect_eq_ok rfl closing)) id (.bind .count And.right (.of_eq rfl))

/-- Neither a property nor a call stands next. -/
theorem postfixStep_eq_none {tree : Expr} {text : List Char} (counted : Nat)
    (ends : Ends postfixSymbols text) :
    postfixStep limits inner tree ⟨text, counted⟩ = .ok none := by
  have noPoint := ends.ne_point (by decide)
  have noBracket := ends.ne_cons (isAlone_of_mem (String.singleton '[') (by simp))
    (by decide)
  have noParenthesis := ends.ne_cons (isAlone_of_mem (String.singleton '(') (by simp))
    (by decide)
  simp only [postfixStep]
  rfl

/-- An operand with its properties and calls, wherever it ends: the steps go on behind it. -/
theorem postfixed_attains (below : InnerComplete limits left inner) :
    ∀ {levels : Nat} {lexemes : List Lexeme} {tree : Expr},
      Derives levels .postfixed lexemes tree →
        ∀ ⦃text rest : List Char⦄ (counted : Nat), Reads text lexemes rest →
          Attains (levels ≤ left ∧ counted + tree.operations ≤ limits.operations)
            (primary limits inner ⟨text, counted⟩ >>= fun read =>
              repeatSteps (postfixStep limits inner) read.1 read.2)
            (repeatSteps (postfixStep limits inner) tree ⟨rest, counted + tree.operations⟩)
  | _, _, _, .primary derives => by
      intro text rest counted reads
      exact .bind (primary_attains below derives counted reads) id (.of_eq rfl)
  | _, _, _, .member object => by
      intro text rest counted reads
      obtain ⟨middle, inside, reads⟩ := reads.split
      simp only [operations, ← Nat.add_assoc]
      cases reads with
      | cons point reads =>
        cases reads with
        | cons name nothing =>
          cases nothing
          exact .trans (postfixed_attains below object counted inside) (by omega)
            (.step (postfixStep_member _ point name) And.right
              (length_lt_of_longest point (.single name)) (.of_eq rfl))
  | _, _, _, .index object key => by
      intro text rest counted reads
      obtain ⟨middle, inside, reads⟩ := reads.split
      simp only [operations, ← Nat.add_assoc]
      cases reads with
      | cons bracket reads =>
        exact .trans (postfixed_attains below object counted inside) (by omega)
          (.step (postfixStep_index below key _ bracket reads) id
            (length_lt_of_longest bracket reads) (.of_eq rfl))
  | _, _, _, .call callee arguments => by
      intro text rest counted reads
      obtain ⟨middle, inside, reads⟩ := reads.split
      simp only [operations, ← Nat.add_assoc]
      cases reads with
      | cons bracket reads =>
        exact .trans (postfixed_attains below callee counted inside) (by omega)
          (.step (postfixStep_call below arguments _ bracket reads) id
            (length_lt_of_longest bracket reads) (.of_eq rfl))

theorem operand_complete (below : InnerComplete limits left inner) :
    Complete limits left .operand (operand limits inner) := by
  intro levels lexemes tree derives text rest counted reads ends
  cases derives with
  | unary isEntry derives =>
      obtain ⟨character, isOp, rfl⟩ := exists_unaryOp?_of_mem isEntry
      cases reads with
      | cons stands reads =>
        rename_i between
        have same : Text.skipBlanks text = _ :: between :=
          eq_of_symbol (String.toList_singleton _) stands
        simp only [operand, Cursor.skipBlanks, same, List.head?_cons, Option.bind_some, isOp,
          List.tail_cons, operations, ← Nat.add_assoc]
        refine .enter below And.left ?_
        rintro fewer level rfl complete
        exact .bind (complete.operand derives counted reads ends) (by omega)
          (.bind .count And.right (.of_eq rfl))
  | postfixed derives =>
      have noOperator : (Text.skipBlanks text).head?.bind Token.unaryOp? = none := by
        obtain ⟨first, others, rfl, opens⟩ := derives.exists_opens
        cases reads with
        | cons stands _ => exact unaryOp?_eq_none_of_longest stands opens
      simp only [operand, Cursor.skipBlanks, noOperator]
      have reads' := (Reads.skipBlanks_iff derives.ne_nil).mpr reads
      exact .trans (postfixed_attains below derives counted reads') id
        (.of_eq (repeatSteps_eq_of_none (postfixStep_eq_none _ ends)))

/-! ### Operators -/

/-- No symbol is that of two operators, nor begins a property or a call. -/
theorem symbols_nodup : (operatorSymbols precedence ++ postfixSymbols).Nodup := by
  decide

/-- An operator of a tier makes no operation of tighter tiers longer. -/
theorem not_mem_continues {tier : Tier} {tighter : List Tier}
    (tightest : tier :: tighter <:+ precedence) {symbol : String} {op : BinaryOp}
    (isEntry : (symbol, op) ∈ tier) : symbol ∉ continues (.operation tighter) := by
  obtain ⟨before, split⟩ := tightest
  have nodup := symbols_nodup
  rw [← split, operatorSymbols, List.flatMap_append, List.flatMap_cons, List.append_assoc,
    List.append_assoc] at nodup
  have apart := (List.nodup_append.mp (List.nodup_append.mp nodup).2.1).2.2
  exact fun member => apart symbol (List.mem_map_of_mem isEntry) symbol member rfl

theorem subset_continues (tier : Tier) (tighter : List Tier) :
    tier.map Prod.fst ⊆ continues (.operation (tier :: tighter)) :=
  fun _ member => List.mem_append_left _ (List.mem_append_left _ member)

theorem continues_tighter (tier : Tier) (tighter : List Tier) :
    continues (.operation tighter) ⊆ continues (.operation (tier :: tighter)) := by
  rw [continues, continues, operatorSymbols, operatorSymbols, List.flatMap_cons, List.append_assoc]
  exact List.subset_append_right _ _

theorem operatorStep_attains {tier : Tier} {tighter : List Tier}
    (isTier : IsTier tier) {reader : Reader Expr}
    (complete : Complete limits left (.operation tighter) reader) {levels : Nat}
    {lexemes : List Lexeme} {right : Expr}
    (derives : Derives levels (.operation tighter) lexemes right) {symbol : String} {op : BinaryOp}
    (isEntry : (symbol, op) ∈ tier) {text between rest : List Char}
    (stands : Longest (Text.skipBlanks text) (.symbol symbol) between)
    (reads : Reads between lexemes rest) (ends : Ends (continues (.operation tighter)) rest)
    (tree : Expr) (operators counted : Nat) :
    Attains (levels ≤ left ∧ counted + right.operations ≤ limits.operations)
      (operatorStep tier reader (tree, operators) ⟨text, counted⟩)
      (.ok (some ((.binary op tree right, operators + 1),
        ⟨rest, counted + right.operations⟩))) := by
  have isOperator := (operator?_iff isTier).mpr ⟨symbol, isEntry, stands⟩
  simp only [operatorStep, isOperator]
  exact .bind (complete derives counted reads ends) id (.of_eq rfl)

/-- An operation of tiers, wherever it ends: the steps go on behind it. The operators of the first
tier are not counted yet. -/
theorem operators_attain {tier : Tier} {tighter : List Tier}
    (tightest : tier :: tighter <:+ precedence) {reader : Reader Expr}
    (complete : Complete limits left (.operation tighter) reader) :
    ∀ {levels : Nat} {lexemes : List Lexeme} {tree : Expr},
      Derives levels (.operation (tier :: tighter)) lexemes tree →
        ∃ operators others, tree.operations = others + operators ∧
          ∀ ⦃text rest : List Char⦄ (counted : Nat), Reads text lexemes rest →
            Ends (continues (.operation tighter)) rest →
            Attains (levels ≤ left ∧ counted + others ≤ limits.operations)
              (reader ⟨text, counted⟩ >>= fun read =>
                repeatSteps (operatorStep tier reader) (read.1, 0) read.2)
              (repeatSteps (operatorStep tier reader) (tree, operators) ⟨rest, counted + others⟩)
  | _, _, _, .tighter derives => by
      refine ⟨0, _, rfl, ?_⟩
      intro text rest counted reads ends
      exact .bind (complete derives counted reads ends) id (.of_eq rfl)
  | _, _, _, @Derives.operator _ _ _ _ _ _ _ tree₁ right derives isEntry rightDerives => by
      obtain ⟨operators, others, sum, attains⟩ := operators_attain tightest complete derives
      refine ⟨operators + 1, others + right.operations, ?_, ?_⟩
      · simp only [operations, sum]
        omega
      · intro text rest counted reads ends
        obtain ⟨middle, before, reads⟩ := reads.split
        cases reads with
        | cons stands reads =>
          have isTier := isTier_of_tightest tightest
          have endsBefore := Ends.of_symbol stands (not_mem_continues tightest isEntry)
          simp only [← Nat.add_assoc]
          have stepped := operatorStep_attains isTier complete rightDerives isEntry stands reads
            ends tree₁ operators (counted + others)
          exact .trans (attains counted before endsBefore) (by omega)
            (.step stepped id (length_lt_of_longest stands reads) (.of_eq rfl))

/-- By induction on the tiers, from the tightest. -/
theorem operation_complete (below : InnerComplete limits left inner) :
    ∀ {tiers : List Tier}, tiers <:+ precedence →
      Complete limits left (.operation tiers) (operation limits inner tiers)
  | [], _ => by
      intro levels lexemes tree derives text rest counted reads ends
      cases derives with
      | operand derives => exact operand_complete below derives counted reads ends
  | tier :: tighter, tightest => by
      intro levels lexemes tree derives text rest counted reads ends
      have isTier := isTier_of_tightest tightest
      have complete := operation_complete below ((List.suffix_cons tier tighter).trans tightest)
      obtain ⟨operators, others, sum, attains⟩ := operators_attain tightest complete derives
      have endsTighter := ends.mono (continues_tighter tier tighter)
      have stops : operatorStep tier (operation limits inner tighter) (tree, operators)
          ⟨rest, counted + others⟩ = .ok none := by
        simp only [operatorStep, ends.operator?_eq_none isTier (subset_continues tier tighter)]
        rfl
      have isRead := attains counted reads endsTighter
      rw [repeatSteps_eq_of_none stops] at isRead
      have same : operation limits inner (tier :: tighter) ⟨text, counted⟩ =
          (operation limits inner tighter ⟨text, counted⟩ >>= fun read =>
            repeatSteps (operatorStep tier (operation limits inner tighter)) (read.1, 0) read.2)
            >>= fun state => count limits state.1.2 state.2 >>= fun cursor =>
              pure (state.1.1, cursor) := by
        rw [bind_assoc]
        rfl
      rw [same, sum, ← Nat.add_assoc]
      exact .bind isRead (by omega) (.bind .count And.right (.of_eq rfl))

theorem conditional_complete (below : InnerComplete limits left inner) :
    Complete limits left .conditional (conditional limits inner) := by
  intro levels lexemes tree derives text rest counted reads ends
  cases derives with
  | choose test consequent alternate =>
      obtain ⟨middle, testRead, reads⟩ := reads.split
      cases reads with
      | cons mark reads =>
        rename_i between
        obtain ⟨middle', consequentRead, reads⟩ := reads.split
        cases reads with
        | cons colon reads =>
          have same : Text.skipBlanks middle = '?' :: between := eq_of_symbol rfl mark
          simp only [operations, ← Nat.add_assoc]
          refine .bind (operation_complete below (List.suffix_refl _) test counted testRead
            (.of_symbol mark (by decide))) (by omega) ?_
          simp only [same]
          refine .enter below And.left ?_
          rintro fewer level rfl complete
          refine .bind (complete.expression consequent _ consequentRead
            (.of_symbol colon (by decide))) (by omega) ?_
          refine .bind (.of_eq (expect_eq_ok rfl colon)) id ?_
          refine .bind (complete.expression alternate _ reads ends) (by omega) ?_
          exact .bind .count And.right (.of_eq rfl)
  | unconditional derives =>
      have endsOperation : Ends (continues (.operation Token.tiers)) rest :=
        ends.mono fun _ member => List.mem_cons_of_mem _ (List.mem_cons_of_mem _ member)
      have noMark := ends.ne_cons (isAlone_of_mem (String.singleton '?') (by simp))
        (by decide)
      refine .bind (operation_complete below (List.suffix_refl _) derives counted reads
        endsOperation) id (.of_eq ?_)
      simp only
      rfl

/-- Where no expression but a conditional is, no assignment is. -/
theorem assignment?_eq_none {levels : Nat} {lexemes : List Lexeme} {tree : Expr}
    (derives : Derives levels .conditional lexemes tree) {text rest : List Char}
    (reads : Reads text lexemes rest) (ends : Ends (continues .expression) rest) :
    Token.assignment? (Text.skipBlanks text) = none := by
  cases assigns : Token.assignment? (Text.skipBlanks text) with
  | none => rfl
  | some hit =>
      obtain ⟨_, between, name, equals⟩ := assignment?_iff.mp assigns
      have noAssignment := derives.not_beginsAssignment nofun trivial
      cases reads with
      | nil => exact absurd rfl derives.ne_nil
      | cons stands reads =>
          obtain ⟨rfl, rfl⟩ := stands.unique name
          cases reads with
          | nil => exact absurd List.mem_cons_self (ends.not_mem equals)
          | cons stands' reads =>
              obtain ⟨rfl, rfl⟩ := stands'.unique equals
              exact absurd ⟨_, _, rfl⟩ noAssignment

theorem expression_complete (below : InnerComplete limits left inner) :
    Complete limits left .expression (expression limits inner) := by
  intro levels lexemes tree derives text rest counted reads ends
  cases derives with
  | assign noLiteral derives =>
      cases reads with
      | cons name reads =>
        cases reads with
        | cons equals reads =>
          have assigns :=
            assignment?_iff.mpr ⟨literalWord?_eq_none_iff.mpr noLiteral, _, name, equals⟩
          simp only [expression, Cursor.skipBlanks, assigns, operations, ← Nat.add_assoc]
          refine .enter below And.left ?_
          rintro fewer level rfl complete
          exact .bind (complete.expression derives counted reads ends) (by omega)
            (.bind .count And.right (.of_eq rfl))
  | unassigned derives =>
      simp only [expression, Cursor.skipBlanks, assignment?_eq_none derives reads ends]
      exact conditional_complete below derives counted
        ((Reads.skipBlanks_iff derives.ne_nil).mpr reads) ends

/-! ### Levels -/

/-- Each level is built on the one below it. -/
theorem innerComplete_level (limits : Limits) :
    ∀ left, InnerComplete limits left (level limits left)
  | 0 => .none
  | left + 1 =>
      have below := innerComplete_level limits left
      .some ⟨expression_complete below, operand_complete below⟩

end

/-- What stands behind the expression of a rule: a semicolon or not, and nothing else. -/
def ending (read : Expr × Cursor) : Except Stop (Expr × Cursor) :=
  let rest := match Text.skipBlanks read.2.rest with
    | ';' :: rest => Text.skipBlanks rest
    | rest => rest
  if rest.isEmpty then pure (read.1, { read.2 with rest := rest }) else unexpected rest

theorem rule_eq (limits : Limits) (source : List Char) :
    rule limits source =
      expression limits (level limits limits.nesting) ⟨source, 0⟩ >>= ending :=
  rfl

/-- A rule that fits into the levels that are left is read to its end, and its operations are
counted once. -/
theorem ending_attains {levels : Nat} {source : String} {tree : Expr} (limits : Limits) (left : Nat)
    (isRule : IsRule levels source tree) :
    Attains (levels ≤ left ∧ tree.operations ≤ limits.operations)
      (expression limits (level limits left) ⟨source.toList, 0⟩ >>= ending)
      (.ok (tree, ⟨[], tree.operations⟩)) := by
  obtain ⟨lexemes, closing, ⟨rest, reads, isEnd⟩, isClosing, derives⟩ := isRule
  have complete := expression_complete (innerComplete_level limits left)
  rcases isClosing with rfl | rfl
  · rw [List.append_nil] at reads
    refine .bind (complete derives 0 reads (.of_blank isEnd)) (by omega) (.of_eq ?_)
    simp only [ending, isEnd, Nat.zero_add]
    rfl
  · obtain ⟨middle, reads, semicolon⟩ := reads.split
    cases semicolon with
    | cons stands nothing =>
      cases nothing
      have same : Text.skipBlanks middle = ';' :: rest := eq_of_symbol rfl stands
      refine .bind (complete derives 0 reads (.of_symbol stands (by decide))) (by omega) (.of_eq ?_)
      simp only [ending, same, isEnd, Nat.zero_add]
      rfl

theorem rule_attains {levels : Nat} {source : String} {tree : Expr} (limits : Limits)
    (isRule : IsRule levels source tree) :
    Attains (levels ≤ limits.nesting ∧ tree.operations ≤ limits.operations)
      (rule limits source.toList) (.ok (tree, ⟨[], tree.operations⟩)) := by
  rw [rule_eq]
  exact ending_attains limits limits.nesting isRule

end AccessRules.Expr.Parser
