import AccessRules.Expr.Parser
import AccessRules.Proofs.Expr.Grammar
import AccessRules.Proofs.Expr.Lookahead
import AccessRules.Proofs.Success

/-!
# What the parser accepts

Each reader passes over the lexemes of a phrase and returns its tree, having counted exactly the
operations of that tree. The readers are taken in the order of their definitions, and the levels in
the order in which they are built on each other.
-/

namespace AccessRules.Expr.Parser

open Grammar Lexeme

/-- From one place to the other stand these lexemes, and so many operations are counted on the way,
no more than the limit in all if they were not before. -/
structure Passes (limits : Limits) (cursor : Cursor) (lexemes : List Lexeme) (operations : Nat)
    (cursor' : Cursor) : Prop where
  reads : Reads cursor.rest lexemes cursor'.rest
  counted : cursor'.operations = cursor.operations + operations
  within : cursor.operations ≤ limits.operations → cursor'.operations ≤ limits.operations

namespace Passes

variable {limits : Limits} {cursor cursor' cursor'' : Cursor}

theorem refl (limits : Limits) (cursor : Cursor) : Passes limits cursor [] 0 cursor :=
  ⟨.nil _, rfl, id⟩

theorem trans {lexemes others : List Lexeme} {operations further : Nat}
    (first : Passes limits cursor lexemes operations cursor')
    (second : Passes limits cursor' others further cursor'') :
    Passes limits cursor (lexemes ++ others) (operations + further) cursor'' where
  reads := first.reads.append second.reads
  counted := by rw [second.counted, first.counted, Nat.add_assoc]
  within := fun fits => second.within (first.within fits)

theorem lexeme {lexeme : Lexeme} {rest : List Char}
    (stands : Longest (Text.skipBlanks cursor.rest) lexeme rest) :
    Passes limits cursor [lexeme] 0 { cursor with rest := rest } :=
  ⟨.single stands, rfl, id⟩

theorem count {more : Nat} (counts : Parser.count limits more cursor = .ok cursor') :
    Passes limits cursor [] more cursor' := by
  unfold Parser.count at counts
  simp only at counts
  split at counts
  · rename_i fits
    cases counts
    exact ⟨.nil _, rfl, fun _ => fits⟩
  · cases counts

/-- A character is a symbol, if no other symbol begins with it. -/
theorem symbol {symbol : String} {character : Char} (spelled : symbol.toList = [character])
    (alone : isAlone symbol = true) {rest : List Char}
    (same : Text.skipBlanks cursor.rest = character :: rest) :
    Passes limits cursor [.symbol symbol] 0 { cursor with rest := rest } := by
  have stands := longest_of_isAlone alone rest
  rw [spelled, List.singleton_append, ← same] at stands
  exact .lexeme stands

theorem expect {symbol : String} {character : Char} (spelled : symbol.toList = [character])
    (alone : isAlone symbol = true) (passes : Parser.expect character cursor = .ok cursor') :
    Passes limits cursor [.symbol symbol] 0 cursor' := by
  unfold Parser.expect at passes
  split at passes
  · cases passes
  · rename_i first rest same
    split at passes
    · rename_i isThis
      cases passes
      rw [isThis] at same
      exact .symbol spelled alone same
    · cases passes

/-- Blanks make no difference before the lexemes. -/
theorem of_skipBlanks {lexemes : List Lexeme} {operations : Nat} (isSome : lexemes ≠ [])
    (passes : Passes limits cursor.skipBlanks lexemes operations cursor') :
    Passes limits cursor lexemes operations cursor' :=
  ⟨(Reads.skipBlanks_iff isSome).mp passes.reads, passes.counted, passes.within⟩

end Passes

/-- What a reader accepts is a phrase of this kind. -/
def Sound (limits : Limits) (levels : Nat) (phrase : Phrase) (reader : Reader Expr) : Prop :=
  ∀ ⦃cursor tree cursor'⦄, reader cursor = .ok (tree, cursor') →
    ∃ lexemes, Derives levels phrase lexemes tree
      ∧ Passes limits cursor lexemes tree.operations cursor'

/-- What is read at a level are expressions and operands with so many levels left. -/
structure Level.Sound (limits : Limits) (levels : Nat) (level : Level) : Prop where
  expression : Parser.Sound limits levels .expression level.expression
  operand : Parser.Sound limits levels .operand level.operand

/-- The next level, if there is one, reads with one level less. -/
def InnerSound (limits : Limits) (levels : Nat) (inner : Option Level) : Prop :=
  ∀ level, inner = some level → ∃ fewer, levels = fewer + 1 ∧ level.Sound limits fewer

/-- What holds at a place and is kept by each step holds where the steps end. -/
theorem repeatSteps_invariant {α : Type} {step : α → Cursor → Except Stop (Option (α × Cursor))}
    {Holds : α → Cursor → Prop}
    (keeps : ∀ {state cursor state' cursor'}, Holds state cursor →
      step state cursor = .ok (some (state', cursor')) → Holds state' cursor')
    {state state' : α} {cursor cursor' : Cursor} (holds : Holds state cursor)
    (ends : repeatSteps step state cursor = .ok (state', cursor')) : Holds state' cursor' := by
  fun_induction repeatSteps step state cursor with
  | case1 => cases ends
  | case2 state cursor =>
      cases ends
      exact holds
  | case3 state cursor state'' cursor'' stepped shorter ih => exact ih (keeps holds stepped) ends
  | case4 state cursor state'' cursor'' stepped =>
      cases ends
      exact keeps holds stepped

section

variable {limits : Limits} {levels : Nat} {inner : Option Level}

theorem exists_of_enter {α : Type} (sound : InnerSound limits levels inner) {cursor : Cursor}
    {next : Level → Except Stop α} {result : α}
    (succeeds : (enter inner cursor >>= next) = .ok result) :
    ∃ fewer level, levels = fewer + 1 ∧ level.Sound limits fewer ∧ next level = .ok result := by
  obtain ⟨level, entered, succeeds⟩ := exists_of_bind_eq_ok succeeds
  unfold enter at entered
  split at entered
  · cases entered
    obtain ⟨fewer, same, levelSound⟩ := sound level rfl
    exact ⟨fewer, level, same, levelSound, succeeds⟩
  · cases entered

/-! ### Lists -/

theorem allOperations_append (trees : List Expr) (last : Expr) :
    allOperations (trees ++ [last]) = allOperations trees + last.operations := by
  induction trees with
  | nil => simp only [List.nil_append, allOperations, Nat.zero_add, Nat.add_zero]
  | cons first others ih => simp only [List.cons_append, allOperations, ih, Nat.add_assoc]

/-- What is read is a list from the start, with at least one expression. -/
def ListRead (limits : Limits) (levels : Nat) (start : Cursor) (read : List Expr)
    (cursor : Cursor) : Prop :=
  ∃ lexemes, DerivesAll levels lexemes read.reverse ∧ read ≠ []
    ∧ Passes limits start lexemes (allOperations read.reverse) cursor

theorem commaStep_keeps {level : Level} (sound : level.Sound limits levels) {start : Cursor}
    {read read' : List Expr} {cursor cursor' : Cursor}
    (isRead : ListRead limits levels start read cursor)
    (stepped : commaStep level read cursor = .ok (some (read', cursor'))) :
    ListRead limits levels start read' cursor' := by
  obtain ⟨lexemes, derives, isSome, passes⟩ := isRead
  unfold commaStep at stepped
  split at stepped
  · rename_i rest same
    split at stepped
    · obtain ⟨⟨item, after⟩, itemRead, stepped⟩ := exists_of_bind_eq_ok stepped
      cases stepped
      obtain ⟨itemLexemes, itemDerives, itemPasses⟩ := sound.expression itemRead
      have comma : Passes limits cursor [.symbol ","] 0 { cursor with rest := rest } :=
        .symbol rfl (isAlone_of_mem _ (by simp)) same
      refine ⟨lexemes ++ .symbol "," :: itemLexemes, ?_, List.cons_ne_nil _ _, ?_⟩
      · rw [List.reverse_cons]
        exact derives.snoc (List.reverse_ne_nil_iff.mpr isSome) itemDerives
      · rw [List.reverse_cons, allOperations_append, ← Nat.zero_add item.operations]
        exact passes.trans (comma.trans itemPasses)
    · cases stepped
  · cases stepped

theorem expressions_sound {level : Level} (sound : level.Sound limits levels)
    {cursor cursor' : Cursor} {trees : List Expr}
    (accepts : expressions level cursor = .ok (trees, cursor')) :
    ∃ lexemes, DerivesAll levels lexemes trees
      ∧ Passes limits cursor lexemes (allOperations trees) cursor' := by
  unfold expressions at accepts
  split at accepts
  · obtain ⟨⟨first, after⟩, firstRead, accepts⟩ := exists_of_bind_eq_ok accepts
    obtain ⟨⟨read, last⟩, othersRead, accepts⟩ := exists_of_bind_eq_ok accepts
    cases accepts
    obtain ⟨lexemes, derives, passes⟩ := sound.expression firstRead
    have start : ListRead limits levels cursor [first] after :=
      ⟨lexemes, .one derives, List.cons_ne_nil _ _, passes⟩
    obtain ⟨lexemes, derives, _, passes⟩ :=
      repeatSteps_invariant (commaStep_keeps sound) start othersRead
    exact ⟨lexemes, derives, passes⟩
  · cases accepts
    exact ⟨[], .none, .refl limits cursor⟩

/-! ### Operands -/

theorem array_sound (below : InnerSound limits levels inner) {cursor cursor' : Cursor} {tree : Expr}
    (accepts : array limits inner cursor = .ok (tree, cursor')) :
    ∃ lexemes, Derives levels .primary (.symbol "[" :: lexemes) tree
      ∧ Passes limits cursor lexemes tree.operations cursor' := by
  obtain ⟨fewer, level, rfl, sound, accepts⟩ := exists_of_enter below accepts
  obtain ⟨⟨trees, behind⟩, itemsRead, accepts⟩ := exists_of_bind_eq_ok accepts
  obtain ⟨items, derives, passes⟩ := expressions_sound sound itemsRead
  obtain ⟨closed, isClosed, accepts⟩ := exists_of_bind_eq_ok accepts
  obtain ⟨counted, isCounted, accepts⟩ := exists_of_bind_eq_ok accepts
  cases accepts
  have isBracket : "]".toList = [']'] := rfl
  have last := (Passes.expect isBracket (isAlone_of_mem _ (by simp)) isClosed).trans (.count isCounted)
  split at last
  · rename_i rest same
    have comma : Passes limits behind [.symbol ","] 0 { behind with rest := rest } :=
      .symbol rfl (isAlone_of_mem _ (by simp)) same
    refine ⟨_, .array derives (.inr rfl), ?_⟩
    simpa only [operations, List.append_nil, Nat.zero_add] using passes.trans (comma.trans last)
  · refine ⟨_, .array derives (.inl rfl), ?_⟩
    simpa only [operations, List.append_nil, List.nil_append, Nat.zero_add] using passes.trans last

theorem group_sound (below : InnerSound limits levels inner) {cursor cursor' : Cursor} {tree : Expr}
    (accepts : group inner cursor = .ok (tree, cursor')) :
    ∃ lexemes, Derives levels .primary (.symbol "(" :: lexemes) tree
      ∧ Passes limits cursor lexemes tree.operations cursor' := by
  obtain ⟨fewer, level, rfl, sound, accepts⟩ := exists_of_enter below accepts
  obtain ⟨⟨inside, behind⟩, isRead, accepts⟩ := exists_of_bind_eq_ok accepts
  obtain ⟨lexemes, derives, passes⟩ := sound.expression isRead
  obtain ⟨closed, isClosed, accepts⟩ := exists_of_bind_eq_ok accepts
  cases accepts
  exact ⟨_, .group derives, passes.trans (.expect rfl (isAlone_of_mem _ (by simp)) isClosed)⟩

theorem operations_word (name : String) : (Token.word name).operations = 0 := by
  unfold Token.word
  split <;> rw [operations]

theorem primary_sound (below : InnerSound limits levels inner) :
    Sound limits levels .primary (primary limits inner) := by
  intro cursor tree cursor' accepts
  unfold primary at accepts
  simp only [Cursor.skipBlanks] at accepts
  split at accepts
  · rename_i numeral rest scanned
    cases accepts
    exact ⟨_, .number numeral, .lexeme (longest_iff.mpr (next?_number scanned))⟩
  split at accepts
  · cases accepts
  · rename_i rest same
    obtain ⟨lexemes, derives, passes⟩ := array_sound below accepts
    have opening : Passes limits cursor [.symbol "["] 0 { cursor with rest := rest } :=
      .symbol rfl (isAlone_of_mem _ (by simp)) same
    refine ⟨_, derives, ?_⟩
    rw [← Nat.zero_add tree.operations]
    exact opening.trans passes
  · rename_i rest same
    obtain ⟨lexemes, derives, passes⟩ := group_sound below accepts
    have opening : Passes limits cursor [.symbol "("] 0 { cursor with rest := rest } :=
      .symbol rfl (isAlone_of_mem _ (by simp)) same
    refine ⟨_, derives, ?_⟩
    rw [← Nat.zero_add tree.operations]
    exact opening.trans passes
  · rename_i first rest _ _ same
    split at accepts
    · rename_i isQuote
      split at accepts
      · rename_i scanned
        cases accepts
        refine ⟨_, .string _, .lexeme ?_⟩
        rw [same]
        exact longest_iff.mpr (next?_string isQuote scanned)
      · cases accepts
    · split at accepts
      · rename_i name rest identified
        cases accepts
        refine ⟨_, Derives.word name, ?_⟩
        rw [operations_word]
        refine .lexeme ?_
        rw [same]
        exact identifier?_iff.mp identified
      · cases accepts

/-- What is read is an operand with properties and calls from the start. -/
def PostfixRead (limits : Limits) (levels : Nat) (start : Cursor) (tree : Expr) (cursor : Cursor) :
    Prop :=
  ∃ lexemes, Derives levels .postfixed lexemes tree
    ∧ Passes limits start lexemes tree.operations cursor

theorem postfixStep_keeps (below : InnerSound limits levels inner) {start : Cursor}
    {tree tree' : Expr} {cursor cursor' : Cursor}
    (isRead : PostfixRead limits levels start tree cursor)
    (stepped : postfixStep limits inner tree cursor = .ok (some (tree', cursor'))) :
    PostfixRead limits levels start tree' cursor' := by
  obtain ⟨lexemes, derives, passes⟩ := isRead
  unfold postfixStep at stepped
  split at stepped
  · rename_i rest same
    simp only at stepped
    split at stepped
    · cases stepped
    · rename_i name after identified
      obtain ⟨counted, isCounted, stepped⟩ := exists_of_bind_eq_ok stepped
      cases stepped
      have isName := identifier?_iff.mp identified
      have point : Passes limits cursor [.symbol "."] 0 { cursor with rest := rest } :=
        .lexeme (same ▸ longest_point_of_word isName)
      have name : Passes limits { cursor with rest := rest } [.word name] 0
          { cursor with rest := after } := .lexeme isName
      refine ⟨_, .member derives, ?_⟩
      simpa only [operations, List.append_nil, List.singleton_append, Nat.zero_add]
        using passes.trans (point.trans (name.trans (.count isCounted)))
  · rename_i rest same
    obtain ⟨fewer, level, rfl, sound, stepped⟩ := exists_of_enter below stepped
    obtain ⟨⟨key, behind⟩, keyRead, stepped⟩ := exists_of_bind_eq_ok stepped
    obtain ⟨closed, isClosed, stepped⟩ := exists_of_bind_eq_ok stepped
    obtain ⟨counted, isCounted, stepped⟩ := exists_of_bind_eq_ok stepped
    cases stepped
    obtain ⟨keyLexemes, keyDerives, keyPasses⟩ := sound.expression keyRead
    have opening : Passes limits cursor [.symbol "["] 0 { cursor with rest := rest } :=
      .symbol rfl (isAlone_of_mem _ (by simp)) same
    have closing : Passes limits behind [.symbol "]"] (0 + 1) cursor' :=
      (Passes.expect rfl (isAlone_of_mem _ (by simp)) isClosed).trans (.count isCounted)
    refine ⟨_, .index derives keyDerives, ?_⟩
    simpa only [operations, List.append_nil, List.singleton_append, Nat.zero_add, Nat.add_assoc]
      using passes.trans (opening.trans (keyPasses.trans closing))
  · rename_i rest same
    obtain ⟨fewer, level, rfl, sound, stepped⟩ := exists_of_enter below stepped
    obtain ⟨⟨arguments, behind⟩, argumentsRead, stepped⟩ := exists_of_bind_eq_ok stepped
    obtain ⟨closed, isClosed, stepped⟩ := exists_of_bind_eq_ok stepped
    obtain ⟨counted, isCounted, stepped⟩ := exists_of_bind_eq_ok stepped
    cases stepped
    obtain ⟨lexemes', argumentsDerive, argumentsPass⟩ := expressions_sound sound argumentsRead
    have opening : Passes limits cursor [.symbol "("] 0 { cursor with rest := rest } :=
      .symbol rfl (isAlone_of_mem _ (by simp)) same
    have closing : Passes limits behind [.symbol ")"] (0 + 1) cursor' :=
      (Passes.expect rfl (isAlone_of_mem _ (by simp)) isClosed).trans (.count isCounted)
    refine ⟨_, .call derives argumentsDerive, ?_⟩
    simpa only [operations, List.append_nil, List.singleton_append, Nat.zero_add, Nat.add_assoc]
      using passes.trans (opening.trans (argumentsPass.trans closing))
  · cases stepped

theorem operand_sound (below : InnerSound limits levels inner) :
    Sound limits levels .operand (operand limits inner) := by
  intro cursor tree cursor' accepts
  unfold operand at accepts
  simp only [Cursor.skipBlanks] at accepts
  split at accepts
  · rename_i op isOp
    obtain ⟨fewer, level, rfl, sound, accepts⟩ := exists_of_enter below accepts
    obtain ⟨⟨inside, behind⟩, insideRead, accepts⟩ := exists_of_bind_eq_ok accepts
    obtain ⟨counted, isCounted, accepts⟩ := exists_of_bind_eq_ok accepts
    cases accepts
    obtain ⟨lexemes, derives, passes⟩ := sound.operand insideRead
    obtain ⟨character, isHead, isOp⟩ := Option.bind_eq_some_iff.mp isOp
    obtain ⟨rest, same⟩ := List.head?_eq_some_iff.mp isHead
    rw [same, List.tail_cons] at passes
    have operator : Passes limits cursor [.symbol (String.singleton character)] 0
        { cursor with rest := rest } := by
      obtain ⟨first, others, rfl, opens⟩ := derives.exists_opens
      cases passes.reads with
      | cons stands _ => exact .lexeme (same ▸ longest_unary isOp stands opens)
    refine ⟨_, .unary (mem_of_unaryOp? isOp) derives, ?_⟩
    simpa only [operations, List.append_nil, List.singleton_append, Nat.zero_add]
      using operator.trans (passes.trans (.count isCounted))
  · obtain ⟨⟨first, behind⟩, firstRead, accepts⟩ := exists_of_bind_eq_ok accepts
    obtain ⟨lexemes, derives, passes⟩ := primary_sound below firstRead
    have start : PostfixRead limits levels cursor first behind :=
      ⟨lexemes, .primary derives, passes.of_skipBlanks derives.ne_nil⟩
    obtain ⟨lexemes, derives, passes⟩ :=
      repeatSteps_invariant (postfixStep_keeps below) start accepts
    exact ⟨lexemes, .postfixed derives, passes⟩

/-! ### Operators -/

theorem isTier_of_tightest {tier : Tier} {tighter : List Tier}
    (tightest : tier :: tighter <:+ precedence) : IsTier tier := by
  rw [← tiers_eq_precedence] at tightest
  exact isTier_of_mem (tightest.subset List.mem_cons_self)

/-- What is read is an operation from the start. Its last operators are not counted yet. -/
def OperationRead (limits : Limits) (levels : Nat) (tiers : List Tier) (start : Cursor)
    (state : Expr × Nat) (cursor : Cursor) : Prop :=
  ∃ lexemes counted, Derives levels (.operation tiers) lexemes state.1
    ∧ state.1.operations = counted + state.2 ∧ Passes limits start lexemes counted cursor

theorem operatorStep_keeps {tier : Tier} {tighter : List Tier} (isTier : IsTier tier)
    {reader : Reader Expr} (sound : Sound limits levels (.operation tighter) reader)
    {start : Cursor} {state state' : Expr × Nat} {cursor cursor' : Cursor}
    (isRead : OperationRead limits levels (tier :: tighter) start state cursor)
    (stepped : operatorStep tier reader state cursor = .ok (some (state', cursor'))) :
    OperationRead limits levels (tier :: tighter) start state' cursor' := by
  obtain ⟨lexemes, counted, derives, sum, passes⟩ := isRead
  unfold operatorStep at stepped
  split at stepped
  · cases stepped
  · rename_i op rest isOp
    obtain ⟨⟨right, behind⟩, rightRead, stepped⟩ := exists_of_bind_eq_ok stepped
    cases stepped
    obtain ⟨symbol, isEntry, stands⟩ := (operator?_iff isTier).mp isOp
    obtain ⟨rightLexemes, rightDerives, rightPasses⟩ := sound rightRead
    have operator : Passes limits cursor [.symbol symbol] 0 { cursor with rest := rest } :=
      .lexeme stands
    refine ⟨_, counted + right.operations, .operator derives isEntry rightDerives, ?_, ?_⟩
    · simp only [operations, sum]
      omega
    · simpa only [List.singleton_append, Nat.zero_add]
        using passes.trans (operator.trans rightPasses)

/-- By induction on the tiers, from the tightest. -/
theorem operation_sound (below : InnerSound limits levels inner) :
    ∀ {tiers : List Tier}, tiers <:+ precedence →
      Sound limits levels (.operation tiers) (operation limits inner tiers)
  | [], _ => by
      intro cursor tree cursor' accepts
      obtain ⟨lexemes, derives, passes⟩ := operand_sound below accepts
      exact ⟨lexemes, .operand derives, passes⟩
  | tier :: tighter, tightest => by
      intro cursor tree cursor' accepts
      have sound := operation_sound below ((List.suffix_cons tier tighter).trans tightest)
      have isTier := isTier_of_tightest tightest
      obtain ⟨⟨first, behind⟩, firstRead, accepts⟩ := exists_of_bind_eq_ok accepts
      obtain ⟨⟨⟨last, operators⟩, behind'⟩, othersRead, accepts⟩ := exists_of_bind_eq_ok accepts
      obtain ⟨counted, isCounted, accepts⟩ := exists_of_bind_eq_ok accepts
      cases accepts
      obtain ⟨lexemes, derives, passes⟩ := sound firstRead
      have start : OperationRead limits levels (tier :: tighter) cursor (first, 0) behind :=
        ⟨lexemes, first.operations, .tighter derives, rfl, passes⟩
      obtain ⟨lexemes, counted, derives, sum, passes⟩ :=
        repeatSteps_invariant (operatorStep_keeps isTier sound) start othersRead
      refine ⟨lexemes, derives, ?_⟩
      rw [sum, ← List.append_nil lexemes]
      exact passes.trans (.count isCounted)

theorem conditional_sound (below : InnerSound limits levels inner) :
    Sound limits levels .conditional (conditional limits inner) := by
  intro cursor tree cursor' accepts
  obtain ⟨⟨test, behind⟩, testRead, accepts⟩ := exists_of_bind_eq_ok accepts
  rw [tiers_eq_precedence] at testRead
  obtain ⟨lexemes, derives, passes⟩ := operation_sound below (List.suffix_refl _) testRead
  simp only at accepts
  split at accepts
  · rename_i rest same
    obtain ⟨fewer, level, rfl, sound, accepts⟩ := exists_of_enter below accepts
    obtain ⟨⟨consequent, behind₁⟩, consequentRead, accepts⟩ := exists_of_bind_eq_ok accepts
    obtain ⟨colon, isColon, accepts⟩ := exists_of_bind_eq_ok accepts
    obtain ⟨⟨alternate, behind₂⟩, alternateRead, accepts⟩ := exists_of_bind_eq_ok accepts
    obtain ⟨counted, isCounted, accepts⟩ := exists_of_bind_eq_ok accepts
    cases accepts
    obtain ⟨lexemes₁, derives₁, passes₁⟩ := sound.expression consequentRead
    obtain ⟨lexemes₂, derives₂, passes₂⟩ := sound.expression alternateRead
    have mark : Passes limits behind [.symbol "?"] 0 { behind with rest := rest } :=
      .symbol rfl (isAlone_of_mem _ (by simp)) same
    have middle : Passes limits behind₁ [.symbol ":"] 0 colon :=
      .expect rfl (isAlone_of_mem _ (by simp)) isColon
    refine ⟨_, .choose derives derives₁ derives₂, ?_⟩
    have outcomes := passes₁.trans (middle.trans (passes₂.trans (.count isCounted)))
    simpa only [operations, List.append_nil, List.singleton_append, Nat.zero_add, Nat.add_assoc]
      using passes.trans (mark.trans outcomes)
  · cases accepts
    exact ⟨lexemes, .unconditional derives, passes⟩

theorem expression_sound (below : InnerSound limits levels inner) :
    Sound limits levels .expression (expression limits inner) := by
  intro cursor tree cursor' accepts
  unfold expression at accepts
  simp only [Cursor.skipBlanks] at accepts
  split at accepts
  · rename_i target rest isTarget
    obtain ⟨fewer, level, rfl, sound, accepts⟩ := exists_of_enter below accepts
    obtain ⟨⟨value, behind⟩, valueRead, accepts⟩ := exists_of_bind_eq_ok accepts
    obtain ⟨counted, isCounted, accepts⟩ := exists_of_bind_eq_ok accepts
    cases accepts
    obtain ⟨lexemes, derives, passes⟩ := sound.expression valueRead
    obtain ⟨noLiteral, between, isName, isEquals⟩ := assignment?_iff.mp isTarget
    have name : Passes limits cursor [.word target] 0 { cursor with rest := between } :=
      .lexeme isName
    have equals : Passes limits { cursor with rest := between } [.symbol "="] 0
        { cursor with rest := rest } := .lexeme isEquals
    refine ⟨_, .assign (literalWord?_eq_none_iff.mp noLiteral) derives, ?_⟩
    simpa only [operations, List.append_nil, List.singleton_append, Nat.zero_add]
      using name.trans (equals.trans (passes.trans (.count isCounted)))
  · obtain ⟨lexemes, derives, passes⟩ := conditional_sound below accepts
    exact ⟨lexemes, .unassigned derives, passes.of_skipBlanks derives.ne_nil⟩

/-! ### Levels -/

/-- Each level is built on the one below it. -/
theorem innerSound_level (limits : Limits) : ∀ left, InnerSound limits left (level limits left)
  | 0 => by
      intro _ isLevel
      cases isLevel
  | left + 1 => by
      intro _ isLevel
      cases isLevel
      have below := innerSound_level limits left
      exact ⟨left, rfl, expression_sound below, operand_sound below⟩

end

/-- What is accepted as a rule is one within the limits. -/
theorem isRule_of_rule {limits : Limits} {source : String} {tree : Expr} {cursor : Cursor}
    (accepts : rule limits source.toList = .ok (tree, cursor)) :
    IsRule limits.nesting source tree ∧ tree.operations ≤ limits.operations := by
  obtain ⟨⟨read, behind⟩, isRead, accepts⟩ := exists_of_bind_eq_ok accepts
  obtain ⟨lexemes, derives, passes⟩ := expression_sound (innerSound_level _ _) isRead
  have counted := passes.counted
  have within := passes.within (Nat.zero_le _)
  simp only [Nat.zero_add] at counted accepts
  split at accepts
  · rename_i rest same
    split at accepts
    · rename_i isEnd
      cases accepts
      have closing : Passes limits behind [.symbol ";"] 0 { behind with rest := rest } :=
        .symbol rfl (isAlone_of_mem _ (by simp)) same
      exact ⟨⟨lexemes, _, ⟨rest, (passes.trans closing).reads, List.isEmpty_iff.mp isEnd⟩, .inr rfl,
        derives⟩, counted ▸ within⟩
    · cases accepts
  · split at accepts
    · rename_i isEnd
      cases accepts
      exact ⟨⟨lexemes, [], ⟨behind.rest, (List.append_nil lexemes).symm ▸ passes.reads,
        List.isEmpty_iff.mp isEnd⟩, .inl rfl, derives⟩, counted ▸ within⟩
    · cases accepts

end AccessRules.Expr.Parser
