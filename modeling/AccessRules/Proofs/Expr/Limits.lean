import AccessRules.Proofs.Code.Lowering
import AccessRules.Proofs.Expr.Acceptance
import AccessRules.Proofs.Expr.Backtracking
import Mathlib.Data.Nat.Find

/-!
# The limits of the parser

Of an accepted source every operation of the tree has been counted once, so that the tree is small
and no deeper than it has operations. No level has been opened that the limit forbids: what stands
in place of that level is never asked. On any other source that the grammar derives the parser names
the limit that it exceeds.
-/

namespace AccessRules

/-! ### Depth -/

namespace Expr

mutual

/-- The number of levels of a tree, the tree itself among them. -/
def depth : Expr → Nat
  | .literal _ => 1
  | .array items => depthOfAll items + 1
  | .ident _ => 1
  | .member object _ => object.depth + 1
  | .index object key => max object.depth key.depth + 1
  | .call callee arguments => max callee.depth (depthOfAll arguments) + 1
  | .unary _ operand => operand.depth + 1
  | .binary _ left right => max left.depth right.depth + 1
  | .conditional test consequent alternate =>
      max test.depth (max consequent.depth alternate.depth) + 1
  | .assign _ value => value.depth + 1

/-- The levels of the deepest of several trees. -/
def depthOfAll : List Expr → Nat
  | [] => 0
  | first :: rest => max first.depth (depthOfAll rest)

end

mutual

/-- A tree has no more levels than operations, but for the last one. -/
theorem depth_le_operations : ∀ tree : Expr, tree.depth ≤ tree.operations + 1
  | .literal _ => Nat.le_refl 1
  | .array items => by
      have inside := depthOfAll_le_allOperations items
      rw [depth, operations]
      omega
  | .ident _ => Nat.le_refl 1
  | .member object _ => by
      have inObject := depth_le_operations object
      rw [depth, operations]
      omega
  | .index object key => by
      have inObject := depth_le_operations object
      have inKey := depth_le_operations key
      rw [depth, operations]
      omega
  | .call callee arguments => by
      have inCallee := depth_le_operations callee
      have inArguments := depthOfAll_le_allOperations arguments
      rw [depth, operations]
      omega
  | .unary _ operand => by
      have inOperand := depth_le_operations operand
      rw [depth, operations]
      omega
  | .binary _ left right => by
      have inLeft := depth_le_operations left
      have inRight := depth_le_operations right
      rw [depth, operations]
      omega
  | .conditional test consequent alternate => by
      have inTest := depth_le_operations test
      have inConsequent := depth_le_operations consequent
      have inAlternate := depth_le_operations alternate
      rw [depth, operations]
      omega
  | .assign _ value => by
      have inValue := depth_le_operations value
      rw [depth, operations]
      omega

/-- The same for several trees. -/
theorem depthOfAll_le_allOperations :
    ∀ trees : List Expr, depthOfAll trees ≤ allOperations trees + 1
  | [] => Nat.zero_le _
  | first :: rest => by
      have inFirst := depth_le_operations first
      have inRest := depthOfAll_le_allOperations rest
      rw [depthOfAll, allOperations]
      omega

end

end Expr

namespace Code

mutual

/-- The number of levels of code, the code itself among them. -/
def depth : Code → Nat
  | .literal _ => 1
  | .array items => depthOfAll items + 1
  | .builtin _ => 1
  | .pathVariable _ => 1
  | .slot _ => 1
  | .member object _ => object.depth + 1
  | .index object key => max object.depth key.depth + 1
  | .crossReference argument => argument.depth + 1
  | .method receiver _ arguments => max receiver.depth (depthOfAll arguments) + 1
  | .unary _ operand => operand.depth + 1
  | .binary _ left right => max left.depth right.depth + 1
  | .conditional test consequent alternate =>
      max test.depth (max consequent.depth alternate.depth) + 1
  | .assign _ value => value.depth + 1

/-- The levels of the deepest of several codes. -/
def depthOfAll : List Code → Nat
  | [] => 0
  | first :: rest => max first.depth (depthOfAll rest)

end

theorem depth_resolve {scope : Scope} {name : String} {code : Code}
    (resolves : resolve scope name = .ok code) : code.depth = 1 := by
  rw [resolve] at resolves
  repeat' split at resolves
  all_goals cases resolves <;> rfl

mutual

/-- Code is no deeper than the tree it comes from. -/
theorem Lowers.depth_le {scope : Scope} :
    ∀ {tree : Expr} {code : Code}, Lowers scope tree code → code.depth ≤ tree.depth
  | _, _, .literal _ => Nat.le_refl 1
  | _, _, .array lowersItems => by
      have inside := lowersItems.depthOfAll_le
      rw [depth, Expr.depth]
      omega
  | _, _, .ident resolves => Nat.le_of_eq (depth_resolve resolves)
  | _, _, .member _ lowersObject => by
      have inObject := lowersObject.depth_le
      rw [depth, Expr.depth]
      omega
  | _, _, .index lowersObject lowersKey => by
      have inObject := lowersObject.depth_le
      have inKey := lowersKey.depth_le
      rw [depth, Expr.depth]
      omega
  | _, _, .crossReference lowersArgument => by
      have inArgument := lowersArgument.depth_le
      rw [depth, Expr.depth, Expr.depthOfAll]
      omega
  | _, _, .method _ _ lowersObject lowersArguments => by
      have inObject := lowersObject.depth_le
      have inArguments := lowersArguments.depthOfAll_le
      rw [depth, Expr.depth, Expr.depth]
      omega
  | _, _, .unary _ lowersOperand => by
      have inOperand := lowersOperand.depth_le
      rw [depth, Expr.depth]
      omega
  | _, _, .binary _ lowersLeft lowersRight => by
      have inLeft := lowersLeft.depth_le
      have inRight := lowersRight.depth_le
      rw [depth, Expr.depth]
      omega
  | _, _, .conditional lowersTest lowersConsequent lowersAlternate => by
      have inTest := lowersTest.depth_le
      have inConsequent := lowersConsequent.depth_le
      have inAlternate := lowersAlternate.depth_le
      rw [depth, Expr.depth]
      omega
  | _, _, .assign _ lowersValue => by
      have inValue := lowersValue.depth_le
      rw [depth, Expr.depth]
      omega

/-- The same for several trees. -/
theorem LowersAll.depthOfAll_le {scope : Scope} :
    ∀ {trees : List Expr} {codes : List Code}, LowersAll scope trees codes →
      depthOfAll codes ≤ Expr.depthOfAll trees
  | _, _, .nil => Nat.le_refl 0
  | _, _, .cons lowersFirst lowersRest => by
      have inFirst := lowersFirst.depth_le
      have inRest := lowersRest.depthOfAll_le
      rw [depthOfAll, Expr.depthOfAll]
      omega

end

end Code

namespace Expr

/-! ### Levels that are never opened -/

namespace Parser

/-- What the first comes to if it succeeds, the second one comes to as well. -/
def Follows {α : Type} (first second : Except Stop α) : Prop :=
  ∀ result, first = .ok result → second = .ok result

/-- The first comes to the same as the second one, unless it stops for want of a level. -/
def Agrees {α : Type} (first second : Except Stop α) : Prop :=
  first = second ∨ ∃ rest, first = .error ⟨.nesting, rest⟩

namespace Agrees

variable {α β : Type}

theorem refl (first : Except Stop α) : Agrees first first :=
  .inl rfl

theorem follows {first second : Except Stop α} (agrees : Agrees first second) :
    Follows first second := by
  intro result accepts
  rcases agrees with rfl | ⟨rest, rfl⟩
  · exact accepts
  · cases accepts

theorem bind {first second : Except Stop α} {next next' : α → Except Stop β}
    (agrees : Agrees first second) (goesOn : ∀ value, Agrees (next value) (next' value)) :
    Agrees (first >>= next) (second >>= next') := by
  rcases agrees with rfl | ⟨rest, rfl⟩
  · cases first with
    | error stop => exact .refl _
    | ok value => exact goesOn value
  · exact .inr ⟨rest, rfl⟩

/-- Steps that agree lead to the same place. -/
theorem repeatSteps {step step' : α → Cursor → Except Stop (Option (α × Cursor))}
    (agrees : ∀ state cursor, Agrees (step state cursor) (step' state cursor)) (state : α)
    (cursor : Cursor) :
    Agrees (Parser.repeatSteps step state cursor) (Parser.repeatSteps step' state cursor) := by
  fun_induction Parser.repeatSteps step state cursor with
  | case1 state cursor stop stopped =>
      rcases agrees state cursor with same | ⟨rest, isNested⟩
      · rw [Parser.repeatSteps, ← same, stopped]
        exact .refl _
      · rw [stopped] at isNested
        cases isNested
        exact .inr ⟨rest, rfl⟩
  | case2 state cursor stepped =>
      rw [repeatSteps_eq_of_none ((agrees _ _).follows _ stepped)]
      exact .refl _
  | case3 state cursor state' cursor' stepped shorter ih =>
      have onward : Parser.repeatSteps step' state cursor
          = Parser.repeatSteps step' state' cursor' := by
        rw [Parser.repeatSteps, (agrees _ _).follows _ stepped]
        simp only [shorter, if_true]
      rw [onward]
      exact ih
  | case4 state cursor state' cursor' stepped noShorter =>
      rw [Parser.repeatSteps, (agrees _ _).follows _ stepped]
      simp only [noShorter, if_false]
      exact .refl _

end Agrees

/-- What is read at the first level is read at the second one, so far as there are levels. -/
structure Level.Agrees (first second : Level) : Prop where
  expression : ∀ cursor, Parser.Agrees (first.expression cursor) (second.expression cursor)
  operand : ∀ cursor, Parser.Agrees (first.operand cursor) (second.operand cursor)

/-- Anything may stand in place of a level that cannot be opened. -/
inductive Replaces : Option Level → Option Level → Prop where
  | beyond (other : Option Level) : Replaces none other
  | level {first second : Level} (agrees : first.Agrees second) :
      Replaces (some first) (some second)

theorem Agrees.enter {α : Type} {inner other : Option Level} (replaces : Replaces inner other)
    (cursor : Cursor) {next next' : Level → Except Stop α}
    (goesOn : ∀ first second, first.Agrees second → Agrees (next first) (next' second)) :
    Agrees (Parser.enter inner cursor >>= next) (Parser.enter other cursor >>= next') := by
  cases replaces with
  | beyond other => exact .inr ⟨cursor.rest, rfl⟩
  | level agrees => exact goesOn _ _ agrees

section

variable {limits : Limits} {inner other : Option Level}

theorem commaStep_agrees {first second : Level} (agrees : first.Agrees second)
    (read : List Expr) (cursor : Cursor) :
    Agrees (commaStep first read cursor) (commaStep second read cursor) := by
  unfold commaStep
  split
  · split
    · exact .bind (agrees.expression _) fun _ => .refl _
    · exact .refl _
  · exact .refl _

theorem expressions_agrees {first second : Level} (agrees : first.Agrees second)
    (cursor : Cursor) : Agrees (expressions first cursor) (expressions second cursor) := by
  unfold expressions
  split
  · exact .bind (agrees.expression _) fun _ =>
      .bind (.repeatSteps (commaStep_agrees agrees) _ _) fun _ => .refl _
  · exact .refl _

theorem primary_agrees (replaces : Replaces inner other) (cursor : Cursor) :
    Agrees (primary limits inner cursor) (primary limits other cursor) := by
  unfold primary
  simp only
  split
  · exact .refl _
  split
  · exact .refl _
  · exact .enter replaces _ fun _ _ agrees =>
      .bind (expressions_agrees agrees _) fun _ => .refl _
  · exact .enter replaces _ fun _ _ agrees => .bind (agrees.expression _) fun _ => .refl _
  · exact .refl _

theorem postfixStep_agrees (replaces : Replaces inner other) (expression : Expr)
    (cursor : Cursor) :
    Agrees (postfixStep limits inner expression cursor)
      (postfixStep limits other expression cursor) := by
  unfold postfixStep
  split
  · exact .refl _
  · exact .enter replaces _ fun _ _ agrees => .bind (agrees.expression _) fun _ => .refl _
  · exact .enter replaces _ fun _ _ agrees =>
      .bind (expressions_agrees agrees _) fun _ => .refl _
  · exact .refl _

theorem operand_agrees (replaces : Replaces inner other) (cursor : Cursor) :
    Agrees (operand limits inner cursor) (operand limits other cursor) := by
  unfold operand
  simp only
  split
  · exact .enter replaces _ fun _ _ agrees => .bind (agrees.operand _) fun _ => .refl _
  · exact .bind (primary_agrees replaces _) fun _ =>
      .repeatSteps (postfixStep_agrees replaces) _ _

theorem operatorStep_agrees (tier : Token.Tier) {first second : Reader Expr}
    (agrees : ∀ cursor, Agrees (first cursor) (second cursor)) (state : Expr × Nat)
    (cursor : Cursor) :
    Agrees (operatorStep tier first state cursor) (operatorStep tier second state cursor) := by
  unfold operatorStep
  split
  · exact .refl _
  · exact .bind (agrees _) fun _ => .refl _

theorem operation_agrees (replaces : Replaces inner other) :
    ∀ (tiers : List Token.Tier) (cursor : Cursor),
      Agrees (operation limits inner tiers cursor) (operation limits other tiers cursor)
  | [], cursor => operand_agrees replaces cursor
  | tier :: tighter, cursor =>
      .bind (operation_agrees replaces tighter cursor) fun _ =>
        .bind (.repeatSteps (operatorStep_agrees tier (operation_agrees replaces tighter)) _ _)
          fun _ => .refl _

theorem conditional_agrees (replaces : Replaces inner other) (cursor : Cursor) :
    Agrees (conditional limits inner cursor) (conditional limits other cursor) := by
  refine .bind (operation_agrees replaces _ cursor) fun test => ?_
  simp only
  split
  · exact .enter replaces _ fun _ _ agrees => .bind (agrees.expression _) fun _ =>
      .bind (.refl _) fun _ => .bind (agrees.expression _) fun _ => .refl _
  · exact .refl _

theorem expression_agrees (replaces : Replaces inner other) (cursor : Cursor) :
    Agrees (expression limits inner cursor) (expression limits other cursor) := by
  unfold expression
  simp only
  split
  · exact .enter replaces _ fun _ _ agrees => .bind (agrees.expression _) fun _ => .refl _
  · exact conditional_agrees replaces _

/-- What an expression is read as does not depend on levels that cannot be opened. -/
theorem expression_follows (replaces : Replaces inner other) (cursor : Cursor) :
    Follows (expression limits inner cursor) (expression limits other cursor) :=
  (expression_agrees replaces cursor).follows

end

/-- The levels that can be opened, with something in place of the first one that cannot. -/
def levelsBefore (limits : Limits) (beyond : Option Level) : Nat → Option Level
  | 0 => beyond
  | left + 1 =>
      let inner := levelsBefore limits beyond left
      some ⟨expression limits inner, operand limits inner⟩

theorem replaces_levelsBefore (limits : Limits) (beyond : Option Level) :
    ∀ left, Replaces (level limits left) (levelsBefore limits beyond left)
  | 0 => .beyond beyond
  | left + 1 =>
      have below := replaces_levelsBefore limits beyond left
      .level ⟨expression_agrees below, operand_agrees below⟩

theorem levelsBefore_level (limits : Limits) (more : Nat) :
    ∀ left, levelsBefore limits (level limits more) left = level limits (more + left)
  | 0 => rfl
  | left + 1 => by
      rw [levelsBefore, levelsBefore_level limits more left]
      rfl

/-- A rule is read the same with more levels, unless they are missed. -/
theorem rule_agrees (limits : Limits) (more : Nat) (source : List Char) :
    Agrees (rule limits source)
      (expression limits (level limits (more + limits.nesting)) ⟨source, 0⟩ >>= ending) := by
  rw [rule_eq, ← levelsBefore_level limits more limits.nesting]
  exact .bind (expression_agrees (replaces_levelsBefore limits _ _) _) fun _ => .refl _

end Parser

/-! ### What the limits do -/

open Grammar

/-- The source is a rule of this tree that takes so many levels and cannot do with fewer. -/
def Takes (levels : Nat) (source : String) (tree : Expr) : Prop :=
  IsRule levels source tree ∧ ∀ fewer, IsRule fewer source tree → levels ≤ fewer

theorem exists_takes {levels : Nat} {source : String} {tree : Expr}
    (isRule : IsRule levels source tree) : ∃ least, Takes least source tree := by
  classical
  have some : ∃ levels, IsRule levels source tree := ⟨levels, isRule⟩
  exact ⟨Nat.find some, Nat.find_spec some, fun _ => Nat.find_min' some⟩

/-- The grammar is what the parser reads if its limits are high enough. -/
theorem exists_isRule_iff {source : String} {tree : Expr} :
    (∃ levels, IsRule levels source tree) ↔ ∃ limits, parseWithin limits source = .ok tree := by
  constructor
  · rintro ⟨levels, isRule⟩
    exact ⟨⟨levels, tree.operations⟩, parseWithin_eq_ok isRule (Nat.le_refl _) (Nat.le_refl _)⟩
  · rintro ⟨limits, accepts⟩
    exact ⟨limits.nesting, (parseWithin_eq_ok_iff.mp accepts).1⟩

theorem limits_of_parse {source : String} {error : SyntaxError}
    (refuses : parse source = .error error) : error.limits = standardLimits := by
  rw [parse, parseWithin] at refuses
  split at refuses <;> cases refuses
  rfl

theorem detail_of_nesting {source : String} {error : SyntaxError}
    (refuses : parse source = .error error) (isNested : error.fault = .nesting) :
    error.detail = "Expression nested more than 64 levels deep" := by
  rw [SyntaxError.detail, isNested, limits_of_parse refuses]
  rfl

theorem detail_of_operations {source : String} {error : SyntaxError}
    (refuses : parse source = .error error) (isLarge : error.fault = .operations) :
    error.detail = "Expression has more than 512 operations" := by
  rw [SyntaxError.detail, isLarge, limits_of_parse refuses]
  rfl

/-- What an error says that is not about the next token. -/
theorem detail_of_limited {source : String} {error : SyntaxError}
    (refuses : parse source = .error error) (isLimit : error.fault ≠ .unexpected) :
    error.detail = "Expression nested more than 64 levels deep"
      ∨ error.detail = "Expression has more than 512 operations" := by
  cases fault : error.fault with
  | unexpected => exact absurd fault isLimit
  | nesting => exact .inl (detail_of_nesting refuses fault)
  | operations => exact .inr (detail_of_operations refuses fault)

/-- A rule with few enough operations is refused only for the levels it takes. -/
theorem nesting_of_parseWithin {limits : Limits} {levels : Nat} {source : String} {tree : Expr}
    {error : SyntaxError} (isRule : IsRule levels source tree)
    (operations : tree.operations ≤ limits.operations)
    (refuses : parseWithin limits source = .error error) : error.fault = .nesting := by
  have isRead : Parser.expression limits (Parser.level limits (levels + limits.nesting))
      ⟨source.toList, 0⟩ >>= Parser.ending = .ok (tree, ⟨[], tree.operations⟩) := by
    rcases Parser.ending_attains limits (levels + limits.nesting) isRule with same | ⟨noFit, _⟩
    · exact same
    · exact absurd ⟨Nat.le_add_right _ _, operations⟩ noFit
  unfold parseWithin at refuses
  rcases Parser.rule_agrees limits levels source.toList with same | ⟨rest, isNested⟩
  · rw [same, isRead] at refuses
    cases refuses
  · rw [isNested] at refuses
    cases refuses
    rfl

/-- The limits of the parser bound the trees that it reads, and do nothing else. -/
structure OnlyLimits (source : String) : Prop where
  /-- In the end each operation of the tree is counted once. There are no more than 512 of them, so
  that neither the tree nor its code is more than 513 levels deep. -/
  bounded : ∀ tree, parse source = .ok tree →
    (∃ cursor, Parser.rule standardLimits source.toList = .ok (tree, cursor)
      ∧ cursor.operations = tree.operations)
      ∧ tree.operations ≤ 512 ∧ tree.depth ≤ 513
      ∧ ∀ scope code, Code.lower scope tree = .ok code → code.depth ≤ 513
  /-- No more than 64 levels are opened: whatever stands in place of a further one makes no
  difference. -/
  unopened : ∀ tree, parse source = .ok tree → IsRule 64 source tree
    ∧ ∀ beyond, Parser.expression standardLimits (Parser.levelsBefore standardLimits beyond 64)
        ⟨source.toList, 0⟩
      = Parser.expression standardLimits (Parser.level standardLimits 64) ⟨source.toList, 0⟩
  /-- Reading by trial comes to the same, with the same operations counted, although it goes back
  over places and never over what it has counted. -/
  tried : Backtracking.rule standardLimits source.toList
    = Parser.rule standardLimits source.toList
  /-- The reason is that no expression counts anything before it fails so that something else can be
  tried. -/
  uncounted : ∀ left cursor stopped,
    Backtracking.assignment standardLimits (Backtracking.level standardLimits left) cursor
      = .error .back stopped → stopped.operations = cursor.operations
  /-- The grammar is that of the parser under any limits. -/
  unlimited : ∀ tree,
    (∃ levels, IsRule levels source tree) ↔ ∃ limits, parseWithin limits source = .ok tree
  /-- What the grammar derives is read if it keeps to both limits, and otherwise the error names the
  limit that it exceeds. -/
  decided : ∀ tree, (∃ levels, IsRule levels source tree) → ∃ levels, Takes levels source tree
    ∧ (tree.operations ≤ 512 ∧ levels ≤ 64 → parse source = .ok tree)
    ∧ (¬ (tree.operations ≤ 512 ∧ levels ≤ 64) → ∃ error, parse source = .error error
      ∧ (error.detail = "Expression nested more than 64 levels deep"
        ∨ error.detail = "Expression has more than 512 operations"))

/-- The counter ends at the number of operations of the tree. -/
theorem exists_rule_counted {limits : Limits} {source : String} {tree : Expr}
    (accepts : parseWithin limits source = .ok tree) :
    ∃ cursor, Parser.rule limits source.toList = .ok (tree, cursor)
      ∧ cursor.operations = tree.operations := by
  obtain ⟨isRule, operations⟩ := parseWithin_eq_ok_iff.mp accepts
  rcases Parser.rule_attains limits isRule with isRead | ⟨noFit, _⟩
  · exact ⟨_, isRead, rfl⟩
  · exact absurd ⟨Nat.le_refl _, operations⟩ noFit

/-- For every source the limits only limit. -/
theorem parse_onlyLimits (source : String) : OnlyLimits source where
  bounded := by
    intro tree accepts
    have operations := (parseWithin_eq_ok_iff.mp accepts).2
    have depth : tree.depth ≤ 513 :=
      Nat.le_trans tree.depth_le_operations (Nat.succ_le_succ operations)
    refine ⟨exists_rule_counted accepts, operations, depth, ?_⟩
    intro scope code lowered
    exact Nat.le_trans (Code.lowers_of_lower tree lowered).depth_le depth
  unopened := by
    intro tree accepts
    refine ⟨(parseWithin_eq_ok_iff.mp accepts).1, fun beyond => ?_⟩
    obtain ⟨cursor, isRule⟩ := exists_of_parseWithin accepts
    obtain ⟨read, isRead, _⟩ := exists_of_bind_eq_ok isRule
    have isRead : Parser.expression standardLimits (Parser.level standardLimits 64)
        ⟨source.toList, 0⟩ = .ok read := isRead
    rw [isRead]
    exact Parser.expression_follows (Parser.replaces_levelsBefore _ beyond 64) _ _ isRead
  tried := Backtracking.rule_eq standardLimits source.toList
  uncounted _ _ _ goesBack := Backtracking.operations_of_back goesBack
  unlimited _ := exists_isRule_iff
  decided := by
    rintro tree ⟨_, isRule⟩
    obtain ⟨levels, isRule, least⟩ := exists_takes isRule
    refine ⟨levels, ⟨isRule, least⟩, ?accepts, ?refuses⟩
    case accepts =>
      rintro ⟨operations, nesting⟩
      exact parseWithin_eq_ok isRule nesting operations
    case refuses =>
      intro exceeds
      cases parsed : parse source with
      | ok tree' =>
          obtain ⟨isRule', operations⟩ := parseWithin_eq_ok_iff.mp parsed
          cases eq_of_isRule isRule isRule'
          exact absurd ⟨operations, least 64 isRule'⟩ exceeds
      | error error =>
          exact ⟨error, rfl, detail_of_limited parsed (fault_of_parseWithin isRule parsed)⟩

end Expr

end AccessRules
