import AccessRules.Proofs.Expr.Completeness

/-!
# Exactly the rules are read

The parser accepts the sources that the grammar derives and no others, with the tree that the
grammar gives them, as far as the limits allow. Only a limit keeps it from a rule, and no source is
the rule of two trees.
-/

namespace AccessRules.Expr

open Grammar

theorem exists_of_parseWithin {limits : Limits} {source : String} {tree : Expr}
    (accepts : parseWithin limits source = .ok tree) :
    ∃ cursor, Parser.rule limits source.toList = .ok (tree, cursor) := by
  unfold parseWithin at accepts
  split at accepts
  · rename_i isRule
    cases accepts
    exact ⟨_, isRule⟩
  · cases accepts

/-- A rule that the limits allow is accepted. -/
theorem parseWithin_eq_ok {limits : Limits} {levels : Nat} {source : String} {tree : Expr}
    (isRule : IsRule levels source tree) (nesting : levels ≤ limits.nesting)
    (operations : tree.operations ≤ limits.operations) : parseWithin limits source = .ok tree := by
  rcases Parser.rule_attains limits isRule with accepts | ⟨noFit, _⟩
  · rw [parseWithin, accepts]
  · exact absurd ⟨nesting, operations⟩ noFit

theorem parseWithin_eq_ok_iff {limits : Limits} {source : String} {tree : Expr} :
    parseWithin limits source = .ok tree ↔
      IsRule limits.nesting source tree ∧ tree.operations ≤ limits.operations := by
  constructor
  · intro accepts
    obtain ⟨cursor, isRule⟩ := exists_of_parseWithin accepts
    exact Parser.isRule_of_rule isRule
  · exact fun ⟨isRule, operations⟩ => parseWithin_eq_ok isRule (Nat.le_refl _) operations

/-- A rule that is refused is refused for a limit. -/
theorem fault_of_parseWithin {limits : Limits} {levels : Nat} {source : String} {tree : Expr}
    {error : SyntaxError} (isRule : IsRule levels source tree)
    (refuses : parseWithin limits source = .error error) : error.fault ≠ .unexpected := by
  unfold parseWithin at refuses
  rcases Parser.rule_attains limits isRule with accepts | ⟨_, stop, stopped, isLimit⟩
  · rw [accepts] at refuses
    cases refuses
  · rw [stopped] at refuses
    cases refuses
    exact isLimit

/-- The grammar is unambiguous: within limits that both trees keep to, the parser finds either. -/
theorem eq_of_isRule {levels levels' : Nat} {source : String} {tree tree' : Expr}
    (isRule : IsRule levels source tree) (isRule' : IsRule levels' source tree') :
    tree' = tree := by
  have accepts : parseWithin ⟨max levels levels', max tree.operations tree'.operations⟩ source
      = .ok tree := parseWithin_eq_ok isRule (Nat.le_max_left _ _) (Nat.le_max_left _ _)
  rw [parseWithin_eq_ok isRule' (Nat.le_max_right _ _) (Nat.le_max_right _ _)] at accepts
  cases accepts
  rfl

/-- A source is read as the grammar has it. -/
structure ReadsAsGrammar (source : String) : Prop where
  /-- Accepted are the rules with no more than 64 levels open at once and 512 operations. -/
  accepts_iff : ∀ tree, parse source = .ok tree ↔ IsRule 64 source tree ∧ tree.operations ≤ 512
  /-- A rule with more of them is refused for that reason only. -/
  limited : ∀ levels tree error, IsRule levels source tree → parse source = .error error →
    error.fault = .nesting ∨ error.fault = .operations
  /-- It is a rule of one tree at most. -/
  unique : ∀ levels levels' tree tree', IsRule levels source tree → IsRule levels' source tree' →
    tree' = tree

/-- Every source is read as the grammar has it. -/
theorem parse_readsAsGrammar (source : String) : ReadsAsGrammar source where
  accepts_iff _ := parseWithin_eq_ok_iff
  limited _ _ error isRule refuses := by
    have isLimit := fault_of_parseWithin isRule refuses
    cases fault : error.fault with
    | unexpected => exact absurd fault isLimit
    | nesting => exact .inl rfl
    | operations => exact .inr rfl
  unique _ _ _ _ := eq_of_isRule

/-- Operators of one tier group from the left, below those of a looser one. -/
example : IsRule 0 "a - b-c<d;" (.binary .less (.binary .subtract
    (.binary .subtract (.ident "a") (.ident "b")) (.ident "c")) (.ident "d")) := by
  have name (name : String) (noLiteral : Token.word name = .ident name) :
      Derives 0 (.operation (precedence.drop 5)) [.word name] (.ident name) :=
    .tighter (.operand (.postfixed (.primary (noLiteral ▸ .word name))))
  have minus : ("-", BinaryOp.subtract) ∈ precedence[4] := by decide
  have below : ("<", BinaryOp.less) ∈ precedence[3] := by decide
  have difference : Derives 0 (.operation (precedence.drop 4))
      [.word "a", .symbol "-", .word "b", .symbol "-", .word "c"] _ :=
    .operator (.operator (.tighter (name "a" rfl)) minus (name "b" rfl)) minus (name "c" rfl)
  have comparison : Derives 0 (.operation (precedence.drop 3))
      [.word "a", .symbol "-", .word "b", .symbol "-", .word "c", .symbol "<", .word "d"] _ :=
    .operator (.tighter difference) below (.tighter (name "d" rfl))
  have reads : Lexeme.Reads "a - b-c<d;".toList ([.word "a", .symbol "-", .word "b", .symbol "-",
      .word "c", .symbol "<", .word "d"] ++ [.symbol ";"]) [] := by
    rw [show "a - b-c<d;".toList = ['a', ' ', '-', ' ', 'b', '-', 'c', '<', 'd', ';'] from rfl]
    iterate 8 refine .cons (Lexeme.longest_iff.mpr rfl) ?_
    exact .nil _
  exact ⟨_, _, ⟨[], reads, rfl⟩, .inr rfl,
    .unassigned (.unconditional (.tighter (.tighter (.tighter comparison))))⟩

end AccessRules.Expr
