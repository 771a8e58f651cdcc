import AccessRules.Code.Compile
import AccessRules.Proofs.Success

/-!
# What lowering does

The relation between trees and their code, one rule for each form of expression. Calls have two
forms only. Whatever is proved of code that was lowered is proved along this relation.
-/

namespace AccessRules

namespace Code

mutual

/-- The tree has this code in the scope. -/
inductive Lowers (scope : Scope) : Expr → Code → Prop where
  | literal (value : Value) : Lowers scope (.literal value) (.literal value)
  | array {items : List Expr} {codes : List Code} (lowersItems : LowersAll scope items codes) :
      Lowers scope (.array items) (.array codes)
  | ident {name : String} {code : Code} (resolves : resolve scope name = .ok code) :
      Lowers scope (.ident name) code
  | member {object : Expr} {object' : Code} (name : String)
      (lowersObject : Lowers scope object object') :
      Lowers scope (.member object name) (.member object' name)
  | index {object key : Expr} {object' key' : Code} (lowersObject : Lowers scope object object')
      (lowersKey : Lowers scope key key') :
      Lowers scope (.index object key) (.index object' key')
  | crossReference {argument : Expr} {argument' : Code}
      (lowersArgument : Lowers scope argument argument') :
      Lowers scope (.call (.ident crossReferenceName) [argument]) (.crossReference argument')
  | method {object : Expr} {object' : Code} {name : String} {called : Method}
      {arguments : List Expr} {arguments' : List Code}
      (names : Method.ofName? name = some called) (arity : arguments.length = called.arity)
      (lowersObject : Lowers scope object object')
      (lowersArguments : LowersAll scope arguments arguments') :
      Lowers scope (.call (.member object name) arguments) (.method object' called arguments')
  | unary (op : UnaryOp) {operand : Expr} {operand' : Code}
      (lowersOperand : Lowers scope operand operand') :
      Lowers scope (.unary op operand) (.unary op operand')
  | binary (op : BinaryOp) {left right : Expr} {left' right' : Code}
      (lowersLeft : Lowers scope left left') (lowersRight : Lowers scope right right') :
      Lowers scope (.binary op left right) (.binary op left' right')
  | conditional {test consequent alternate : Expr} {test' consequent' alternate' : Code}
      (lowersTest : Lowers scope test test') (lowersConsequent : Lowers scope consequent consequent')
      (lowersAlternate : Lowers scope alternate alternate') :
      Lowers scope (.conditional test consequent alternate)
        (.conditional test' consequent' alternate')
  | assign {target : String} {place : Nat} {value : Expr} {value' : Code}
      (stands : position? target scope.names = some place) (lowersValue : Lowers scope value value') :
      Lowers scope (.assign target value) (.assign place value')

/-- The trees have these codes, one by one. -/
inductive LowersAll (scope : Scope) : List Expr → List Code → Prop where
  | nil : LowersAll scope [] []
  | cons {first : Expr} {first' : Code} {rest : List Expr} {rest' : List Code}
      (lowersFirst : Lowers scope first first') (lowersRest : LowersAll scope rest rest') :
      LowersAll scope (first :: rest) (first' :: rest')

end

mutual

/-- What is lowered stands in the relation. -/
theorem lowers_of_lower {scope : Scope} :
    ∀ (tree : Expr) {code : Code}, lower scope tree = .ok code → Lowers scope tree code
  | .literal value, _, lowered => by
      simp only [lower] at lowered
      cases lowered
      exact .literal value
  | .array items, _, lowered => by
      simp only [lower] at lowered
      obtain ⟨items', lowersItems, lowered⟩ := exists_of_bind_eq_ok lowered
      cases lowered
      exact .array (lowersAll_of_lowerAll items lowersItems)
  | .ident name, _, lowered => by
      simp only [lower] at lowered
      exact .ident lowered
  | .member object name, _, lowered => by
      simp only [lower] at lowered
      obtain ⟨object', lowersObject, lowered⟩ := exists_of_bind_eq_ok lowered
      cases lowered
      exact .member name (lowers_of_lower object lowersObject)
  | .index object key, _, lowered => by
      simp only [lower] at lowered
      obtain ⟨object', lowersObject, lowered⟩ := exists_of_bind_eq_ok lowered
      obtain ⟨key', lowersKey, lowered⟩ := exists_of_bind_eq_ok lowered
      cases lowered
      exact .index (lowers_of_lower object lowersObject) (lowers_of_lower key lowersKey)
  | .call (.ident callee) arguments, _, lowered => by
      unfold lower at lowered
      split at lowered
      · rename_i isReference
        split at lowered
        · rename_i argument
          obtain ⟨argument', lowersArgument, lowered⟩ := exists_of_bind_eq_ok lowered
          cases lowered
          rw [isReference]
          exact .crossReference (lowers_of_lower argument lowersArgument)
        · cases lowered
      · cases lowered
  | .call (.member object name) arguments, _, lowered => by
      simp only [lower] at lowered
      split at lowered
      · cases lowered
      · rename_i called names
        split at lowered
        · rename_i arity
          obtain ⟨object', lowersObject, lowered⟩ := exists_of_bind_eq_ok lowered
          obtain ⟨arguments', lowersArguments, lowered⟩ := exists_of_bind_eq_ok lowered
          cases lowered
          exact .method names arity (lowers_of_lower object lowersObject)
            (lowersAll_of_lowerAll arguments lowersArguments)
        · cases lowered
  | .call (.literal _) _, _, lowered | .call (.array _) _, _, lowered
  | .call (.index _ _) _, _, lowered | .call (.call _ _) _, _, lowered
  | .call (.unary _ _) _, _, lowered | .call (.binary _ _ _) _, _, lowered
  | .call (.conditional _ _ _) _, _, lowered | .call (.assign _ _) _, _, lowered => by
      simp only [lower] at lowered
      cases lowered
  | .unary op operand, _, lowered => by
      simp only [lower] at lowered
      obtain ⟨operand', lowersOperand, lowered⟩ := exists_of_bind_eq_ok lowered
      cases lowered
      exact .unary op (lowers_of_lower operand lowersOperand)
  | .binary op left right, _, lowered => by
      simp only [lower] at lowered
      obtain ⟨left', lowersLeft, lowered⟩ := exists_of_bind_eq_ok lowered
      obtain ⟨right', lowersRight, lowered⟩ := exists_of_bind_eq_ok lowered
      cases lowered
      exact .binary op (lowers_of_lower left lowersLeft) (lowers_of_lower right lowersRight)
  | .conditional test consequent alternate, _, lowered => by
      simp only [lower] at lowered
      obtain ⟨test', lowersTest, lowered⟩ := exists_of_bind_eq_ok lowered
      obtain ⟨consequent', lowersConsequent, lowered⟩ := exists_of_bind_eq_ok lowered
      obtain ⟨alternate', lowersAlternate, lowered⟩ := exists_of_bind_eq_ok lowered
      cases lowered
      exact .conditional (lowers_of_lower test lowersTest)
        (lowers_of_lower consequent lowersConsequent) (lowers_of_lower alternate lowersAlternate)
  | .assign target value, _, lowered => by
      simp only [lower] at lowered
      split at lowered
      · cases lowered
      · rename_i place stands
        obtain ⟨value', lowersValue, lowered⟩ := exists_of_bind_eq_ok lowered
        cases lowered
        exact .assign stands (lowers_of_lower value lowersValue)

/-- The same for several trees. -/
theorem lowersAll_of_lowerAll {scope : Scope} :
    ∀ (trees : List Expr) {codes : List Code}, lowerAll scope trees = .ok codes →
      LowersAll scope trees codes
  | [], _, lowered => by
      simp only [lowerAll] at lowered
      cases lowered
      exact .nil
  | first :: rest, _, lowered => by
      simp only [lowerAll] at lowered
      obtain ⟨first', lowersFirst, lowered⟩ := exists_of_bind_eq_ok lowered
      obtain ⟨rest', lowersRest, lowered⟩ := exists_of_bind_eq_ok lowered
      cases lowered
      exact .cons (lowers_of_lower first lowersFirst) (lowersAll_of_lowerAll rest lowersRest)

end

end Code

namespace CompiledRule

/-- A rule that is not constant decides by its code as it is. -/
theorem eq_of_predicateOf {code code' : Code} (predicate : predicateOf code = .code code') :
    code' = code := by
  unfold predicateOf at predicate
  split at predicate <;> cases predicate
  rfl

/-- What a rule is compiled to: the code of its tree, and whether that refers to `data` and
`oldData`. -/
theorem exists_of_ofExpr {source : String} {pathNames : List String} {tree : Expr}
    {rule : CompiledRule} (compiles : ofExpr source pathNames tree = .ok rule) :
    ∃ names code, Code.collectNames pathNames [] tree = .ok names
      ∧ Code.Lowers ⟨pathNames, names⟩ tree code
      ∧ rule = ⟨source, predicateOf code, tree.references "data", tree.references "oldData",
        names.length⟩ := by
  rw [ofExpr] at compiles
  obtain ⟨names, collects, compiles⟩ := exists_of_bind_eq_ok compiles
  obtain ⟨code, lowered, compiles⟩ := exists_of_bind_eq_ok compiles
  cases compiles
  exact ⟨names, code, collects, Code.lowers_of_lower tree lowered, rfl⟩

/-- Whatever is compiled has been read as a tree before. -/
theorem exists_of_compile {source : String} {pathNames : List String} {rule : CompiledRule}
    (compiles : compile source pathNames = .ok rule) :
    ∃ tree, Expr.parse source = .ok tree ∧ ofExpr source pathNames tree = .ok rule := by
  rw [compile] at compiles
  split at compiles
  · cases compiles
  · rename_i tree parsed
    exact ⟨tree, parsed, compiles⟩

end CompiledRule

end AccessRules
