import AccessRules.Code.Compile
import AccessRules.Code.Evaluate
import AccessRules.Proofs.Code.Lowering

/-!
# What rules read

Code that does not read a builtin runs the same way whatever the builtin is. A name in the source
that stands for a builtin is the only thing that is compiled to a read of it, so a rule whose source
does not refer to the builtin does not depend on it.
-/

namespace AccessRules

namespace Code

mutual

/-- Whether code reads a builtin anywhere. -/
def reads (read : Builtin) : Code → Bool
  | .literal _ => false
  | .array items => anyReads read items
  | .builtin other => decide (other = read)
  | .pathVariable _ => false
  | .slot _ => false
  | .member object _ => object.reads read
  | .index object key => object.reads read || key.reads read
  | .crossReference argument => argument.reads read
  | .method receiver _ arguments => receiver.reads read || anyReads read arguments
  | .unary _ operand => operand.reads read
  | .binary _ left right => left.reads read || right.reads read
  | .conditional test consequent alternate =>
      test.reads read || consequent.reads read || alternate.reads read
  | .assign _ value => value.reads read

/-- Whether one of the codes reads a builtin. -/
def anyReads (read : Builtin) : List Code → Bool
  | [] => false
  | first :: rest => first.reads read || anyReads read rest

end

end Code

namespace Context

/-- Two contexts are the same but for one builtin. -/
structure AgreesBut (read : Builtin) (one other : Context) : Prop where
  builtin : ∀ {builtin : Builtin}, builtin ≠ read → one.builtin builtin = other.builtin builtin
  pathValues : one.pathValues = other.pathValues
  records : one.records = other.records

theorem agreesBut_action (context : Context) (action : Value) :
    context.AgreesBut .action { context with action := action } := by
  refine ⟨?_, rfl, rfl⟩
  intro builtin different
  cases builtin with
  | action => exact absurd rfl different
  | user | authData | data | oldData | now | name => rfl

end Context

/-- Cross references depend on a context through its records. -/
theorem Step.crossReference_congr {one other : Context} (records : one.records = other.records)
    (argument : Value) :
    Step.crossReference one argument = Step.crossReference other argument := by
  cases argument with
  | string name => simp only [crossReference, records]
  | undefined | null | bool | number | array | object => rfl

namespace Code

mutual

/-- Code that does not read a builtin runs the same way whatever the builtin is. -/
theorem evaluate_eq_of_unread {read : Builtin} {one other : Context}
    (agrees : one.AgreesBut read other) :
    ∀ code : Code, code.reads read = false → evaluate one code = evaluate other code
  | .literal _, _ => by simp only [evaluate]
  | .array items, unread => by
      simp only [reads] at unread
      simp only [evaluate, evaluateAll_eq_of_unread agrees items unread]
  | .builtin found, unread => by
      simp only [reads, decide_eq_false_iff_not] at unread
      simp only [evaluate, agrees.builtin unread]
  | .pathVariable position, _ => by
      simp only [evaluate, Context.pathVariable, agrees.pathValues]
  | .slot _, _ => by simp only [evaluate]
  | .member object _, unread => by
      simp only [reads] at unread
      simp only [evaluate, evaluate_eq_of_unread agrees object unread]
  | .index object key, unread => by
      simp only [reads, Bool.or_eq_false_iff] at unread
      simp only [evaluate, evaluate_eq_of_unread agrees object unread.1,
        evaluate_eq_of_unread agrees key unread.2]
  | .crossReference argument, unread => by
      simp only [reads] at unread
      simp only [evaluate, evaluate_eq_of_unread agrees argument unread,
        Step.crossReference_congr agrees.records]
  | .method receiver _ arguments, unread => by
      simp only [reads, Bool.or_eq_false_iff] at unread
      simp only [evaluate, evaluate_eq_of_unread agrees receiver unread.1,
        evaluateAll_eq_of_unread agrees arguments unread.2]
  | .unary _ operand, unread => by
      simp only [reads] at unread
      simp only [evaluate, evaluate_eq_of_unread agrees operand unread]
  | .binary op left right, unread => by
      simp only [reads, Bool.or_eq_false_iff] at unread
      cases op <;>
        simp only [evaluate, evaluate_eq_of_unread agrees left unread.1,
          evaluate_eq_of_unread agrees right unread.2]
  | .conditional test consequent alternate, unread => by
      simp only [reads, Bool.or_eq_false_iff] at unread
      simp only [evaluate, evaluate_eq_of_unread agrees test unread.1.1,
        evaluate_eq_of_unread agrees consequent unread.1.2,
        evaluate_eq_of_unread agrees alternate unread.2]
  | .assign _ value, unread => by
      simp only [reads] at unread
      simp only [evaluate, evaluate_eq_of_unread agrees value unread]

/-- The same for several codes, run one after the other. -/
theorem evaluateAll_eq_of_unread {read : Builtin} {one other : Context}
    (agrees : one.AgreesBut read other) :
    ∀ codes : List Code, anyReads read codes = false →
      evaluateAll one codes = evaluateAll other codes
  | [], _ => by simp only [evaluateAll]
  | first :: rest, unread => by
      simp only [anyReads, Bool.or_eq_false_iff] at unread
      simp only [evaluateAll, evaluate_eq_of_unread agrees first unread.1,
        evaluateAll_eq_of_unread agrees rest unread.2]

end

/-! ### From names to builtins -/

/-- A builtin goes by one name only. -/
theorem eq_of_ofName? {name other : String} {read : Builtin}
    (names : Builtin.ofName? name = some read) (namesToo : Builtin.ofName? other = some read) :
    other = name := by
  unfold Builtin.ofName? at names namesToo
  split at names <;> cases names <;> split at namesToo <;> cases namesToo <;> rfl

/-- A name is compiled to a read of a builtin only if it is the name of that builtin. -/
theorem unread_resolve {name : String} {read : Builtin} (names : Builtin.ofName? name = some read)
    {scope : Scope} {other : String} {code : Code} (resolves : resolve scope other = .ok code)
    (different : other ≠ name) : code.reads read = false := by
  rw [resolve] at resolves
  split at resolves
  · rename_i found namesFound
    cases resolves
    simp only [reads, decide_eq_false_iff_not]
    rintro rfl
    exact different (eq_of_ofName? names namesFound)
  · split at resolves
    · cases resolves
      rfl
    · split at resolves
      · cases resolves
        rfl
      · split at resolves
        · cases resolves
        · cases resolves

mutual

/-- The code of a tree that does not refer to a builtin does not read it. -/
theorem unread_of_lowers {name : String} {read : Builtin} (names : Builtin.ofName? name = some read)
    {scope : Scope} :
    ∀ {tree : Expr} {code : Code}, Lowers scope tree code → tree.references name = false →
      code.reads read = false
  | _, _, .literal _, _ => by rw [reads]
  | _, _, .array lowersItems, unread => by
      rw [Expr.references] at unread
      rw [reads]
      exact unread_of_lowersAll names lowersItems unread
  | _, _, .ident resolves, unread => by
      simp only [Expr.references, beq_eq_false_iff_ne, ne_eq] at unread
      exact unread_resolve names resolves unread
  | _, _, .member _ lowersObject, unread => by
      rw [Expr.references] at unread
      rw [reads]
      exact unread_of_lowers names lowersObject unread
  | _, _, .index lowersObject lowersKey, unread => by
      simp only [Expr.references, Bool.or_eq_false_iff] at unread
      rw [reads, unread_of_lowers names lowersObject unread.1,
        unread_of_lowers names lowersKey unread.2]
      rfl
  | _, _, .crossReference lowersArgument, unread => by
      -- The name that is called is that of cross references, which is no builtin.
      simp only [Expr.references, Expr.anyReferences, Bool.or_eq_false_iff] at unread
      rw [reads]
      exact unread_of_lowers names lowersArgument unread.2.1
  | _, _, .method _ _ lowersObject lowersArguments, unread => by
      simp only [Expr.references, Bool.or_eq_false_iff] at unread
      rw [reads, unread_of_lowers names lowersObject unread.1,
        unread_of_lowersAll names lowersArguments unread.2]
      rfl
  | _, _, .unary _ lowersOperand, unread => by
      rw [Expr.references] at unread
      rw [reads]
      exact unread_of_lowers names lowersOperand unread
  | _, _, .binary _ lowersLeft lowersRight, unread => by
      simp only [Expr.references, Bool.or_eq_false_iff] at unread
      rw [reads, unread_of_lowers names lowersLeft unread.1,
        unread_of_lowers names lowersRight unread.2]
      rfl
  | _, _, .conditional lowersTest lowersConsequent lowersAlternate, unread => by
      simp only [Expr.references, Bool.or_eq_false_iff] at unread
      rw [reads, unread_of_lowers names lowersTest unread.1.1,
        unread_of_lowers names lowersConsequent unread.1.2,
        unread_of_lowers names lowersAlternate unread.2]
      rfl
  | _, _, .assign _ lowersValue, unread => by
      rw [Expr.references] at unread
      rw [reads]
      exact unread_of_lowers names lowersValue unread

/-- The same for several trees. -/
theorem unread_of_lowersAll {name : String} {read : Builtin}
    (names : Builtin.ofName? name = some read) {scope : Scope} :
    ∀ {trees : List Expr} {codes : List Code}, LowersAll scope trees codes →
      Expr.anyReferences name trees = false → anyReads read codes = false
  | _, _, .nil, _ => by rw [anyReads]
  | _, _, .cons lowersFirst lowersRest, unread => by
      simp only [Expr.anyReferences, Bool.or_eq_false_iff] at unread
      rw [anyReads, unread_of_lowers names lowersFirst unread.1,
        unread_of_lowersAll names lowersRest unread.2]
      rfl

end

end Code

namespace CompiledRule

/-- A rule whose source does not refer to a builtin comes to the same whatever the builtin is. -/
theorem run_eq_of_unreferenced {source : String} {pathNames : List String} {tree : Expr}
    {rule : CompiledRule} (compiles : ofExpr source pathNames tree = .ok rule) {name : String}
    {read : Builtin} (names : Builtin.ofName? name = some read)
    (unread : tree.references name = false) {one other : Context}
    (agrees : one.AgreesBut read other) : rule.run one = rule.run other := by
  obtain ⟨slots, code, _, lowers, rfl⟩ := exists_of_ofExpr compiles
  have runs := Code.evaluate_eq_of_unread agrees code (Code.unread_of_lowers names lowers unread)
  simp only [run]
  cases predicate : predicateOf code with
  | constant allowed => rfl
  | code code' => simp only [eq_of_predicateOf predicate, runs]

end CompiledRule

end AccessRules
