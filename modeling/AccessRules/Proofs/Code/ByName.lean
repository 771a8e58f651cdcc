import AccessRules.Code.Evaluate
import AccessRules.Proofs.Code.Lowering
import AccessRules.Proofs.Code.Records
import AccessRules.Proofs.Code.Vocabulary

/-!
# Rules by name

The meaning of a source tree without compiling it: names are looked up as they are met, and the
assigned ones read as the last value that was assigned to them in the run. A compiled rule does the
same with slots and positions, whatever it is run on.
-/

namespace AccessRules

/-! ### The meaning of a tree -/

/-- The state of a run by name: what has been assigned, and the records that are needed in the order
in which they were first asked for. -/
structure NamedRun where
  assigned : String → Value
  needed : List String

/-- The run in which nothing has happened. What is not assigned reads as `undefined`. -/
def NamedRun.start : NamedRun := ⟨fun _ => .undefined, []⟩

/-- A step of a run by name. -/
abbrev NamedStep (α : Type) := ExceptT EvalError (StateM NamedRun) α

namespace NamedStep

/-- The step that is this result. -/
def ofExcept {α : Type} (result : Except EvalError α) : NamedStep α :=
  ExceptT.mk (pure result)

/-- What a name stands for: a builtin, else the variable at the first position of the name among
those of the path, else what was assigned to it last. -/
def read (pathNames : List String) (context : Context) (name : String) : NamedStep Value := do
  let run ← get
  match Vocabulary.builtins.lookup name with
  | some read => return read context
  | none =>
      if name ∈ pathNames then return context.pathVariable (pathNames.idxOf name)
      else return run.assigned name

/-- Assigns a value to a name. -/
def assign (name : String) (value : Value) : NamedStep Unit :=
  modify fun run =>
    { run with assigned := fun other => if other = name then value else run.assigned other }

/-- Notes a record as needed, unless it is noted already. -/
def need (name : String) : NamedStep Unit :=
  modify fun run =>
    if name ∈ run.needed then run else { run with needed := run.needed ++ [name] }

/-- The record an argument names: `undefined` if the argument is missing or put together from a
missing value, and for as long as the record is not loaded. -/
def record (context : Context) : Value → NamedStep Value
  | .string name =>
      if Text.includes Step.placeholder.toList name.toList then pure .undefined
      else
        match context.records name with
        | some data => pure data
        | none => do
            need name
            return .undefined
  | .undefined => pure .undefined
  | .null => throw (.crossReferenceType "object")
  | other => throw (.crossReferenceType other.typeName)

/-- Nothing else than methods and the cross reference function can be called. -/
def notCallable (callee : Expr) : NamedStep Value :=
  throw (.notAFunction callee.display Value.undefined.typeName)

end NamedStep

/-- Whether an operator does not look at its right operand with this value on its left. -/
def Value.decidesAlone (left : Value) : BinaryOp → Bool
  | .and => !left.truthy
  | .or => left.truthy
  | _ => false

namespace Expr

mutual

/-- The meaning of a tree under a path with these variables. -/
def interpret (pathNames : List String) (context : Context) : Expr → NamedStep Value
  | .literal value => pure value
  | .array items => do return .array (← interpretAll pathNames context items)
  | .ident name => NamedStep.read pathNames context name
  | .member object name => do
      let target ← interpret pathNames context object
      NamedStep.ofExcept (target.property name)
  | .index object key => do
      let target ← interpret pathNames context object
      let key ← interpret pathNames context key
      NamedStep.ofExcept (target.property key.toText)
  | .call (.ident name) [argument] =>
      if name = crossReferenceName then do
        let argument ← interpret pathNames context argument
        NamedStep.record context argument
      else NamedStep.notCallable (.ident name)
  | .call (.member object name) arguments =>
      match Vocabulary.methods.lookup name with
      | some (called, _) => do
          let receiver ← interpret pathNames context object
          let arguments ← interpretAll pathNames context arguments
          NamedStep.ofExcept (receiver.callMethod called (arguments.head?.getD .undefined))
      | none => NamedStep.notCallable (.member object name)
  | .call callee _ => NamedStep.notCallable callee
  | .unary op operand => do return Value.applyUnary op (← interpret pathNames context operand)
  | .binary op left right => do
      let left ← interpret pathNames context left
      if left.decidesAlone op then return left
      else do
        let right ← interpret pathNames context right
        return Value.applyBinary op left right
  | .conditional test consequent alternate => do
      let test ← interpret pathNames context test
      if test.truthy then interpret pathNames context consequent
      else interpret pathNames context alternate
  | .assign target value => do
      let value ← interpret pathNames context value
      NamedStep.assign target value
      return value

/-- The meanings of several trees, one after the other. -/
def interpretAll (pathNames : List String) (context : Context) : List Expr → NamedStep (List Value)
  | [] => pure []
  | first :: rest => do
      let first ← interpret pathNames context first
      return first :: (← interpretAll pathNames context rest)

end

end Expr

/-- What a run comes to that ends so: while records are needed neither value nor error counts. -/
def Outcome.ofEnd (result : Except EvalError Value) (needed : List String) : Outcome :=
  if needed.isEmpty then
    match result with
    | .ok value => .done value
    | .error error => .failed error
  else .needs needed

/-- The outcome of one run of a tree by name. -/
def Expr.runByName (pathNames : List String) (context : Context) (tree : Expr) : Outcome :=
  let (result, final) := (tree.interpret pathNames context).run.run .start
  .ofEnd result final.needed

/-! ### Slots and names -/

namespace Code

/-- A position is that of one name only. -/
theorem eq_of_position? {name other : String} {names : List String} {place : Nat}
    (stands : position? name names = some place) (standsToo : position? other names = some place) :
    other = name := by
  obtain ⟨_, same, _⟩ := List.findIdx?_eq_some_iff_getElem.mp stands
  obtain ⟨_, sameToo, _⟩ := List.findIdx?_eq_some_iff_getElem.mp standsToo
  simp only [beq_iff_eq] at same sameToo
  exact sameToo.symm.trans same

theorem lt_of_position? {name : String} {names : List String} {place : Nat}
    (stands : position? name names = some place) : place < names.length :=
  (List.findIdx?_eq_some_iff_getElem.mp stands).choose

/-- The position of a name is the first one at which it stands. -/
theorem position?_eq (name : String) (names : List String) :
    position? name names = if name ∈ names then some (names.idxOf name) else none := by
  split
  · rename_i member
    exact List.findIdx?_eq_some_iff_findIdx_eq.mpr ⟨List.idxOf_lt_length_iff.mpr member, rfl⟩
  · rename_i missing
    rw [position?, List.findIdx?_eq_none_iff]
    intro other member
    rw [beq_eq_false_iff_ne]
    rintro rfl
    exact missing member

end Code

/-- A run with slots and one by name are in the same state: the slot of a name holds what is
assigned to the name, and the same records are needed. -/
structure Run.Agrees (names : List String) (run : Run) (named : NamedRun) : Prop where
  needed : run.needed = named.needed
  slots : ∀ {name : String} {place : Nat}, Code.position? name names = some place →
    run.slots[place]? = some (named.assigned name)

/-- With every slot `undefined` nothing is assigned. -/
theorem Run.agrees_start (names : List String) :
    Run.Agrees names ⟨List.replicate names.length .undefined, []⟩ .start := by
  refine ⟨rfl, ?_⟩
  intro name place stands
  rw [List.getElem?_replicate, if_pos (Code.lt_of_position? stands)]
  rfl

/-- Writing to the slot of a name is assigning to the name. -/
theorem Run.Agrees.assign {names : List String} {run : Run} {named : NamedRun}
    (agrees : run.Agrees names named) {target : String} {place : Nat}
    (stands : Code.position? target names = some place) (value : Value) :
    Run.Agrees names { run with slots := run.slots.set place value }
      { named with
        assigned := fun other => if other = target then value else named.assigned other } := by
  refine ⟨agrees.needed, ?_⟩
  intro other place' stands'
  have held := agrees.slots stands'
  by_cases same : other = target
  · subst same
    rw [stands] at stands'
    cases stands'
    obtain ⟨inside, _⟩ := List.getElem?_eq_some_iff.mp held
    simp only [List.getElem?_set_self inside, if_true]
  · have apart : place ≠ place' := by
      rintro rfl
      exact same (Code.eq_of_position? stands stands')
    simp only [List.getElem?_set_ne apart, held, same, if_false]

/-- From states that agree both steps give the same result, and lead to states that agree. -/
def Step.Simulates {α : Type} (names : List String) (step : Step α) (named : NamedStep α) : Prop :=
  ∀ (run : Run) (namedRun : NamedRun), run.Agrees names namedRun →
    (step.run.run run).1 = (named.run.run namedRun).1
      ∧ Run.Agrees names (step.run.run run).2 (named.run.run namedRun).2

namespace Step.Simulates

variable {α β : Type} {names : List String}

theorem pure (value : α) : Simulates names (Pure.pure value) (Pure.pure value) :=
  fun _ _ agrees => ⟨rfl, agrees⟩

theorem throw (error : EvalError) :
    Simulates names (MonadExcept.throw error : Step α) (MonadExcept.throw error) :=
  fun _ _ agrees => ⟨rfl, agrees⟩

theorem ofExcept (result : Except EvalError α) :
    Simulates names (Step.ofExcept result) (NamedStep.ofExcept result) :=
  fun _ _ agrees => ⟨rfl, agrees⟩

theorem bind {step : Step α} {named : NamedStep α} {next : α → Step β} {next' : α → NamedStep β}
    (first : Simulates names step named)
    (second : ∀ value, Simulates names (next value) (next' value)) :
    Simulates names (step >>= next) (named >>= next') := by
  intro run namedRun agrees
  obtain ⟨same, agrees'⟩ := first run namedRun agrees
  rw [run_bind, run_bind]
  obtain ⟨result, after, ran⟩ : ∃ result after, step.run.run run = (result, after) := ⟨_, _, rfl⟩
  obtain ⟨result', after', ran'⟩ : ∃ result' after', named.run.run namedRun = (result', after') :=
    ⟨_, _, rfl⟩
  rw [ran, ran'] at same agrees'
  simp only [ran, ran']
  simp only at same
  subst same
  cases result with
  | ok value => exact second value after after' agrees'
  | error error => exact ⟨rfl, agrees'⟩

theorem ite {condition : Bool} {first second : Step α} {first' second' : NamedStep α}
    (holds : condition = true → Simulates names first first')
    (fails : condition = false → Simulates names second second') :
    Simulates names (if condition then first else second)
      (if condition then first' else second') := by
  cases condition with
  | true => exact holds rfl
  | false => exact fails rfl

theorem readSlot {context : Context} {pathNames : List String} {name : String} {place : Nat}
    (noBuiltin : Vocabulary.builtins.lookup name = none) (noVariable : name ∉ pathNames)
    (stands : Code.position? name names = some place) :
    Simulates names (Step.readSlot place) (NamedStep.read pathNames context name) := by
  intro run namedRun agrees
  have read : (NamedStep.read pathNames context name).run.run namedRun
      = (.ok (namedRun.assigned name), namedRun) := by
    simp only [NamedStep.read, noBuiltin, noVariable, if_false]
    rfl
  have readToo : (Step.readSlot place).run.run run
      = (.ok ((run.slots[place]?).getD .undefined), run) := rfl
  rw [read, readToo, agrees.slots stands]
  exact ⟨rfl, agrees⟩

theorem writeSlot {target : String} {place : Nat}
    (stands : Code.position? target names = some place) (value : Value) :
    Simulates names (Step.writeSlot place value) (NamedStep.assign target value) :=
  fun _ _ agrees => ⟨rfl, agrees.assign stands value⟩

theorem need (name : String) : Simulates names (Step.need name) (NamedStep.need name) := by
  intro run namedRun agrees
  refine ⟨rfl, ?_⟩
  change Run.Agrees names
    (if run.needed.contains name then run else { run with needed := run.needed ++ [name] })
    (if name ∈ namedRun.needed then namedRun
      else { namedRun with needed := namedRun.needed ++ [name] })
  rw [← agrees.needed]
  simp only [List.contains_iff_mem]
  split
  · exact agrees
  · exact ⟨rfl, agrees.slots⟩

theorem crossReference (context : Context) (argument : Value) :
    Simulates names (Step.crossReference context argument) (NamedStep.record context argument) := by
  cases argument with
  | string name =>
      simp only [Step.crossReference, NamedStep.record]
      refine .ite (fun _ => .pure _) fun _ => ?_
      cases context.records name with
      | some data => exact .pure data
      | none => exact .bind (.need name) fun _ => .pure _
  | undefined => exact .pure _
  | null | bool | number | array | object => exact .throw _

end Step.Simulates

namespace Code

variable {names pathNames : List String}

/-- A name that is resolved reads as the name. -/
theorem resolve_simulates {name : String} {code : Code}
    (resolves : resolve ⟨pathNames, names⟩ name = .ok code) (context : Context) :
    Step.Simulates names (evaluate context code) (NamedStep.read pathNames context name) := by
  rw [resolve] at resolves
  split at resolves
  · rename_i builtin isBuiltin
    cases resolves
    simp only [evaluate, NamedStep.read, Vocabulary.lookup_builtins, isBuiltin, Option.map_some]
    exact fun _ _ agrees => ⟨rfl, agrees⟩
  · rename_i isOther
    have noBuiltin : Vocabulary.builtins.lookup name = none := by
      rw [Vocabulary.lookup_builtins, isOther, Option.map_none]
    simp only [position?_eq name pathNames] at resolves
    by_cases isVariable : name ∈ pathNames
    · simp only [isVariable, if_true] at resolves
      cases resolves
      simp only [evaluate, NamedStep.read, noBuiltin, isVariable, if_true]
      exact fun _ _ agrees => ⟨rfl, agrees⟩
    · simp only [isVariable, if_false] at resolves
      split at resolves
      · rename_i place stands
        cases resolves
        simp only [evaluate]
        exact .readSlot noBuiltin isVariable stands
      · split at resolves
        · cases resolves
        · cases resolves

/-- Operators evaluate their right operand unless the left one decides alone. -/
theorem evaluate_binary_eq (context : Context) (op : BinaryOp) (left right : Code) :
    evaluate context (.binary op left right) = do
      let left ← evaluate context left
      if left.decidesAlone op then return left
      else do
        let right ← evaluate context right
        return Value.applyBinary op left right := by
  by_cases isAnd : op = .and
  · subst isAnd
    simp only [evaluate]
    refine bind_congr fun left => ?_
    cases truth : left.truthy <;> simp [Value.decidesAlone, Value.applyBinary, truth]
  by_cases isOr : op = .or
  · subst isOr
    simp only [evaluate]
    refine bind_congr fun left => ?_
    cases truth : left.truthy <;> simp [Value.decidesAlone, Value.applyBinary, truth]
  have looks (value : Value) : value.decidesAlone op = false := by
    cases op <;> simp_all [Value.decidesAlone]
  rw [evaluate_binary context isAnd isOr]
  simp only [looks, Bool.false_eq_true, if_false]

mutual

/-- Code does with slots and positions what its tree does by name. -/
theorem evaluate_simulates (context : Context) :
    ∀ {tree : Expr} {code : Code}, Lowers ⟨pathNames, names⟩ tree code →
      Step.Simulates names (evaluate context code) (tree.interpret pathNames context)
  | _, _, .literal value => by
      simp only [evaluate, Expr.interpret]
      exact .pure value
  | _, _, .array lowersItems => by
      simp only [evaluate, Expr.interpret]
      exact .bind (evaluateAll_simulates context lowersItems) fun _ => .pure _
  | _, _, .ident resolves => by
      simp only [Expr.interpret]
      exact resolve_simulates resolves context
  | _, _, .member name lowersObject => by
      simp only [evaluate, Expr.interpret]
      exact .bind (evaluate_simulates context lowersObject) fun _ => .ofExcept _
  | _, _, .index lowersObject lowersKey => by
      simp only [evaluate, Expr.interpret]
      exact .bind (evaluate_simulates context lowersObject) fun _ =>
        .bind (evaluate_simulates context lowersKey) fun _ => .ofExcept _
  | _, _, .crossReference lowersArgument => by
      simp only [evaluate, Expr.interpret, if_true]
      exact .bind (evaluate_simulates context lowersArgument) fun _ => .crossReference context _
  | _, _, .method isMethod _ lowersObject lowersArguments => by
      simp only [evaluate, Expr.interpret, Vocabulary.lookup_methods, isMethod, Option.map_some]
      exact .bind (evaluate_simulates context lowersObject) fun _ =>
        .bind (evaluateAll_simulates context lowersArguments) fun _ => .ofExcept _
  | _, _, .unary op lowersOperand => by
      simp only [evaluate, Expr.interpret]
      exact .bind (evaluate_simulates context lowersOperand) fun _ => .pure _
  | _, _, .binary op lowersLeft lowersRight => by
      rw [evaluate_binary_eq]
      simp only [Expr.interpret]
      exact .bind (evaluate_simulates context lowersLeft) fun _ => .ite (fun _ => .pure _) fun _ =>
        .bind (evaluate_simulates context lowersRight) fun _ => .pure _
  | _, _, .conditional lowersTest lowersConsequent lowersAlternate => by
      simp only [evaluate, Expr.interpret]
      exact .bind (evaluate_simulates context lowersTest) fun _ =>
        .ite (fun _ => evaluate_simulates context lowersConsequent)
          fun _ => evaluate_simulates context lowersAlternate
  | _, _, .assign stands lowersValue => by
      simp only [evaluate, Expr.interpret]
      exact .bind (evaluate_simulates context lowersValue) fun _ =>
        .bind (.writeSlot stands _) fun _ => .pure _

/-- The same for several codes, run one after the other. -/
theorem evaluateAll_simulates (context : Context) :
    ∀ {trees : List Expr} {codes : List Code}, LowersAll ⟨pathNames, names⟩ trees codes →
      Step.Simulates names (evaluateAll context codes) (Expr.interpretAll pathNames context trees)
  | _, _, .nil => by
      simp only [evaluateAll, Expr.interpretAll]
      exact .pure _
  | _, _, .cons lowersFirst lowersRest => by
      simp only [evaluateAll, Expr.interpretAll]
      exact .bind (evaluate_simulates context lowersFirst) fun _ =>
        .bind (evaluateAll_simulates context lowersRest) fun _ => .pure _

end

/-! ### Positions in range -/

mutual

/-- Whether code uses only so many slots, and only so many variables of the path. -/
def inRange (slots pathVariables : Nat) : Code → Bool
  | .literal _ => true
  | .array items => allInRange slots pathVariables items
  | .builtin _ => true
  | .pathVariable position => decide (position < pathVariables)
  | .slot place => decide (place < slots)
  | .member object _ => object.inRange slots pathVariables
  | .index object key => object.inRange slots pathVariables && key.inRange slots pathVariables
  | .crossReference argument => argument.inRange slots pathVariables
  | .method receiver _ arguments =>
      receiver.inRange slots pathVariables && allInRange slots pathVariables arguments
  | .unary _ operand => operand.inRange slots pathVariables
  | .binary _ left right => left.inRange slots pathVariables && right.inRange slots pathVariables
  | .conditional test consequent alternate =>
      test.inRange slots pathVariables && consequent.inRange slots pathVariables
        && alternate.inRange slots pathVariables
  | .assign place value => decide (place < slots) && value.inRange slots pathVariables

/-- Whether all of the codes do. -/
def allInRange (slots pathVariables : Nat) : List Code → Bool
  | [] => true
  | first :: rest => first.inRange slots pathVariables && allInRange slots pathVariables rest

end

theorem inRange_resolve {name : String} {code : Code}
    (resolves : resolve ⟨pathNames, names⟩ name = .ok code) :
    code.inRange names.length pathNames.length = true := by
  rw [resolve] at resolves
  split at resolves
  · cases resolves
    rfl
  · split at resolves
    · rename_i position stands
      cases resolves
      exact decide_eq_true (lt_of_position? stands)
    · split at resolves
      · rename_i place stands
        cases resolves
        exact decide_eq_true (lt_of_position? stands)
      · split at resolves
        · cases resolves
        · cases resolves

mutual

/-- No position in lowered code is out of range. -/
theorem inRange_of_lowers :
    ∀ {tree : Expr} {code : Code}, Lowers ⟨pathNames, names⟩ tree code →
      code.inRange names.length pathNames.length = true
  | _, _, .literal _ => by rw [inRange]
  | _, _, .array lowersItems => by
      rw [inRange]
      exact allInRange_of_lowersAll lowersItems
  | _, _, .ident resolves => inRange_resolve resolves
  | _, _, .member _ lowersObject => by
      rw [inRange]
      exact inRange_of_lowers lowersObject
  | _, _, .index lowersObject lowersKey => by
      rw [inRange, inRange_of_lowers lowersObject, inRange_of_lowers lowersKey]
      rfl
  | _, _, .crossReference lowersArgument => by
      rw [inRange]
      exact inRange_of_lowers lowersArgument
  | _, _, .method _ _ lowersObject lowersArguments => by
      rw [inRange, inRange_of_lowers lowersObject, allInRange_of_lowersAll lowersArguments]
      rfl
  | _, _, .unary _ lowersOperand => by
      rw [inRange]
      exact inRange_of_lowers lowersOperand
  | _, _, .binary _ lowersLeft lowersRight => by
      rw [inRange, inRange_of_lowers lowersLeft, inRange_of_lowers lowersRight]
      rfl
  | _, _, .conditional lowersTest lowersConsequent lowersAlternate => by
      rw [inRange, inRange_of_lowers lowersTest, inRange_of_lowers lowersConsequent,
        inRange_of_lowers lowersAlternate]
      rfl
  | _, _, .assign stands lowersValue => by
      rw [inRange, decide_eq_true (lt_of_position? stands), inRange_of_lowers lowersValue]
      rfl

/-- The same for several codes. -/
theorem allInRange_of_lowersAll :
    ∀ {trees : List Expr} {codes : List Code}, LowersAll ⟨pathNames, names⟩ trees codes →
      allInRange names.length pathNames.length codes = true
  | _, _, .nil => by rw [allInRange]
  | _, _, .cons lowersFirst lowersRest => by
      rw [allInRange, inRange_of_lowers lowersFirst, allInRange_of_lowersAll lowersRest]
      rfl

end

/-- Only a literal is lowered to one. -/
theorem eq_literal_of_lowers {tree : Expr} {value : Value}
    (lowers : Lowers ⟨pathNames, names⟩ tree (.literal value)) : tree = .literal value := by
  cases lowers with
  | literal => rfl
  | ident resolves =>
      rw [resolve] at resolves
      repeat' split at resolves
      all_goals cases resolves

end Code

/-! ### Compiled rules -/

namespace CompiledRule

/-- One run of a rule of its code comes to how evaluating it ends. -/
theorem run_eq_ofEnd {rule : CompiledRule} {code : Code} (predicate : rule.predicate = .code code)
    (context : Context) :
    rule.run context =
      .ofEnd ((code.evaluate context).run.run ⟨List.replicate rule.slots .undefined, []⟩).1
        ((code.evaluate context).run.run ⟨List.replicate rule.slots .undefined, []⟩).2.needed := by
  simp only [run, predicate]
  rfl

/-- A rule means what its tree does under a path with these variables. -/
structure Means (rule : CompiledRule) (pathNames : List String) (tree : Expr) : Prop where
  /-- Value, needed records and errors are the same, but for a rule that is no more than a literal.
  -/
  outcome : (∀ value, tree ≠ .literal value) → ∀ context : Context,
    rule.run context = tree.runByName pathNames context
  /-- What is allowed is the same for a literal, too. -/
  decision : ∀ context : Context,
    (rule.run context).allowed? = (tree.runByName pathNames context).allowed?
  /-- The code stays within the slots of the rule and the variables of the path. -/
  inRange : ∀ code, rule.predicate = .code code → code.inRange rule.slots pathNames.length = true

/-- A rule that is run by its code comes to what its tree comes to by name. -/
theorem run_eq_runByName {names pathNames : List String} {tree : Expr} {code : Code}
    (lowers : Code.Lowers ⟨pathNames, names⟩ tree code) {rule : CompiledRule}
    (predicate : rule.predicate = .code code) (slots : rule.slots = names.length)
    (context : Context) : rule.run context = tree.runByName pathNames context := by
  obtain ⟨same, agrees⟩ :=
    Code.evaluate_simulates context lowers _ _ (Run.agrees_start names)
  rw [run_eq_ofEnd predicate, slots, same, agrees.needed]
  rfl

/-- A constant rule is one whose code is a literal of that truth. -/
theorem exists_of_predicateOf {code : Code} {allowed : Bool}
    (predicate : predicateOf code = .constant allowed) :
    ∃ value, code = .literal value ∧ value.truthy = allowed := by
  unfold predicateOf at predicate
  split at predicate
  · rename_i value
    cases predicate
    exact ⟨value, rfl, rfl⟩
  · cases predicate

theorem Means.of_literal {rule : CompiledRule} {value : Value} {pathNames : List String}
    (predicate : rule.predicate = .constant value.truthy) :
    rule.Means pathNames (.literal value) := by
  refine ⟨?outcome, ?decision, ?inRange⟩
  case outcome =>
    intro noLiteral
    exact absurd rfl (noLiteral value)
  case decision =>
    intro context
    have byName : Expr.runByName pathNames context (.literal value) = .done value := rfl
    simp only [run, predicate, byName]
    rfl
  case inRange =>
    intro code isCode
    rw [predicate] at isCode
    cases isCode

/-- Compiling keeps the meaning of every tree that it accepts. -/
theorem means_of_ofExpr {source : String} {pathNames : List String} {tree : Expr}
    {rule : CompiledRule} (compiles : ofExpr source pathNames tree = .ok rule) :
    rule.Means pathNames tree := by
  obtain ⟨names, code, _, lowers, same⟩ := exists_of_ofExpr compiles
  have slots : rule.slots = names.length := congrArg CompiledRule.slots same
  have decides : rule.predicate = predicateOf code := congrArg CompiledRule.predicate same
  cases predicate : predicateOf code with
  | constant allowed =>
      obtain ⟨value, rfl, rfl⟩ := exists_of_predicateOf predicate
      cases Code.eq_literal_of_lowers lowers
      exact .of_literal (decides.trans predicate)
  | code code' =>
      cases eq_of_predicateOf predicate
      have outcome := run_eq_runByName lowers (decides.trans predicate) slots
      refine ⟨fun _ => outcome, ?decision, ?inRange⟩
      case decision =>
        intro context
        rw [outcome]
      case inRange =>
        intro code' isCode
        rw [decides, predicate] at isCode
        cases isCode
        rw [slots]
        exact Code.inRange_of_lowers lowers

/-- The tree of `(owner = _(room = 'room/' + $id).owner) && room !== owner && owner`. -/
def ownerTree : Expr :=
  .binary .and
    (.binary .and
      (.assign "owner" (.member (.call (.ident "_") [.assign "room"
        (.binary .add (.literal (.string "room/")) (.ident "$id"))]) "owner"))
      (.binary .strictUnequal (.ident "room") (.ident "owner")))
    (.ident "owner")

/-- A context in which one room is loaded, under a path that has the same variable twice. -/
def roomContext : Context :=
  { Context.empty with pathValues := ["1", "2"] }.insertRecord "room/1"
    (.object [("owner", .string "ann")])

/-- Names are assigned inside operands, and the first of two variables of one name counts. -/
theorem means_ownerTree :
    ∃ rule, ofExpr "" ["$id", "$id"] ownerTree = .ok rule
      ∧ rule.run roomContext = ownerTree.runByName ["$id", "$id"] roomContext
      ∧ (ownerTree.runByName ["$id", "$id"] roomContext).allowed? = some true := by
  have accepted : (ofExpr "" ["$id", "$id"] ownerTree).toOption.isSome = true := by decide +kernel
  have allowed : (ownerTree.runByName ["$id", "$id"] roomContext).allowed? = some true := by
    decide +kernel
  cases compiles : ofExpr "" ["$id", "$id"] ownerTree with
  | error error =>
      rw [compiles] at accepted
      cases accepted
  | ok rule =>
      have means := means_of_ofExpr compiles
      refine ⟨rule, rfl, means.outcome ?_ roomContext, allowed⟩
      intro value literal
      cases literal

end CompiledRule

end AccessRules
