import AccessRules.Code.Compile
import AccessRules.Proofs.Code.Lowering
import AccessRules.Proofs.Code.Vocabulary

/-!
# What can be compiled

A tree can be compiled if it is well scoped: it assigns to no name that is taken, reads no name that
stands for nothing, and calls nothing but the cross reference function and the methods. This is said
of all the expressions in a tree, without going over the tree as the compiler does. An assignment to
a name that is taken is reported before anything else.
-/

namespace AccessRules

namespace Expr

/-- Whether an expression is the name of the cross reference function. -/
def isCrossReference : Expr → Bool
  | .ident name => name == crossReferenceName
  | _ => false

mutual

/-- All expressions in a tree, each before what it is put together from, in the order of the source.
The name of the cross reference function is no expression of its own where that is called. -/
def parts : Expr → List Expr
  | .literal value => [.literal value]
  | .array items => .array items :: allParts items
  | .ident name => [.ident name]
  | .member object name => .member object name :: object.parts
  | .index object key => .index object key :: (object.parts ++ key.parts)
  | .call callee arguments =>
      .call callee arguments ::
        ((if callee.isCrossReference then [] else callee.parts) ++ allParts arguments)
  | .unary op operand => .unary op operand :: operand.parts
  | .binary op left right => .binary op left right :: (left.parts ++ right.parts)
  | .conditional test consequent alternate =>
      .conditional test consequent alternate ::
        (test.parts ++ (consequent.parts ++ alternate.parts))
  | .assign target value => .assign target value :: value.parts

/-- All expressions in several trees. -/
def allParts : List Expr → List Expr
  | [] => []
  | first :: rest => first.parts ++ allParts rest

end

/-- The name that an expression assigns to, if it is an assignment. -/
def target? : Expr → Option String
  | .assign target _ => some target
  | _ => none

/-- The names that are assigned to in a tree, in the order of the source. -/
def targets (tree : Expr) : List String :=
  tree.parts.filterMap target?

/-- The names that are assigned to in several trees. -/
def allTargets (trees : List Expr) : List String :=
  (allParts trees).filterMap target?

/-- A name that is taken, so that nothing can be assigned to it. -/
inductive Reserved (pathNames : List String) : String → Prop where
  | crossReference : Reserved pathNames crossReferenceName
  | builtin {name : String} (among : name ∈ Vocabulary.builtins.map Prod.fst) :
      Reserved pathNames name
  | pathVariable {name : String} (among : name ∈ pathNames) : Reserved pathNames name

/-- A name that stands for something, if these names are assigned. -/
inductive Known (pathNames assigned : List String) : String → Prop where
  | builtin {name : String} (among : name ∈ Vocabulary.builtins.map Prod.fst) :
      Known pathNames assigned name
  | pathVariable {name : String} (among : name ∈ pathNames) : Known pathNames assigned name
  | assigned {name : String} (among : name ∈ assigned) : Known pathNames assigned name

/-- A call that rules may make: of the cross reference function with one argument, or of a method by
its name with as many as it takes. -/
inductive Callable : Expr → List Expr → Prop where
  | crossReference (argument : Expr) : Callable (.ident crossReferenceName) [argument]
  | method (object : Expr) {name : String} {called : Method} {arguments : List Expr}
      (among : (name, called, arguments.length) ∈ Vocabulary.methods) :
      Callable (.member object name) arguments

/-- A tree is well scoped under a path with these variables. -/
structure WellScoped (pathNames : List String) (tree : Expr) : Prop where
  /-- No assignment in it is to a name that is taken. -/
  targets : ∀ target value, .assign target value ∈ tree.parts → ¬ Reserved pathNames target
  /-- Every name in it is a builtin, a variable of the path or assigned to in the tree. -/
  names : ∀ name, .ident name ∈ tree.parts → Known pathNames tree.targets name
  /-- Every call in it is one that rules may make. -/
  calls : ∀ callee arguments, .call callee arguments ∈ tree.parts → Callable callee arguments

theorem mem_targets {tree : Expr} {target : String} :
    target ∈ tree.targets ↔ ∃ value, .assign target value ∈ tree.parts := by
  rw [targets, List.mem_filterMap]
  constructor
  · rintro ⟨part, among, assigns⟩
    cases part <;> cases assigns
    exact ⟨_, among⟩
  · rintro ⟨value, among⟩
    exact ⟨_, among, rfl⟩

/-! ### The targets of a tree -/

theorem targets_call (callee : Expr) (arguments : List Expr) :
    targets (.call callee arguments) = callee.targets ++ allTargets arguments := by
  -- The name of the cross reference function assigns to nothing.
  have same : (if callee.isCrossReference then [] else callee.parts).filterMap target?
      = callee.targets := by
    split
    · cases callee <;> first | rfl | contradiction
    · rfl
  rw [targets, parts, List.filterMap_cons_none rfl, List.filterMap_append, same]
  rfl

end Expr

namespace Code

open AccessRules.Expr

theorem isReserved_iff {pathNames : List String} {name : String} :
    isReserved pathNames name = true ↔ Reserved pathNames name := by
  rw [isReserved, Bool.or_eq_true, Bool.or_eq_true, beq_iff_eq, List.contains_iff_mem,
    Option.isSome_iff_exists, ← Vocabulary.mem_builtins_iff]
  constructor
  · rintro ((rfl | among) | among)
    · exact .crossReference
    · exact .builtin among
    · exact .pathVariable among
  · rintro (_ | among | among)
    · exact .inl (.inl rfl)
    · exact .inl (.inr among)
    · exact .inr among

theorem mem_addName {name other : String} {names : List String} :
    other ∈ addName name names ↔ other = name ∨ other ∈ names := by
  rw [addName]
  split
  · next already =>
    refine ⟨.inr, ?_⟩
    rintro (rfl | among)
    · exact List.contains_iff_mem.mp already
    · exact among
  · rw [List.mem_append, List.mem_singleton, or_comm]

/-- The names with a further target, unless that is taken. -/
def noteTarget (pathNames names : List String) (target : String) :
    Except CompileError (List String) :=
  if isReserved pathNames target then .error (.invalidAssignment target)
  else .ok (addName target names)

mutual

/-- Collecting goes over the targets in the order of the source. -/
theorem collectNames_eq (pathNames : List String) :
    ∀ (tree : Expr) (names : List String),
      collectNames pathNames names tree = tree.targets.foldlM (noteTarget pathNames) names
  | .literal _, _ => rfl
  | .ident _, _ => rfl
  | .array items, names => by
      rw [collectNames, collectAllNames_eq]
      rfl
  | .member object _, names => by
      rw [collectNames, collectNames_eq]
      rfl
  | .index object key, names => by
      have split : targets (.index object key) = object.targets ++ key.targets :=
        List.filterMap_append
      simp only [collectNames, collectNames_eq pathNames object, collectNames_eq pathNames key,
        split, List.foldlM_append]
  | .call callee arguments, names => by
      simp only [collectNames, collectNames_eq pathNames callee,
        collectAllNames_eq pathNames arguments, targets_call, List.foldlM_append]
  | .unary _ operand, names => by
      rw [collectNames, collectNames_eq]
      rfl
  | .binary op left right, names => by
      have split : targets (.binary op left right) = left.targets ++ right.targets :=
        List.filterMap_append
      simp only [collectNames, collectNames_eq pathNames left, collectNames_eq pathNames right,
        split, List.foldlM_append]
  | .conditional test consequent alternate, names => by
      have split : targets (.conditional test consequent alternate)
          = test.targets ++ (consequent.targets ++ alternate.targets) := by
        rw [targets, parts, List.filterMap_cons_none rfl, List.filterMap_append,
          List.filterMap_append]
        rfl
      simp only [collectNames, collectNames_eq pathNames test,
        collectNames_eq pathNames consequent, collectNames_eq pathNames alternate, split,
        List.foldlM_append]
  | .assign target value, names => by
      have first : targets (.assign target value) = target :: value.targets := rfl
      rw [collectNames, first, List.foldlM_cons, noteTarget]
      split
      · rfl
      · exact collectNames_eq pathNames value _

/-- The same for several trees. -/
theorem collectAllNames_eq (pathNames : List String) :
    ∀ (trees : List Expr) (names : List String),
      collectAllNames pathNames names trees = (allTargets trees).foldlM (noteTarget pathNames) names
  | [], _ => rfl
  | first :: rest, names => by
      have split : allTargets (first :: rest) = first.targets ++ allTargets rest :=
        List.filterMap_append
      simp only [collectAllNames, collectNames_eq pathNames first,
        collectAllNames_eq pathNames rest, split, List.foldlM_append]

end

/-- Targets that are not taken are all collected, and nothing else is. -/
theorem foldlM_noteTarget_eq_ok {pathNames : List String} :
    ∀ {targets : List String} (names : List String),
      (∀ target ∈ targets, ¬ Reserved pathNames target) → ∃ collected,
        targets.foldlM (noteTarget pathNames) names = .ok collected
        ∧ ∀ name, name ∈ collected ↔ name ∈ names ∨ name ∈ targets
  | [], names, _ => ⟨names, rfl, by simp⟩
  | target :: targets, names, free => by
      obtain ⟨isFree, free⟩ := List.forall_mem_cons.mp free
      obtain ⟨collected, collects, mem_collected⟩ :=
        foldlM_noteTarget_eq_ok (addName target names) free
      refine ⟨collected, ?_, ?_⟩
      · rw [List.foldlM_cons, noteTarget, if_neg (mt isReserved_iff.mp isFree)]
        exact collects
      · intro name
        rw [mem_collected, mem_addName, List.mem_cons, or_comm (a := name = target), or_assoc]

/-- The first target that is taken is reported. -/
theorem foldlM_noteTarget_eq_error {pathNames : List String} {offending : String}
    {behind : List String} (reserved : Reserved pathNames offending) :
    ∀ {before names : List String}, (∀ target ∈ before, ¬ Reserved pathNames target) →
      (before ++ offending :: behind).foldlM (noteTarget pathNames) names
        = .error (.invalidAssignment offending)
  | [], names, _ => by
      rw [List.nil_append, List.foldlM_cons, noteTarget, if_pos (isReserved_iff.mpr reserved)]
      rfl
  | target :: before, names, free => by
      obtain ⟨isFree, free⟩ := List.forall_mem_cons.mp free
      rw [List.cons_append, List.foldlM_cons, noteTarget, if_neg (mt isReserved_iff.mp isFree)]
      exact foldlM_noteTarget_eq_error reserved free

/-! ### Lowering -/

theorem isSome_position?_iff {name : String} {names : List String} :
    (position? name names).isSome = true ↔ name ∈ names := by
  rw [position?, List.findIdx?_isSome, List.any_eq_true]
  simp only [beq_iff_eq, exists_eq_right]

/-- A name is resolved if it stands for something. -/
theorem exists_resolve_iff {scope : Scope} {name : String} :
    (∃ code, resolve scope name = .ok code) ↔ Known scope.pathNames scope.names name := by
  constructor
  · rintro ⟨code, resolves⟩
    rw [resolve] at resolves
    split at resolves
    · next stands => exact .builtin (Vocabulary.mem_builtins_iff.mpr ⟨_, stands⟩)
    · split at resolves
      · next stands => exact .pathVariable (isSome_position?_iff.mp (by rw [stands]; rfl))
      · split at resolves
        · next stands => exact .assigned (isSome_position?_iff.mp (by rw [stands]; rfl))
        · split at resolves <;> cases resolves
  · intro known
    rw [resolve]
    split
    · exact ⟨_, rfl⟩
    · next noBuiltin =>
      split
      · exact ⟨_, rfl⟩
      · next noVariable =>
        split
        · exact ⟨_, rfl⟩
        · next noName =>
          rw [← Option.not_isSome_iff_eq_none, isSome_position?_iff] at noVariable noName
          cases known with
          | builtin among =>
              obtain ⟨_, stands⟩ := Vocabulary.mem_builtins_iff.mp among
              rw [noBuiltin] at stands
              cases stands
          | pathVariable among => exact absurd among noVariable
          | assigned among => exact absurd among noName

/-- What lowering asks of one expression, whatever that is put together from. -/
inductive Lowerable (scope : Scope) : Expr → Prop where
  | literal (value : Value) : Lowerable scope (.literal value)
  | array (items : List Expr) : Lowerable scope (.array items)
  | ident {name : String} (known : Known scope.pathNames scope.names name) :
      Lowerable scope (.ident name)
  | member (object : Expr) (name : String) : Lowerable scope (.member object name)
  | index (object key : Expr) : Lowerable scope (.index object key)
  | call {callee : Expr} {arguments : List Expr} (callable : Callable callee arguments) :
      Lowerable scope (.call callee arguments)
  | unary (op : UnaryOp) (operand : Expr) : Lowerable scope (.unary op operand)
  | binary (op : BinaryOp) (left right : Expr) : Lowerable scope (.binary op left right)
  | conditional (test consequent alternate : Expr) :
      Lowerable scope (.conditional test consequent alternate)
  | assign {target : String} (value : Expr) (among : target ∈ scope.names) :
      Lowerable scope (.assign target value)

mutual

/-- What can be lowered has nothing in it that cannot. -/
theorem Lowers.lowerable {scope : Scope} :
    ∀ {tree : Expr} {code : Code}, Lowers scope tree code →
      ∀ part ∈ tree.parts, Lowerable scope part
  | _, _, .literal value => List.forall_mem_singleton.mpr (.literal value)
  | _, _, .array lowersItems => List.forall_mem_cons.mpr ⟨.array _, lowersItems.lowerable⟩
  | _, _, .ident resolves =>
      List.forall_mem_singleton.mpr (.ident (exists_resolve_iff.mp ⟨_, resolves⟩))
  | _, _, .member name lowersObject =>
      List.forall_mem_cons.mpr ⟨.member _ name, lowersObject.lowerable⟩
  | _, _, .index lowersObject lowersKey => List.forall_mem_cons.mpr
      ⟨.index _ _, List.forall_mem_append.mpr ⟨lowersObject.lowerable, lowersKey.lowerable⟩⟩
  | _, _, .crossReference lowersArgument => by
      rw [parts]
      exact List.forall_mem_cons.mpr ⟨.call (.crossReference _),
        List.forall_mem_append.mpr ⟨List.forall_mem_nil _,
          List.forall_mem_append.mpr ⟨lowersArgument.lowerable, List.forall_mem_nil _⟩⟩⟩
  | _, _, .method isMethod arity lowersObject lowersArguments => by
      have isNamed := Vocabulary.ofName?_eq_some_iff.mp isMethod
      rw [parts]
      exact List.forall_mem_cons.mpr
        ⟨.call (.method _ (Vocabulary.mem_methods_iff.mpr ⟨isNamed, arity⟩)),
        List.forall_mem_append.mpr ⟨List.forall_mem_cons.mpr ⟨.member _ _, lowersObject.lowerable⟩,
          lowersArguments.lowerable⟩⟩
  | _, _, .unary op lowersOperand => List.forall_mem_cons.mpr ⟨.unary op _, lowersOperand.lowerable⟩
  | _, _, .binary op lowersLeft lowersRight => List.forall_mem_cons.mpr
      ⟨.binary op _ _, List.forall_mem_append.mpr ⟨lowersLeft.lowerable, lowersRight.lowerable⟩⟩
  | _, _, .conditional lowersTest lowersConsequent lowersAlternate => List.forall_mem_cons.mpr
      ⟨.conditional _ _ _, List.forall_mem_append.mpr ⟨lowersTest.lowerable,
        List.forall_mem_append.mpr ⟨lowersConsequent.lowerable, lowersAlternate.lowerable⟩⟩⟩
  | _, _, .assign stands lowersValue => List.forall_mem_cons.mpr
      ⟨.assign _ (isSome_position?_iff.mp (by rw [stands]; rfl)), lowersValue.lowerable⟩

/-- The same for several trees. -/
theorem LowersAll.lowerable {scope : Scope} :
    ∀ {trees : List Expr} {codes : List Code}, LowersAll scope trees codes →
      ∀ part ∈ allParts trees, Lowerable scope part
  | _, _, .nil => List.forall_mem_nil _
  | _, _, .cons lowersFirst lowersRest =>
      List.forall_mem_append.mpr ⟨lowersFirst.lowerable, lowersRest.lowerable⟩

end

mutual

/-- What has nothing in it that cannot be lowered is lowered. -/
theorem exists_lower {scope : Scope} :
    ∀ {tree : Expr}, (∀ part ∈ tree.parts, Lowerable scope part) →
      ∃ code, lower scope tree = .ok code
  | .literal value, _ => ⟨.literal value, by rw [lower]⟩
  | .array items, lowerable => by
      obtain ⟨_, inside⟩ := List.forall_mem_cons.mp lowerable
      obtain ⟨items', lowered⟩ := exists_lowerAll inside
      exact ⟨.array items', by rw [lower, lowered]; rfl⟩
  | .ident name, lowerable => by
      cases List.forall_mem_singleton.mp lowerable with
      | ident known =>
          obtain ⟨code, resolves⟩ := exists_resolve_iff.mpr known
          exact ⟨code, by rw [lower, resolves]⟩
  | .member object name, lowerable => by
      obtain ⟨_, inside⟩ := List.forall_mem_cons.mp lowerable
      obtain ⟨object', lowered⟩ := exists_lower inside
      exact ⟨.member object' name, by rw [lower, lowered]; rfl⟩
  | .index object key, lowerable => by
      obtain ⟨_, inside⟩ := List.forall_mem_cons.mp lowerable
      obtain ⟨inObject, inKey⟩ := List.forall_mem_append.mp inside
      obtain ⟨object', loweredObject⟩ := exists_lower inObject
      obtain ⟨key', loweredKey⟩ := exists_lower inKey
      exact ⟨.index object' key', by rw [lower, loweredObject, loweredKey]; rfl⟩
  | .call callee arguments, lowerable => by
      rw [parts] at lowerable
      obtain ⟨isCall, inside⟩ := List.forall_mem_cons.mp lowerable
      obtain ⟨inCallee, inArguments⟩ := List.forall_mem_append.mp inside
      cases isCall with
      | call callable =>
          cases callable with
          | crossReference argument =>
              obtain ⟨inArgument, _⟩ := List.forall_mem_append.mp inArguments
              obtain ⟨argument', lowered⟩ := exists_lower inArgument
              exact ⟨.crossReference argument', by rw [lower, if_pos rfl, lowered]; rfl⟩
          | @method object name called _ among =>
              obtain ⟨_, inObject⟩ := List.forall_mem_cons.mp inCallee
              obtain ⟨object', loweredObject⟩ := exists_lower inObject
              obtain ⟨arguments', loweredArguments⟩ := exists_lowerAll inArguments
              obtain ⟨isNamed, arity⟩ := Vocabulary.mem_methods_iff.mp among
              have isMethod := Vocabulary.ofName?_eq_some_iff.mpr isNamed
              refine ⟨.method object' called arguments', ?_⟩
              simp only [lower, isMethod, if_pos arity, loweredObject, loweredArguments]
              rfl
  | .unary op operand, lowerable => by
      obtain ⟨_, inside⟩ := List.forall_mem_cons.mp lowerable
      obtain ⟨operand', lowered⟩ := exists_lower inside
      exact ⟨.unary op operand', by rw [lower, lowered]; rfl⟩
  | .binary op left right, lowerable => by
      obtain ⟨_, inside⟩ := List.forall_mem_cons.mp lowerable
      obtain ⟨inLeft, inRight⟩ := List.forall_mem_append.mp inside
      obtain ⟨left', loweredLeft⟩ := exists_lower inLeft
      obtain ⟨right', loweredRight⟩ := exists_lower inRight
      exact ⟨.binary op left' right', by rw [lower, loweredLeft, loweredRight]; rfl⟩
  | .conditional test consequent alternate, lowerable => by
      obtain ⟨_, inside⟩ := List.forall_mem_cons.mp lowerable
      obtain ⟨inTest, inside⟩ := List.forall_mem_append.mp inside
      obtain ⟨inConsequent, inAlternate⟩ := List.forall_mem_append.mp inside
      obtain ⟨test', loweredTest⟩ := exists_lower inTest
      obtain ⟨consequent', loweredConsequent⟩ := exists_lower inConsequent
      obtain ⟨alternate', loweredAlternate⟩ := exists_lower inAlternate
      refine ⟨.conditional test' consequent' alternate', ?_⟩
      rw [lower, loweredTest, loweredConsequent, loweredAlternate]
      rfl
  | .assign target value, lowerable => by
      obtain ⟨isAssign, inside⟩ := List.forall_mem_cons.mp lowerable
      obtain ⟨value', lowered⟩ := exists_lower inside
      cases isAssign with
      | assign _ among =>
          obtain ⟨place, stands⟩ := Option.isSome_iff_exists.mp (isSome_position?_iff.mpr among)
          exact ⟨.assign place value', by simp only [lower, stands, lowered]; rfl⟩

/-- The same for several trees. -/
theorem exists_lowerAll {scope : Scope} :
    ∀ {trees : List Expr}, (∀ part ∈ allParts trees, Lowerable scope part) →
      ∃ codes, lowerAll scope trees = .ok codes
  | [], _ => ⟨[], by rw [lowerAll]⟩
  | first :: rest, lowerable => by
      obtain ⟨inFirst, inRest⟩ := List.forall_mem_append.mp lowerable
      obtain ⟨first', loweredFirst⟩ := exists_lower inFirst
      obtain ⟨rest', loweredRest⟩ := exists_lowerAll inRest
      exact ⟨first' :: rest', by rw [lowerAll, loweredFirst, loweredRest]; rfl⟩

end

end Code

namespace CompiledRule

open AccessRules.Expr

/-- Compiling a tree under a path with these variables tells the well-scoped ones from the others. -/
structure AcceptsScoped (source : String) (pathNames : List String) (tree : Expr) : Prop where
  /-- Accepted are the trees that are well scoped. -/
  accepts_iff : (∃ rule, ofExpr source pathNames tree = .ok rule) ↔ tree.WellScoped pathNames
  /-- If any name is assigned to that is taken, the first one is reported, whatever else is wrong. -/
  reports : ∀ target ∈ tree.targets, Reserved pathNames target →
    ∃ before first behind, tree.targets = before ++ first :: behind
      ∧ (∀ earlier ∈ before, ¬ Reserved pathNames earlier) ∧ Reserved pathNames first
      ∧ ofExpr source pathNames tree = .error (.invalidAssignment first)

theorem exists_first_reserved {pathNames targets : List String} {target : String}
    (among : target ∈ targets) (reserved : Reserved pathNames target) :
    ∃ before first behind, targets = before ++ first :: behind
      ∧ (∀ earlier ∈ before, ¬ Reserved pathNames earlier) ∧ Reserved pathNames first := by
  obtain ⟨first, found⟩ := Option.isSome_iff_exists.mp
    (List.find?_isSome.mpr ⟨target, among, Code.isReserved_iff.mpr reserved⟩)
  obtain ⟨isReserved, before, behind, split, free⟩ := List.find?_eq_some_iff_append.mp found
  refine ⟨before, first, behind, split, ?_, Code.isReserved_iff.mp isReserved⟩
  intro earlier member taken
  have isFree := free earlier member
  rw [Code.isReserved_iff.mpr taken] at isFree
  cases isFree

/-- With a first target that is taken, collecting fails, and nothing comes of what follows. -/
theorem ofExpr_eq_error {source : String} {pathNames before behind : List String} {tree : Expr}
    {first : String} (split : tree.targets = before ++ first :: behind)
    (free : ∀ earlier ∈ before, ¬ Reserved pathNames earlier)
    (reserved : Reserved pathNames first) :
    ofExpr source pathNames tree = .error (.invalidAssignment first) := by
  rw [ofExpr, Code.collectNames_eq, split, Code.foldlM_noteTarget_eq_error reserved free]
  rfl

theorem exists_ofExpr {source : String} {pathNames : List String} {tree : Expr}
    (wellScoped : tree.WellScoped pathNames) : ∃ rule, ofExpr source pathNames tree = .ok rule := by
  have free : ∀ target ∈ tree.targets, ¬ Reserved pathNames target := by
    intro target member
    obtain ⟨value, among⟩ := mem_targets.mp member
    exact wellScoped.targets target value among
  obtain ⟨names, collects, mem_names⟩ := Code.foldlM_noteTarget_eq_ok [] free
  rw [← Code.collectNames_eq] at collects
  have lowerable : ∀ part ∈ tree.parts, Code.Lowerable ⟨pathNames, names⟩ part := by
    intro part among
    cases part with
    | ident name =>
        refine .ident ?_
        cases wellScoped.names name among with
        | builtin among => exact .builtin among
        | pathVariable member => exact .pathVariable member
        | assigned member => exact .assigned ((mem_names name).mpr (.inr member))
    | call callee arguments => exact .call (wellScoped.calls callee arguments among)
    | assign target value =>
        exact .assign value ((mem_names target).mpr (.inr (mem_targets.mpr ⟨value, among⟩)))
    | literal | array | member | index | unary | binary | conditional => constructor
  obtain ⟨code, lowered⟩ := Code.exists_lower lowerable
  exact ⟨_, by rw [ofExpr, collects, bind_eq_ok_iff]; exact ⟨_, rfl, by rw [lowered]; rfl⟩⟩

theorem wellScoped_of_ofExpr {source : String} {pathNames : List String} {tree : Expr}
    {rule : CompiledRule} (compiles : ofExpr source pathNames tree = .ok rule) :
    tree.WellScoped pathNames := by
  have free : ∀ target ∈ tree.targets, ¬ Reserved pathNames target := by
    intro target member reserved
    obtain ⟨before, first, behind, split, freeBefore, taken⟩ :=
      exists_first_reserved member reserved
    rw [ofExpr_eq_error split freeBefore taken] at compiles
    cases compiles
  obtain ⟨names, code, collects, lowers, _⟩ := exists_of_ofExpr compiles
  obtain ⟨names', collects', mem_names⟩ := Code.foldlM_noteTarget_eq_ok [] free
  rw [← Code.collectNames_eq, collects] at collects'
  cases collects'
  refine ⟨?targets, ?known, ?calls⟩
  case targets =>
    intro target value among
    exact free target (mem_targets.mpr ⟨value, among⟩)
  case known =>
    intro name among
    cases lowers.lowerable _ among with
    | ident known =>
        cases known with
        | builtin among => exact .builtin among
        | pathVariable member => exact .pathVariable member
        | assigned member => exact .assigned (((mem_names name).mp member).resolve_left (by simp))
  case calls =>
    intro callee arguments among
    cases lowers.lowerable _ among with
    | call callable => exact callable

/-- Exactly the well-scoped trees are compiled, and names that are taken are reported first. -/
theorem ofExpr_acceptsScoped (source : String) (pathNames : List String) (tree : Expr) :
    AcceptsScoped source pathNames tree where
  accepts_iff := ⟨fun ⟨_, compiles⟩ => wellScoped_of_ofExpr compiles, exists_ofExpr⟩
  reports := by
    intro target member reserved
    obtain ⟨before, first, behind, split, free, taken⟩ := exists_first_reserved member reserved
    exact ⟨before, first, behind, split, free, taken, ofExpr_eq_error split free taken⟩

end CompiledRule

end AccessRules
