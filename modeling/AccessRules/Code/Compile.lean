import AccessRules.Code.Basic
import AccessRules.Expr.Display
import AccessRules.Expr.Parser

/-!
# Compiling rules

First all targets of assignments are collected, in the order of the source; then every name is
resolved. A builtin wins over a variable of the path, and that one over an assigned name.
-/

namespace AccessRules

/-- Why a source cannot be compiled. -/
inductive CompileError where
  | invalidSyntax (error : Expr.SyntaxError)
  | undefinedIdentifier (name : String)
  | unsupportedCall (callee : String)
  | arity (function : String) (expected found : Nat)
  | invalidAssignment (target : String)
  | bareCrossReference

/-- The message of a compile error. -/
def CompileError.message : CompileError → String
  | .invalidSyntax error => error.message
  | .undefinedIdentifier name => "ReferenceError: " ++ name ++ " is not defined"
  | .unsupportedCall callee => "function " ++ callee ++ " is not supported"
  | .arity function expected found =>
      "function " ++ function ++ s!" expects {expected} argument(s), got {found}"
  | .invalidAssignment target => "can't assign to " ++ target
  | .bareCrossReference => "cross reference function _ can only be called"

namespace Code

/-- Whether a name cannot be assigned to. -/
def isReserved (pathNames : List String) (name : String) : Bool :=
  name == crossReferenceName || (Builtin.ofName? name).isSome || pathNames.contains name

/-- The names with a further one, unless it is among them. -/
def addName (name : String) (names : List String) : List String :=
  if names.contains name then names else names ++ [name]

mutual

/-- The assigned names of a tree, after those found before it, each once and in the order of the
source. -/
def collectNames (pathNames : List String) (names : List String) :
    Expr → Except CompileError (List String)
  | .literal _ => .ok names
  | .ident _ => .ok names
  | .array items => collectAllNames pathNames names items
  | .member object _ => collectNames pathNames names object
  | .index object key => do
      let names ← collectNames pathNames names object
      collectNames pathNames names key
  | .call callee arguments => do
      let names ← collectNames pathNames names callee
      collectAllNames pathNames names arguments
  | .unary _ operand => collectNames pathNames names operand
  | .binary _ left right => do
      let names ← collectNames pathNames names left
      collectNames pathNames names right
  | .conditional test consequent alternate => do
      let names ← collectNames pathNames names test
      let names ← collectNames pathNames names consequent
      collectNames pathNames names alternate
  | .assign target value =>
      if isReserved pathNames target then .error (.invalidAssignment target)
      else collectNames pathNames (addName target names) value

/-- The assigned names of several trees. -/
def collectAllNames (pathNames : List String) (names : List String) :
    List Expr → Except CompileError (List String)
  | [] => .ok names
  | first :: rest => do
      let names ← collectNames pathNames names first
      collectAllNames pathNames names rest

end

/-- The names a rule can use besides the builtins: the variables of its path, by position, and the
names it assigns. -/
structure Scope where
  pathNames : List String
  names : List String

/-- The first position of a name. -/
def position? (name : String) (names : List String) : Option Nat :=
  names.findIdx? (· == name)

/-- What a name stands for. -/
def resolve (scope : Scope) (name : String) : Except CompileError Code :=
  match Builtin.ofName? name with
  | some found => .ok (.builtin found)
  | none =>
      match position? name scope.pathNames with
      | some position => .ok (.pathVariable position)
      | none =>
          match position? name scope.names with
          | some place => .ok (.slot place)
          | none =>
              if name = crossReferenceName then .error .bareCrossReference
              else .error (.undefinedIdentifier name)

mutual

/-- The code of a tree. -/
def lower (scope : Scope) : Expr → Except CompileError Code
  | .literal value => .ok (.literal value)
  | .array items => do return .array (← lowerAll scope items)
  | .ident name => resolve scope name
  | .member object name => do return .member (← lower scope object) name
  | .index object key => do
      let object ← lower scope object
      return .index object (← lower scope key)
  | .call (.ident name) arguments =>
      if name = crossReferenceName then
        match arguments with
        | [argument] => do return .crossReference (← lower scope argument)
        | arguments => .error (.arity crossReferenceName 1 arguments.length)
      else .error (.unsupportedCall name)
  | .call (.member object name) arguments =>
      match Method.ofName? name with
      | none => .error (.unsupportedCall (Expr.member object name).display)
      | some called =>
          if arguments.length = called.arity then do
            let receiver ← lower scope object
            return .method receiver called (← lowerAll scope arguments)
          else .error (.arity called.name called.arity arguments.length)
  | .call callee _ => .error (.unsupportedCall callee.display)
  | .unary op operand => do return .unary op (← lower scope operand)
  | .binary op left right => do
      let left ← lower scope left
      return .binary op left (← lower scope right)
  | .conditional test consequent alternate => do
      let test ← lower scope test
      let consequent ← lower scope consequent
      return .conditional test consequent (← lower scope alternate)
  | .assign target value =>
      match position? target scope.names with
      | none => .error (.invalidAssignment target)
      | some place => do return .assign place (← lower scope value)

/-- The code of several trees. -/
def lowerAll (scope : Scope) : List Expr → Except CompileError (List Code)
  | [] => .ok []
  | first :: rest => do
      let first ← lower scope first
      return first :: (← lowerAll scope rest)

end

end Code

namespace CompiledRule

/-- What a rule with this code decides by. -/
def predicateOf : Code → Predicate
  | .literal value => .constant value.truthy
  | code => .code code

/-- The rule of a tree under a path with these variables. -/
def ofExpr (source : String) (pathNames : List String) (tree : Expr) :
    Except CompileError CompiledRule := do
  let names ← Code.collectNames pathNames [] tree
  let code ← Code.lower ⟨pathNames, names⟩ tree
  return {
    source := source
    predicate := predicateOf code
    readsData := tree.references "data"
    readsOldData := tree.references "oldData"
    slots := names.length }

/-- The rule a source is under a path with these variables. -/
def compile (source : String) (pathNames : List String) : Except CompileError CompiledRule :=
  match Expr.parse source with
  | .error error => .error (.invalidSyntax error)
  | .ok tree => ofExpr source pathNames tree

end CompiledRule

end AccessRules
