import AccessRules.Expr.Basic

/-!
# Compiled rules

In a compiled rule every name has been resolved: to a slot of the context, to a position among the
variables of the path, or to a slot of the rule's own. Calls have become one of the two forms that
rules may use, cross references and methods.
-/

namespace AccessRules

/-- What every rule can read. -/
inductive Builtin where
  | user
  | authData
  | data
  | oldData
  | now
  | action
  | name
deriving DecidableEq, Repr

/-- The builtin under a name. -/
def Builtin.ofName? : String → Option Builtin
  | "user" => some .user
  | "authData" => some .authData
  | "data" => some .data
  | "oldData" => some .oldData
  | "now" => some .now
  | "action" => some .action
  | "name" => some .name
  | _ => none

/-- The methods that rules may call on strings and arrays. -/
inductive Method where
  | startsWith
  | endsWith
  | includes
  | indexOf
  | matchPattern
  | toUpperCase
  | toLowerCase
  | trim
deriving DecidableEq, Repr

namespace Method

/-- Every method. -/
def all : List Method :=
  [.startsWith, .endsWith, .includes, .indexOf, .matchPattern, .toUpperCase, .toLowerCase, .trim]

/-- The name a method is called by. -/
def name : Method → String
  | .startsWith => "startsWith"
  | .endsWith => "endsWith"
  | .includes => "includes"
  | .indexOf => "indexOf"
  | .matchPattern => "match"
  | .toUpperCase => "toUpperCase"
  | .toLowerCase => "toLowerCase"
  | .trim => "trim"

/-- The method under a name. -/
def ofName? (name : String) : Option Method :=
  all.find? fun method => method.name == name

/-- The number of arguments a method takes. -/
def arity : Method → Nat
  | .startsWith => 1
  | .endsWith => 1
  | .includes => 1
  | .indexOf => 1
  | .matchPattern => 1
  | .toUpperCase => 0
  | .toLowerCase => 0
  | .trim => 0

end Method

/-- The name of the cross reference function. -/
def crossReferenceName : String := "_"

/-- An expression with its names resolved. -/
inductive Code where
  | literal (value : Value)
  | array (items : List Code)
  | builtin (builtin : Builtin)
  /-- The variable of the path at a position. -/
  | pathVariable (position : Nat)
  /-- A slot of the rule's own. -/
  | slot (index : Nat)
  | member (object : Code) (name : String)
  | index (object key : Code)
  | crossReference (argument : Code)
  | method (receiver : Code) (method : Method) (arguments : List Code)
  | unary (op : UnaryOp) (operand : Code)
  | binary (op : BinaryOp) (left right : Code)
  | conditional (test consequent alternate : Code)
  | assign (slot : Nat) (value : Code)

instance : Inhabited Code := ⟨.literal .undefined⟩

/-- What a compiled rule decides by: a rule that is a literal is decided once for all. -/
inductive Predicate where
  | constant (allowed : Bool)
  | code (code : Code)

/-- A compiled rule with its source. -/
structure CompiledRule where
  source : String
  predicate : Predicate
  /-- Whether the source reads `data`. -/
  readsData : Bool
  /-- Whether the source reads `oldData`. -/
  readsOldData : Bool
  /-- The number of slots of the rule's own. -/
  slots : Nat

/-- The decision of a rule that is decided once for all. -/
def CompiledRule.constant? (rule : CompiledRule) : Option Bool :=
  match rule.predicate with
  | .constant allowed => some allowed
  | .code _ => none

end AccessRules
