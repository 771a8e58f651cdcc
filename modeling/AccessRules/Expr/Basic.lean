import AccessRules.Value.Basic

/-!
# Rule expressions

The tree a rule's source is read as. Names are still plain text here: what they stand for depends on
the path the rule is declared under.
-/

namespace AccessRules

/-- The operators with one operand. -/
inductive UnaryOp where
  | not
  | negate
  | plus
deriving DecidableEq, Repr

/-- The operators with two operands. -/
inductive BinaryOp where
  | multiply
  | divide
  | remainder
  | add
  | subtract
  | less
  | lessOrEqual
  | greater
  | greaterOrEqual
  | strictEqual
  | strictUnequal
  | looseEqual
  | looseUnequal
  | and
  | or
deriving DecidableEq, Repr

/-- A rule expression. -/
inductive Expr where
  | literal (value : Value)
  | array (items : List Expr)
  | ident (name : String)
  /-- The property `object.name`. -/
  | member (object : Expr) (name : String)
  /-- The property `object[key]`. -/
  | index (object key : Expr)
  | call (callee : Expr) (arguments : List Expr)
  | unary (op : UnaryOp) (operand : Expr)
  | binary (op : BinaryOp) (left right : Expr)
  | conditional (test consequent alternate : Expr)
  | assign (target : String) (value : Expr)

namespace Expr

instance : Inhabited Expr := ⟨.literal .undefined⟩

mutual

/-- Whether the bare identifier is read anywhere in the tree. Property names, the contents of
strings and the targets of assignments are no reads. -/
def references (name : String) : Expr → Bool
  | .literal _ => false
  | .array items => anyReferences name items
  | .ident other => other == name
  | .member object _ => object.references name
  | .index object key => object.references name || key.references name
  | .call callee arguments => callee.references name || anyReferences name arguments
  | .unary _ operand => operand.references name
  | .binary _ left right => left.references name || right.references name
  | .conditional test consequent alternate =>
      test.references name || consequent.references name || alternate.references name
  | .assign _ value => value.references name

/-- Whether one of the trees reads the identifier. -/
def anyReferences (name : String) : List Expr → Bool
  | [] => false
  | first :: rest => first.references name || anyReferences name rest

end

mutual

/-- The number of operations in a tree: everything but literals and identifiers. -/
def operations : Expr → Nat
  | .literal _ => 0
  | .array items => allOperations items + 1
  | .ident _ => 0
  | .member object _ => object.operations + 1
  | .index object key => object.operations + key.operations + 1
  | .call callee arguments => callee.operations + allOperations arguments + 1
  | .unary _ operand => operand.operations + 1
  | .binary _ left right => left.operations + right.operations + 1
  | .conditional test consequent alternate =>
      test.operations + consequent.operations + alternate.operations + 1
  | .assign _ value => value.operations + 1

/-- The operations of several trees together. -/
def allOperations : List Expr → Nat
  | [] => 0
  | first :: rest => first.operations + allOperations rest

end

end Expr

end AccessRules
