import AccessRules.Expr.Basic
import AccessRules.Value.Text

/-!
# The text of an expression

Every operator with its operands stands in parentheses, so the text shows the tree. String literals
are quoted but not escaped.
-/

namespace AccessRules

/-- The symbol of an operator. -/
def UnaryOp.symbol : UnaryOp → String
  | .not => "!"
  | .negate => "-"
  | .plus => "+"

/-- The symbol of an operator. -/
def BinaryOp.symbol : BinaryOp → String
  | .multiply => "*"
  | .divide => "/"
  | .remainder => "%"
  | .add => "+"
  | .subtract => "-"
  | .less => "<"
  | .lessOrEqual => "<="
  | .greater => ">"
  | .greaterOrEqual => ">="
  | .strictEqual => "==="
  | .strictUnequal => "!=="
  | .looseEqual => "=="
  | .looseUnequal => "!="
  | .and => "&&"
  | .or => "||"

namespace Expr

mutual

/-- The fully parenthesised text of a tree. -/
def display : Expr → String
  | .literal value => value.display
  | .array items => "[" ++ String.intercalate ", " (displays items) ++ "]"
  | .ident name => name
  | .member object name => object.display ++ "." ++ name
  | .index object key => object.display ++ "[" ++ key.display ++ "]"
  | .call callee arguments =>
      callee.display ++ "(" ++ String.intercalate ", " (displays arguments) ++ ")"
  | .unary op operand => "(" ++ op.symbol ++ operand.display ++ ")"
  | .binary op left right => "(" ++ left.display ++ " " ++ op.symbol ++ " " ++ right.display ++ ")"
  | .conditional test consequent alternate =>
      "(" ++ test.display ++ " ? " ++ consequent.display ++ " : " ++ alternate.display ++ ")"
  | .assign target value => "(" ++ target ++ " = " ++ value.display ++ ")"

/-- The texts of several trees. -/
def displays : List Expr → List String
  | [] => []
  | first :: rest => first.display :: displays rest

end

end Expr

end AccessRules
