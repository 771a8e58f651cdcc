import AccessRules.Expr.Parser
import AccessRules.Json.Basic

/-!
# The source of a rule

A rule is declared as a boolean or as the text of an expression.
-/

namespace AccessRules

/-- A rule as it is declared. -/
inductive RuleSource where
  | fixed (allowed : Bool)
  | expression (source : String)
deriving DecidableEq, Repr

/-- Why the text of a rule is refused before it is compiled. -/
inductive RuleError where
  | notAString
  | empty
  | newKeyword
  | userFunction
  | unsupportedFunction (name : String)
  | invalidSyntax (error : Expr.SyntaxError)
  | oldDataNotSupported (kind ruleType : String)
  | dataNotSupported (kind ruleType : String)
deriving DecidableEq, Repr

/-- The message of a rule error. -/
def RuleError.message : RuleError → String
  | .notAString => "rule must be a string"
  | .empty => "rule can't be empty"
  | .newKeyword => "rule can't contain the new keyword"
  | .userFunction => "rule can't contain user functions"
  | .unsupportedFunction name => "function " ++ name ++ " is not supported"
  | .invalidSyntax error => error.message
  | .oldDataNotSupported kind ruleType =>
      "rule " ++ ruleType ++ " for " ++ kind ++ " does not support oldData"
  | .dataNotSupported kind ruleType =>
      "rule " ++ ruleType ++ " for " ++ kind ++ " does not support data"

namespace RuleSource

/-- The rule a JSON value declares. -/
def ofJson : Json → Except RuleError RuleSource
  | .bool allowed => .ok (.fixed allowed)
  | .string source => .ok (.expression source)
  | _ => .error .notAString

/-- The text of a rule. -/
def text : RuleSource → String
  | .fixed allowed => if allowed then "true" else "false"
  | .expression source => source

end RuleSource

end AccessRules
