import AccessRules.Code.Basic
import AccessRules.Pattern.Parser
import AccessRules.Pattern.Search
import AccessRules.Text.Search
import AccessRules.Value.Comparison
import AccessRules.Value.Member

/-!
# Properties, methods and operators

The operations of a running rule on values. Those that can fail say why.
-/

namespace AccessRules

/-- The text that stands for a reason which is not part of this library's messages, such as what
exactly is wrong with a pattern or a document. -/
def withheldReason : String := "<reason>"

/-- Why a running rule fails. -/
inductive EvalError where
  /-- A property of `undefined` or `null`. -/
  | nullishProperty (property target : String)
  /-- A method that values of this type do not have. -/
  | notAFunction (method receiver : String)
  /-- A cross reference to something that is no name. -/
  | crossReferenceType (found : String)
  | invalidPattern (pattern : String)
deriving DecidableEq, Repr

/-- The message of an evaluation error. -/
def EvalError.message : EvalError → String
  | .nullishProperty property target =>
      "TypeError: Cannot read property '" ++ property ++ "' of " ++ target
  | .notAFunction method receiver =>
      "TypeError: " ++ receiver ++ "." ++ method ++ " is not a function"
  | .crossReferenceType found => "crossreference got unsupported type " ++ found
  | .invalidPattern pattern =>
      "SyntaxError: Invalid regular expression /" ++ pattern ++ "/: " ++ withheldReason

namespace Value

/-- The property of a value under a key. -/
def property (value : Value) (key : String) : Except EvalError Value :=
  match value.member? key with
  | some property => .ok property
  | none => .error (.nullishProperty key value.typeName)

/-- The result of a search as a position, -1 if there is none. -/
def ofPosition : Option Nat → Value
  | some position => .number (Float.ofNat position)
  | none => .number (-1)

/-- The match of a pattern in a text: the texts of the whole match and of its groups, a group that
took no part being `undefined`; `null` if there is no match. -/
def matchPattern (text pattern : String) : Except EvalError Value :=
  match Pattern.parse? pattern with
  | none => .error (.invalidPattern pattern)
  | some node =>
      match node.search? text with
      | none => .ok .null
      | some groups =>
          .ok (.array (groups.map fun group =>
            match group with
            | some text => .string text
            | none => .undefined))

/-- A method called on a string. -/
def callOnString (text : String) (method : Method) (argument : Value) : Except EvalError Value :=
  match method with
  | .startsWith => .ok (.bool (Text.startsWith argument.toText.toList text.toList))
  | .endsWith => .ok (.bool (Text.endsWith argument.toText.toList text.toList))
  | .includes => .ok (.bool (Text.includes argument.toText.toList text.toList))
  | .indexOf => .ok (ofPosition (Text.indexOf argument.toText.toList text.toList))
  | .matchPattern => matchPattern text argument.toText
  | .toUpperCase => .ok (.string (Text.toUpper text))
  | .toLowerCase => .ok (.string (Text.toLower text))
  | .trim => .ok (.string (Text.trim text))

/-- A method called on a value with its argument, if it takes one. -/
def callMethod (receiver : Value) (method : Method) (argument : Value) : Except EvalError Value :=
  match receiver, method with
  | .undefined, _ => .error (.nullishProperty method.name receiver.typeName)
  | .null, _ => .error (.nullishProperty method.name receiver.typeName)
  | .string text, method => callOnString text method argument
  | .array items, .includes => .ok (.bool (items.any (sameValue · argument)))
  | .array items, .indexOf => .ok (ofPosition (items.findIdx? (strictEquals · argument)))
  | receiver, method => .error (.notAFunction method.name receiver.typeName)

/-- Whether `+` joins texts when this value is on one of its sides. -/
def concatenates : Value → Bool
  | .string _ => true
  | .array _ => true
  | .object _ => true
  | _ => false

/-- The value of an operator with one operand. -/
def applyUnary (op : UnaryOp) (operand : Value) : Value :=
  match op with
  | .not => .bool (!operand.truthy)
  | .negate => .number (-operand.toNumber)
  | .plus => .number operand.toNumber

/-- The value of `+`: texts are joined, anything else is added. -/
def add (left right : Value) : Value :=
  if left.concatenates || right.concatenates then .string (left.toText ++ right.toText)
  else .number (left.toNumber + right.toNumber)

/-- The value of an operator whose operands have both been evaluated. -/
def applyBinary (op : BinaryOp) (left right : Value) : Value :=
  match op with
  | .multiply => .number (left.toNumber * right.toNumber)
  | .divide => .number (left.toNumber / right.toNumber)
  | .remainder => .number (Decimal.remainder left.toNumber right.toNumber)
  | .add => add left right
  | .subtract => .number (left.toNumber - right.toNumber)
  | .less => .bool (left.compare? right == some .lt)
  | .lessOrEqual => .bool (left.compare? right == some .lt || left.compare? right == some .eq)
  | .greater => .bool (left.compare? right == some .gt)
  | .greaterOrEqual => .bool (left.compare? right == some .gt || left.compare? right == some .eq)
  | .strictEqual => .bool (left.strictEquals right)
  | .strictUnequal => .bool (!left.strictEquals right)
  | .looseEqual => .bool (left.looseEquals right)
  | .looseUnequal => .bool (!left.looseEquals right)
  | .and => if left.truthy then right else left
  | .or => if left.truthy then left else right

end Value

end AccessRules
