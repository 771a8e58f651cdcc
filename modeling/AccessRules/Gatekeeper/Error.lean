import AccessRules.Code.Compile
import AccessRules.Code.Method
import AccessRules.Kind
import AccessRules.Rule.Source
import AccessRules.Store

/-!
# Errors of decisions

Why no decision could be reached. What has no decision is not allowed.
-/

namespace AccessRules

/-- Why a message has no `data` for its rule. -/
inductive DataError where
  /-- A patch of this record says not where. -/
  | missingPath (name : String)
  /-- The payload is not valid JSON. -/
  | invalidPayload
  /-- A patch is for a record that does not exist. -/
  | missingRecord (name : String)
  /-- A patch leads to a position that is too high. -/
  | positionOutOfRange (index : Nat)
deriving DecidableEq, Repr

/-- The reason for missing `data`. -/
def DataError.reason : DataError → String
  | .missingPath name => "missing path for record patch " ++ name
  | .invalidPayload => withheldReason
  | .missingRecord name => "Tried to apply patch to non-existant record " ++ name
  | .positionOutOfRange index => "patch index " ++ toString index ++ " is out of range"

/-- Why no decision could be reached. -/
inductive DecisionError where
  | unmappedAction (topic : Topic) (action : Action)
  | ruleValidation (error : RuleError)
  | compile (error : CompileError)
  | iterationLimit
  | evaluation (name source : String) (error : EvalError)
  | dependencyFetch (record : String) (error : StorageError)
  | messageData (error : DataError)
  /-- The decision took longer than this many milliseconds. -/
  | timeout (limit : Nat)

/-- Digits without the zeros at their end. -/
def trimZeros (digits : List Char) : List Char :=
  (digits.reverse.dropWhile (· == '0')).reverse

/-- A number of milliseconds below a thousand as the decimal places of a second, as few as will do.
-/
def secondPlaces (milliseconds : Nat) : String :=
  let digits := toString (1000 + milliseconds)
  match trimZeros (digits.toList.drop 1) with
  | [] => ""
  | places => "." ++ String.ofList places

/-- The text of a duration: seconds with the places they need if there is a whole one, and else
milliseconds, and `0ns` for none. -/
def durationText (milliseconds : Nat) : String :=
  if milliseconds = 0 then "0ns"
  else if milliseconds < 1000 then toString milliseconds ++ "ms"
  else toString (milliseconds / 1000) ++ secondPlaces (milliseconds % 1000) ++ "s"

/-- The message of a decision error. -/
def DecisionError.message : DecisionError → String
  | .unmappedAction topic action =>
      "no permission rule type for " ++ action.name ++ " messages on topic " ++ topic.name
  | .ruleValidation error => error.message
  | .compile error => error.message
  | .iterationLimit => "Exceeded max iteration count"
  | .evaluation name source error =>
      "error when executing " ++ source ++ " for " ++ name ++ ": " ++ error.message
  | .dependencyFetch record error =>
      "failed to load record " ++ record ++ " for permissioning: " ++ error.message
  | .messageData error => "error when converting message data " ++ error.reason
  | .timeout limit => "permission evaluation timed out after " ++ durationText limit

end AccessRules
