import AccessRules.Code.Context
import AccessRules.Code.Method

/-!
# Running rules

One run goes over the whole code. A cross reference to a record that is not loaded is noted and
reads as `undefined`, and the run goes on, so that it notes all it can; while anything is noted,
neither its value nor its error is final. Once the noted records are loaded the rule is run again
from the start.
-/

namespace AccessRules

/-- The state of a run: the rule's own slots, and the records it needs in the order in which it
first asked for them. -/
structure Run where
  slots : List Value
  needed : List String

/-- A step of a run. What it has noted stays noted when it fails. -/
abbrev Step (α : Type) := ExceptT EvalError (StateM Run) α

namespace Step

/-- The step that is this result. -/
def ofExcept {α : Type} (result : Except EvalError α) : Step α :=
  ExceptT.mk (pure result)

/-- What a slot reads as. -/
def readSlot (index : Nat) : Step Value := do
  return ((← get).slots[index]?).getD .undefined

/-- Puts a value into a slot. -/
def writeSlot (index : Nat) (value : Value) : Step Unit :=
  modify fun run => { run with slots := run.slots.set index value }

/-- Notes a record as needed, once. -/
def need (name : String) : Step Unit :=
  modify fun run =>
    if run.needed.contains name then run else { run with needed := run.needed ++ [name] }

/-- The word that keeps a name from being looked up: a name put together from a missing value holds
it. -/
def placeholder : String := "undefined"

/-- The record an argument names. -/
def crossReference (context : Context) : Value → Step Value
  | .undefined => pure .undefined
  | .string name =>
      if Text.includes placeholder.toList name.toList then pure .undefined
      else
        match context.records name with
        | some data => pure data
        | none => do
            need name
            pure .undefined
  | .null => throw (.crossReferenceType "object")
  | other => throw (.crossReferenceType other.typeName)

end Step

namespace Code

mutual

/-- Runs code. Operands are evaluated from left to right; conditions and the operators `&&` and `||`
evaluate only what they need. -/
def evaluate (context : Context) : Code → Step Value
  | .literal value => pure value
  | .array items => do return .array (← evaluateAll context items)
  | .builtin read => pure (context.builtin read)
  | .pathVariable position => pure (context.pathVariable position)
  | .slot place => Step.readSlot place
  | .member object name => do
      let target ← evaluate context object
      Step.ofExcept (target.property name)
  | .index object key => do
      let target ← evaluate context object
      let key ← evaluate context key
      Step.ofExcept (target.property key.toText)
  | .crossReference argument => do
      let argument ← evaluate context argument
      Step.crossReference context argument
  | .method receiver called arguments => do
      let receiver ← evaluate context receiver
      let arguments ← evaluateAll context arguments
      Step.ofExcept (receiver.callMethod called (arguments.head?.getD .undefined))
  | .unary op operand => do return Value.applyUnary op (← evaluate context operand)
  | .binary .and left right => do
      let left ← evaluate context left
      if left.truthy then evaluate context right else pure left
  | .binary .or left right => do
      let left ← evaluate context left
      if left.truthy then pure left else evaluate context right
  | .binary op left right => do
      let left ← evaluate context left
      let right ← evaluate context right
      return Value.applyBinary op left right
  | .conditional test consequent alternate => do
      let test ← evaluate context test
      if test.truthy then evaluate context consequent else evaluate context alternate
  | .assign place value => do
      let value ← evaluate context value
      Step.writeSlot place value
      return value

/-- Runs several codes, one after the other. -/
def evaluateAll (context : Context) : List Code → Step (List Value)
  | [] => pure []
  | first :: rest => do
      let first ← evaluate context first
      return first :: (← evaluateAll context rest)

end

end Code

/-- The outcome of one run. -/
inductive Outcome where
  | done (value : Value)
  | needs (names : List String)
  | failed (error : EvalError)

/-- Whether the action is allowed, if the outcome is a value. -/
def Outcome.allowed? : Outcome → Option Bool
  | .done value => some value.truthy
  | .needs _ => none
  | .failed _ => none

namespace CompiledRule

/-- One run of a rule. -/
def run (rule : CompiledRule) (context : Context) : Outcome :=
  match rule.predicate with
  | .constant allowed => .done (.bool allowed)
  | .code code =>
      let start : Run := ⟨List.replicate rule.slots .undefined, []⟩
      let (result, final) := (code.evaluate context).run.run start
      if final.needed.isEmpty then
        match result with
        | .ok value => .done value
        | .error error => .failed error
      else .needs final.needed

end CompiledRule

end AccessRules
