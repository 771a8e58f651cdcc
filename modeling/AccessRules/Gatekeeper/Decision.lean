import AccessRules.Cache.Basic
import AccessRules.Code.Evaluate
import AccessRules.Gatekeeper.Lookup
import AccessRules.Message
import AccessRules.Patch
import AccessRules.Value.Document

/-!
# Deciding by a rule

A rule is run in the context of the message. While it needs records they are looked up and it is run
again, a limited number of times. The message's own record is looked up before the first run if the
rule reads it, or if it reads the outcome of a patch.
-/

namespace AccessRules

/-- A message with the user who sent it, the data of the login, and the time in milliseconds. -/
structure Request where
  user : String
  authData : Json
  message : Message
  now : Float

/-- A record as rules see it: `null` if it does not exist. -/
def recordValue : Option Json → Value
  | some data => .ofJson data
  | none => .null

namespace Message

/-- Whether the payload is what rules read as `data`. -/
def carriesData (message : Message) : Bool :=
  match message.topic, message.action with
  | .record, .update => true
  | .event, .emit => true
  | .rpc, .request => true
  | _, _ => false

/-- The document in the payload, or an error if it is not valid. -/
def document (message : Message) : Except DataError (Option Json) :=
  match message.payload? with
  | none => .ok none
  | some (some document) => .ok (some document)
  | some none => .error .invalidPayload

/-- What a patch makes of the record; without a payload it sets `null`. -/
def patched (message : Message) (own : Option Json) : Except DataError Json :=
  match message.path with
  | none => .error (.missingPath message.name)
  | some path =>
      match message.document with
      | .error error => .error error
      | .ok document =>
          match own with
          | none => .error (.missingRecord message.name)
          | some record =>
              match Patch.setPath record path (document.getD .null) with
              | .ok patched => .ok patched
              | .error index => .error (.positionOutOfRange index)

/-- What rules read as `data`, with the message's own record: the outcome of a patch, or the payload
of a message that carries data. -/
def ruleData (message : Message) (own : Option Json) : Except DataError Value :=
  if message.isPatch then (message.patched own).map Value.ofJson
  else if message.carriesData then
    message.document.map fun document => (document.map Value.ofJson).getD .undefined
  else .ok .undefined

end Message

namespace Decision

variable {σ : Type}

/-- The context of a message before any record is loaded. -/
def initialContext (request : Request) (template : Path.Template) : Context :=
  { Context.empty.withUser request.user (.ofJson request.authData) with
    now := .number request.now
    action := .string request.message.action.name
    name := .string request.message.name
    pathValues := (template.captures? request.message.name).getD [] }

/-- Whether a rule needs the message's own record from the start. -/
def readsOwnRecord (rule : CompiledRule) (message : Message) : Bool :=
  rule.readsOldData || (message.isPatch && rule.readsData)

/-- The context with `data` and `oldData`, so far as the rule reads them. -/
def bindData (rule : CompiledRule) (message : Message) (own : Option Json) (context : Context) :
    Except DataError Context := do
  let data ← if rule.readsData then message.ruleData own else .ok context.data
  return { context with
    data := data
    oldData := if rule.readsOldData then recordValue own else context.oldData }

/-- The same as a part of a decision. -/
def bindDataOrFail (rule : CompiledRule) (message : Message) (own : Option Json)
    (context : Context) : Deciding σ Context :=
  .ofExcept ((bindData rule message own context).mapError .messageData)

/-- The context of the first run. -/
def prepare [RecordStore σ] (timing : Timing) (request : Request) (cached : CachedRule) :
    Deciding σ Context := do
  let message := request.message
  let context := initialContext request cached.template
  if readsOwnRecord cached.rule message then do
    let own ← Deciding.fetch timing message.name
    bindDataOrFail cached.rule message own (context.insertRecord message.name (recordValue own))
  else bindDataOrFail cached.rule message none context

/-- Looks up records and loads them into the context. -/
def loadAll [RecordStore σ] (timing : Timing) : List String → Context → Deciding σ Context
  | [], context => pure context
  | name :: names, context => do
      let data ← Deciding.fetch timing name
      loadAll timing names (context.insertRecord name (recordValue data))

/-- Runs a rule at most a number of times until it comes to an end, loading what it needs after each
run. -/
def settle [RecordStore σ] (timing : Timing) (name : String) (rule : CompiledRule) :
    Nat → Context → Deciding σ Bool
  | 0, _ => throw .iterationLimit
  | runs + 1, context =>
      match rule.run context with
      | .done value => pure value.truthy
      | .failed error => throw (.evaluation name rule.source error)
      | .needs names => do
          let context ← loadAll timing names context
          settle timing name rule runs context

/-- The decision of a rule on a request. Constant rules are not run, and need nothing. -/
def byRule [RecordStore σ] (timing : Timing) (maxRuns : Nat) (request : Request)
    (cached : CachedRule) : Deciding σ Bool :=
  match cached.rule.constant? with
  | some allowed => pure allowed
  | none => do
      let context ← prepare timing request cached
      settle timing request.message.name cached.rule maxRuns context

end Decision

end AccessRules
