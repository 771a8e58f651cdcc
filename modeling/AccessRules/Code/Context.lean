import AccessRules.Code.Basic

/-!
# The context of a rule

What a rule can read while it runs: the builtins, the variables of the path by position, and the
records that have been loaded. What is not given reads as `undefined`; a record that was looked up
and does not exist is loaded as `null`.
-/

namespace AccessRules

/-- The context of a rule. -/
structure Context where
  user : Value
  authData : Value
  data : Value
  oldData : Value
  now : Value
  action : Value
  name : Value
  /-- The values of the path's variables, by position. -/
  pathValues : List String
  /-- The records that are loaded, by name. -/
  records : String → Option Value

namespace Context

/-- The context in which nothing is given. -/
def empty : Context where
  user := .undefined
  authData := .undefined
  data := .undefined
  oldData := .undefined
  now := .undefined
  action := .undefined
  name := .undefined
  pathValues := []
  records := fun _ => none

/-- The user id of a client that has not logged in. -/
def openUser : String := "open"

/-- The context of a user with the data of the login. -/
def withUser (context : Context) (id : String) (authData : Value) : Context :=
  { context with
    user := .object
      [("data", authData), ("id", .string id), ("isAuthenticated", .bool (id != openUser))]
    authData := authData }

/-- The context with a record loaded, in place of what is loaded under its name. -/
def insertRecord (context : Context) (name : String) (data : Value) : Context :=
  { context with
    records := fun other => if other = name then some data else context.records other }

/-- What a builtin reads as. -/
def builtin (context : Context) : Builtin → Value
  | .user => context.user
  | .authData => context.authData
  | .data => context.data
  | .oldData => context.oldData
  | .now => context.now
  | .action => context.action
  | .name => context.name

/-- What the variable at a position reads as. -/
def pathVariable (context : Context) (position : Nat) : Value :=
  match context.pathValues[position]? with
  | some text => .string text
  | none => .undefined

end Context

end AccessRules
