import AccessRules.Config.Error
import AccessRules.Json.Parser
import AccessRules.Rule.Check

/-!
# Configurations

A configuration declares, per section, path templates with rules for some rule types. The order of
the declarations counts: the first path that matches a name and declares the rule type decides.
Loading checks and compiles every rule once, so that nothing of it can fail later on.
-/

namespace AccessRules

/-- A path with the rules declared under it. -/
structure PathRules where
  template : Path.Template
  rules : List (RuleType × RuleSource)
deriving DecidableEq, Repr

/-- A configuration: the paths of each section. -/
structure Config where
  record : List PathRules
  event : List PathRules
  rpc : List PathRules
deriving DecidableEq, Repr

/-- The path that every section declares when root entries are required. -/
def rootPath : String := "*"

/-- The rule a path declares for a rule type. -/
def PathRules.rule? (path : PathRules) (ruleType : RuleType) : Option RuleSource :=
  path.rules.lookup ruleType

namespace Config

/-- The configuration that declares nothing. -/
def empty : Config := ⟨[], [], []⟩

/-- The paths of a section. -/
def paths (config : Config) : Section → List PathRules
  | .record => config.record
  | .event => config.event
  | .rpc => config.rpc

/-- The first path that declares the rule type and matches the name, with its rule. -/
def findRule? (config : Config) (kind : Section) (name : String) (ruleType : RuleType) :
    Option (PathRules × RuleSource) :=
  (config.paths kind).findSome? fun path =>
    match path.rule? ruleType with
    | some rule => if path.template.isMatch name then some (path, rule) else none
    | none => none

/-- Whether every section declares something and the root path among it. -/
def requireRootEntries (config : Config) : Except ConfigError Unit :=
  Section.all.forM fun kind =>
    if (config.paths kind).isEmpty then .error (.emptySection kind)
    else if (config.paths kind).any fun path => path.template.raw == rootPath then .ok ()
    else .error (.missingRootEntry kind)

/-! ## Loading -/

/-- Checks and compiles the text of a rule. -/
def checkRule (kind : Section) (path : String) (pathNames : List String) (ruleType : RuleType) :
    RuleSource → Except ConfigError Unit
  | .fixed _ => .ok ()
  | .expression source =>
      match Rule.check source kind ruleType with
      | .error error => .error (.invalidRule error)
      | .ok tree =>
          match CompiledRule.ofExpr source pathNames tree with
          | .error error => .error (.compile path kind ruleType error)
          | .ok _ => .ok ()

/-- One declared rule: its type and its source. -/
def loadRule (kind : Section) (path : String) (pathNames : List String) (key : String)
    (value : Json) : Except ConfigError (RuleType × RuleSource) :=
  match (RuleType.ofName? key).filter kind.supports with
  | none => .error (.unknownRuleType key kind)
  | some ruleType =>
      match RuleSource.ofJson value with
      | .error error => .error (.invalidRule error)
      | .ok rule => do
          checkRule kind path pathNames ruleType rule
          return (ruleType, rule)

/-- One declared path with its rules. -/
def loadPath (kind : Section) (path : String) (value : Json) : Except ConfigError PathRules :=
  match Path.Template.parse path with
  | .error error => .error (.invalidPath path kind error)
  | .ok template =>
      match value with
      | .object fields => do
          let rules ← fields.mapM fun (key, value) =>
            loadRule kind path template.variableNames key value
          return ⟨template, rules⟩
      | _ => .error (.notARuleMap path kind)

/-- The paths of one section. -/
def loadSection (kind : Section) (value : Json) : Except ConfigError (List PathRules) :=
  match value with
  | .object fields => fields.mapM fun (path, value) => loadPath kind path value
  | value => .error (.sectionNotAnObject kind value.typeName)

/-- Checks that a configuration has the three sections and nothing else. -/
def checkSections (fields : List (String × Json)) : Except ConfigError Unit :=
  match Section.all.find? fun kind => (fields.lookup kind.name).isNone with
  | some kind => .error (.missingSection kind)
  | none =>
      match fields.find? fun field => (Section.ofName? field.1).isNone with
      | some field => .error (.unexpectedSection field.1)
      | none => .ok ()

/-- The configuration that a JSON value declares. -/
def ofJson (value : Json) : Except ConfigError Config :=
  match value with
  | .object fields => do
      checkSections fields
      let load (kind : Section) : Except ConfigError (List PathRules) :=
        loadSection kind ((fields.lookup kind.name).getD .null)
      let record ← load .record
      let event ← load .event
      let rpc ← load .rpc
      return ⟨record, event, rpc⟩
  | value => .error (.notAnObject value.typeName)

/-- The configuration in a text. -/
def parse (text : String) : Except ConfigError Config :=
  match Json.parse? text with
  | none => .error .invalidJson
  | some value => ofJson value

/-- The configuration in the bytes of a file, if it could be read. -/
def ofFile (contents : Option ByteArray) : Except ConfigError Config :=
  match contents.bind String.fromUTF8? with
  | none => .error .unreadable
  | some text => parse text

end Config

end AccessRules
