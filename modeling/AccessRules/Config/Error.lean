import AccessRules.Code.Compile
import AccessRules.Code.Method
import AccessRules.Kind
import AccessRules.Path.Template
import AccessRules.Rule.Source

/-!
# Errors of configurations

Why a configuration or a set of options cannot be used.
-/

namespace AccessRules

/-- Why a configuration or a set of options cannot be used. -/
inductive ConfigError where
  | notAnObject (found : String)
  | missingSection (kind : Section)
  | unexpectedSection (name : String)
  | sectionNotAnObject (kind : Section) (found : String)
  | emptySection (kind : Section)
  | missingRootEntry (kind : Section)
  | invalidPath (path : String) (kind : Section) (error : PathError)
  | notARuleMap (path : String) (kind : Section)
  | unknownRuleType (name : String) (kind : Section)
  | invalidRule (error : RuleError)
  | compile (path : String) (kind : Section) (ruleType : RuleType) (error : CompileError)
  | maxRuleIterations
  | cacheEvacuationInterval
  | invalidJson
  | unreadable

/-- The message of a configuration error. -/
def ConfigError.message : ConfigError → String
  | .notAnObject found => "config should be an object literal, but was of type " ++ found
  | .missingSection kind => "missing configuration section \"" ++ kind.name ++ "\""
  | .unexpectedSection name => "unexpected configuration section \"" ++ name ++ "\""
  | .sectionNotAnObject kind found =>
      "section \"" ++ kind.name ++ "\" should be an object literal, but was of type " ++ found
  | .emptySection kind => "empty section \"" ++ kind.name ++ "\""
  | .missingRootEntry kind => "missing root entry \"*\" for section " ++ kind.name
  | .invalidPath path kind error =>
      error.message ++ " for path " ++ path ++ " in section " ++ kind.name
  | .notARuleMap path kind =>
      "path " ++ path ++ " in section " ++ kind.name ++ " must map rule types to rules"
  | .unknownRuleType name kind => "unknown rule type " ++ name ++ " in section " ++ kind.name
  | .invalidRule error => error.message
  | .compile path kind ruleType error =>
      error.message ++ " in rule " ++ ruleType.name ++ " for path " ++ path ++ " in section "
        ++ kind.name
  | .maxRuleIterations => "Maximum rule iteration has to be at least one"
  | .cacheEvacuationInterval => "cache evacuation interval has to be at least one millisecond"
  | .invalidJson => "invalid config json: " ++ withheldReason
  | .unreadable => withheldReason

end AccessRules
