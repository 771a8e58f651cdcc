import AccessRules.Config.Error
import AccessRules.Json.Parser

/-!
# Options

The settings of a gatekeeper. They are read from JSON by name, or as values in their order; what is
not given keeps its default, and nothing else may be given.
-/

namespace AccessRules

/-- The settings of a gatekeeper; durations are in milliseconds. -/
structure Options where
  /-- How often the rule cache is swept. -/
  cacheEvacuationInterval : Nat
  /-- How often a rule may be run for one decision. -/
  maxRuleIterations : Nat
  /-- The decision on names that no rule covers. -/
  defaultAllow : Bool
  /-- How long one decision may take. -/
  evaluationTimeout : Option Nat
  /-- Whether every section has to declare the root path. -/
  requireRootEntries : Bool
deriving DecidableEq, Repr

namespace Options

/-- The options when nothing is given. -/
def default : Options := ⟨60000, 3, true, none, false⟩

/-- Checks options: rules may be run at least once, and the cache is not swept all the time. -/
def validate (options : Options) : Except ConfigError Unit :=
  if options.maxRuleIterations < 1 then .error .maxRuleIterations
  else if options.cacheEvacuationInterval = 0 then .error .cacheEvacuationInterval
  else .ok ()

/-- A natural number below a bound, written as an integer. -/
def natural? (bound : Nat) : Json → Option Nat
  | .number (.natural number) => if number < bound then some number else none
  | _ => none

/-- A boolean. -/
def bool? : Json → Option Bool
  | .bool truth => some truth
  | _ => none

/-- A number of milliseconds. -/
def milliseconds? : Json → Option Nat :=
  natural? UInt64.size

/-- A number of milliseconds, or `null` for none. -/
def optionalMilliseconds? : Json → Option (Option Nat)
  | .null => some none
  | value => (milliseconds? value).map some

/-- The options with one of them set, by its key. -/
def set? (options : Options) (key : String) (value : Json) : Option Options :=
  match key with
  | "cacheEvacuationInterval" =>
      (milliseconds? value).map fun interval => { options with cacheEvacuationInterval := interval }
  | "maxRuleIterations" =>
      (natural? UInt32.size value).map fun runs => { options with maxRuleIterations := runs }
  | "defaultAllow" => (bool? value).map fun allowed => { options with defaultAllow := allowed }
  | "evaluationTimeout" =>
      (optionalMilliseconds? value).map fun timeout => { options with evaluationTimeout := timeout }
  | "requireRootEntries" =>
      (bool? value).map fun required => { options with requireRootEntries := required }
  | _ => none

/-- The keys of the options, in their order. -/
def keys : List String :=
  ["cacheEvacuationInterval", "maxRuleIterations", "defaultAllow", "evaluationTimeout",
    "requireRootEntries"]

/-- The options with several of them set, none twice. -/
def setAll? (options : Options) (seen : List String) : List (String × Json) → Option Options
  | [] => some options
  | (key, value) :: rest =>
      if seen.contains key then none
      else (set? options key value).bind fun options => setAll? options (key :: seen) rest

/-- The options in a JSON value whose repeated keys have not been merged. -/
def ofJson? : Json → Option Options
  | .object fields => setAll? default [] fields
  | .array items =>
      if items.length ≤ keys.length then setAll? default [] (keys.zip items) else none
  | _ => none

/-- The options in a text, checked. -/
def parse (text : String) : Except ConfigError Options :=
  match (Json.parseUnmerged? text).bind ofJson? with
  | none => .error .invalidJson
  | some options =>
      match options.validate with
      | .ok _ => .ok options
      | .error error => .error error

end Options

end AccessRules
