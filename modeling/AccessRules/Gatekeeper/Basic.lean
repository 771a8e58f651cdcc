import AccessRules.Cache.Timed
import AccessRules.Config.Basic
import AccessRules.Config.Options
import AccessRules.Gatekeeper.Decision

/-!
# Gatekeepers

A gatekeeper decides whether users may do what their messages ask for. It holds a configuration,
options and a cache of the rules that it has resolved. The cache saves work and changes no decision:
it is emptied with every new configuration.
-/

namespace AccessRules

/-- What decides on a name. -/
inductive Resolution where
  | fixed (allowed : Bool)
  | compiled (cached : CachedRule)

/-- What decides on a name, by a configuration alone: the default if no rule covers it. -/
def Config.resolve (config : Config) (defaultAllow : Bool) (key : CacheKey) :
    Except DecisionError Resolution :=
  match config.findRule? key.kind key.name key.ruleType with
  | none => .ok (.fixed defaultAllow)
  | some (_, .fixed allowed) => .ok (.fixed allowed)
  | some (path, .expression source) =>
      match Rule.check source key.kind key.ruleType with
      | .error error => .error (.ruleValidation error)
      | .ok tree =>
          match CompiledRule.ofExpr source path.template.variableNames tree with
          | .error error => .error (.compile error)
          | .ok rule => .ok (.compiled ⟨path.template, rule⟩)

/-- A gatekeeper. -/
structure Gatekeeper where
  config : Config
  options : Options
  cache : TimedCache

/-- What a decision comes to: its result, the gatekeeper after it, and what it looked up. -/
structure Ruling (σ : Type) where
  result : Except DecisionError Bool
  gatekeeper : Gatekeeper
  session : Session σ

namespace Gatekeeper

/-- Checks that a configuration can be used with the options. -/
def admits (options : Options) (config : Config) : Except ConfigError Unit :=
  if options.requireRootEntries then config.requireRootEntries else .ok ()

/-- A new gatekeeper. -/
def create (config : Config) (options : Options) : Except ConfigError Gatekeeper := do
  options.validate
  admits options config
  return ⟨config, options, TimedCache.empty⟩

/-- Puts another configuration in place, if it can be used, and then empties the cache. -/
def replaceConfig (config : Config) : ExceptT ConfigError (StateM Gatekeeper) Unit := do
  let gatekeeper ← get
  ofExcept (admits gatekeeper.options config)
  modify fun gatekeeper => { gatekeeper with config := config }
  modify fun gatekeeper => { gatekeeper with cache := gatekeeper.cache.reset }

/-- The gatekeeper with another configuration, if that can be used. -/
def useConfig (gatekeeper : Gatekeeper) (config : Config) : Except ConfigError Gatekeeper :=
  let (result, after) := (replaceConfig config).run.run gatekeeper
  result.map fun _ => after

/-- Starts a sweeper for the cache. -/
def startSweeper (gatekeeper : Gatekeeper) : Gatekeeper :=
  { gatekeeper with
    cache := gatekeeper.cache.startSweeper gatekeeper.options.cacheEvacuationInterval }

/-- Lets time pass. -/
def pass (gatekeeper : Gatekeeper) (duration : Nat) : Gatekeeper :=
  { gatekeeper with cache := gatekeeper.cache.pass duration }

/-- Sweeps the cache and tells how many rules were dropped. -/
def sweep (gatekeeper : Gatekeeper) : Nat × Gatekeeper :=
  let (dropped, cache) := gatekeeper.cache.sweep
  (dropped, { gatekeeper with cache })

/-- Fetches a rule from the cache. -/
def cached (gatekeeper : Gatekeeper) (key : CacheKey) : Option CachedRule × Gatekeeper :=
  let (found, cache) := gatekeeper.cache.get key
  (found, { gatekeeper with cache })

/-- What decides on a name: the rule in the cache, or what the configuration says, which goes into
the cache if it is a rule that had to be compiled. -/
def resolve (gatekeeper : Gatekeeper) (key : CacheKey) :
    Except DecisionError Resolution × Gatekeeper :=
  match gatekeeper.cached key with
  | (some cached, after) => (.ok (.compiled cached), after)
  | (none, after) =>
      match gatekeeper.config.resolve gatekeeper.options.defaultAllow key with
      | .ok (.compiled cached) =>
          (.ok (.compiled cached), { after with cache := after.cache.set key cached })
      | result => (result, after)

/-- Decides on a request. The time that lookups take passes for the gatekeeper, too. -/
def authorize {σ : Type} [RecordStore σ] (gatekeeper : Gatekeeper) (delay : String → Nat)
    (store : σ) (request : Request) : Ruling σ :=
  let message := request.message
  match gate message.topic message.action with
  | .ungated => ⟨.ok true, gatekeeper, .start store⟩
  | .unmapped =>
      ⟨.error (.unmappedAction message.topic message.action), gatekeeper, .start store⟩
  | .rule kind ruleType =>
      match gatekeeper.resolve ⟨kind, message.name, ruleType⟩ with
      | (.error error, after) => ⟨.error error, after, .start store⟩
      | (.ok (.fixed allowed), after) => ⟨.ok allowed, after, .start store⟩
      | (.ok (.compiled cached), after) =>
          let timing : Timing := ⟨delay, gatekeeper.options.evaluationTimeout⟩
          let (result, session) :=
            (Decision.byRule timing gatekeeper.options.maxRuleIterations request cached).run.run
              (.start store)
          ⟨result, after.pass session.elapsed, session⟩

end Gatekeeper

end AccessRules
