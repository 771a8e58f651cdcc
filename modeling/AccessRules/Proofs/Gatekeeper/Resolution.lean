import AccessRules.Gatekeeper.Basic

/-!
# What decides on a name

A name is resolved to a rule by the first path of the configuration that declares one and matches.
What is resolved is all that a decision takes from the configuration.
-/

namespace AccessRules

/-- The rule that the configuration yields under a key, for the first path that matches. -/
def Config.Yields (config : Config) (key : CacheKey) (cached : CachedRule) : Prop :=
  ∃ path source tree,
    config.findRule? key.kind key.name key.ruleType = some (path, .expression source)
      ∧ path.template = cached.template
      ∧ Rule.check source key.kind key.ruleType = .ok tree
      ∧ CompiledRule.ofExpr source cached.template.variableNames tree = .ok cached.rule

/-- Whether the rule under a key refers to an identifier. -/
def Config.RefersTo (config : Config) (key : CacheKey) (identifier : String) : Prop :=
  ∃ path source tree,
    config.findRule? key.kind key.name key.ruleType = some (path, .expression source)
      ∧ Expr.parse source = .ok tree ∧ tree.references identifier = true

/-- A rule that passes the check is parsed to the tree that the check gives. -/
theorem Rule.parse_of_check {source : String} {kind : Section} {ruleType : RuleType} {tree : Expr}
    (checked : check source kind ruleType = .ok tree) : Expr.parse source = .ok tree := by
  simp only [check] at checked
  repeat' split at checked
  all_goals cases checked
  assumption

namespace Config

/-- The path of a rule that is found is a path of the section, declares the rule and matches. -/
theorem findRule?_eq_some {config : Config} {kind : Section} {name : String} {ruleType : RuleType}
    {path : PathRules} {rule : RuleSource}
    (found : config.findRule? kind name ruleType = some (path, rule)) :
    path ∈ config.paths kind ∧ path.rule? ruleType = some rule
      ∧ path.template.isMatch name = true := by
  obtain ⟨path', member, decides⟩ := List.exists_of_findSome?_eq_some found
  cases declared : path'.rule? ruleType with
  | none => simp [declared] at decides
  | some rule' =>
      simp only [declared] at decides
      split at decides
      · rename_i isMatch
        cases decides
        exact ⟨member, declared, isMatch⟩
      · cases decides

/-- A rule that is yielded comes with a template that matches the name. -/
theorem Yields.isMatch {config : Config} {key : CacheKey} {cached : CachedRule}
    (yields : config.Yields key cached) : cached.template.isMatch key.name = true := by
  obtain ⟨path, source, tree, found, same, _, _⟩ := yields
  rw [← same]
  exact (findRule?_eq_some found).2.2

/-- A rule that is yielded is compiled from a tree that refers to what the rule refers to. -/
theorem Yields.exists_tree {config : Config} {key : CacheKey} {cached : CachedRule}
    (yields : config.Yields key cached) {identifier : String}
    (unread : ¬ config.RefersTo key identifier) :
    ∃ source tree, CompiledRule.ofExpr source cached.template.variableNames tree = .ok cached.rule
      ∧ tree.references identifier = false := by
  obtain ⟨path, source, tree, found, _, checked, compiled⟩ := yields
  refine ⟨source, tree, compiled, ?_⟩
  cases refers : tree.references identifier with
  | false => rfl
  | true => exact absurd ⟨path, source, tree, found, Rule.parse_of_check checked, refers⟩ unread

/-- What is yielded is what is resolved to a rule that had to be compiled. -/
theorem resolve_eq_compiled_iff (config : Config) (defaultAllow : Bool) (key : CacheKey)
    (cached : CachedRule) :
    config.resolve defaultAllow key = .ok (.compiled cached) ↔ config.Yields key cached := by
  constructor
  · intro resolved
    rw [resolve] at resolved
    split at resolved
    · cases resolved
    · cases resolved
    · rename_i path source found
      split at resolved
      · cases resolved
      · rename_i tree checked
        split at resolved
        · cases resolved
        · rename_i rule compiled
          cases resolved
          exact ⟨path, source, tree, found, rfl, checked, compiled⟩
  · rintro ⟨path, source, tree, found, same, checked, compiled⟩
    simp only [resolve, found, checked, same, compiled]

end Config

/-- Whether what decides on a name is a rule that has to be run. -/
def Resolution.needsRun : Resolution → Bool
  | .fixed _ => false
  | .compiled cached => cached.rule.constant?.isNone

/-- What a request comes to by what decides on its name: the result, and the session after it. -/
def Resolution.decide {σ : Type} [RecordStore σ] (options : Options) (delay : String → Nat)
    (store : σ) (request : Request) :
    Except DecisionError Resolution → Except DecisionError Bool × Session σ
  | .error error => (.error error, .start store)
  | .ok (.fixed allowed) => (.ok allowed, .start store)
  | .ok (.compiled cached) =>
      (Decision.byRule ⟨delay, options.evaluationTimeout⟩ options.maxRuleIterations request
        cached).run.run (.start store)

/-- A request that is gated by a rule is decided by what its name is resolved to. -/
theorem Gatekeeper.authorize_rule {σ : Type} [RecordStore σ] (gatekeeper : Gatekeeper)
    (delay : String → Nat) (store : σ) {request : Request} {kind : Section} {ruleType : RuleType}
    (gated : gate request.message.topic request.message.action = .rule kind ruleType) :
    ((gatekeeper.authorize delay store request).result,
        (gatekeeper.authorize delay store request).session)
      = Resolution.decide gatekeeper.options delay store request
          (gatekeeper.resolve ⟨kind, request.message.name, ruleType⟩).1 := by
  simp only [authorize, gated]
  rcases gatekeeper.resolve ⟨kind, request.message.name, ruleType⟩ with
    ⟨error | (allowed | cached), after⟩
  · rfl
  · rfl
  · rfl

/-! ### Doors and their keys

An example. Who may fit a door with another key depends on the record of its key, whose name stands
in the record of the door. The first run fails on the missing door and the second on the missing
key, both for want of a record. -/

namespace Gatekeeper

/-- The rule on doors. -/
def doorPath : PathRules where
  template := ⟨"door/$id", Path.pieces "door/$id".toList⟩
  rules := [(.write, .expression "_(_(name).key).owner === user.id && data.key")]

/-- A door with its key. -/
def doorStore : Store :=
  (Store.empty.set "door/1" (.object [("key", .string "key/7")])).set "key/7"
    (.object [("owner", .string "ann")])

/-- The owner of the key fits the door with another one. -/
def doorRequest : Request where
  user := "ann"
  authData := .null
  message := ⟨.record, .update, "door/1", some "\x7b\"key\":\"key/8\"\x7d", none⟩
  now := 0

end Gatekeeper

end AccessRules
