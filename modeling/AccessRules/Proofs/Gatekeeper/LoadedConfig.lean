import AccessRules.Proofs.Config.Loading
import AccessRules.Proofs.Gatekeeper.History
import AccessRules.Proofs.Gatekeeper.SingleRun
import AccessRules.Proofs.Gatekeeper.Throws

/-!
# Decisions by a loaded configuration

Loading checks and compiles every rule for the section, the rule type and the variables of the path
under which it is declared. A decision finds its rule under just those, so the check and the
compiler succeed once more, and nothing that comes after them fails for the text of a rule.
-/

namespace AccessRules

/-- Whether an error is about the text of a rule, whatever the rule is run on. -/
def DecisionError.isStatic : DecisionError → Bool
  | .ruleValidation _ => true
  | .compile _ => true
  | .unmappedAction _ _ => false
  | .iterationLimit => false
  | .evaluation _ _ _ => false
  | .dependencyFetch _ _ => false
  | .messageData _ => false
  | .timeout _ => false

/-! ### What a decision throws -/

namespace Decision

variable {σ : Type} [RecordStore σ]

theorem settle_throws (timing : Timing) (name : String) (rule : CompiledRule) :
    ∀ (runs : Nat) (context : Context),
      Deciding.Throws (settle timing name rule runs context : Deciding σ Bool)
        (fun error => error.isStatic = false)
  | 0, _ => .throw rfl
  | runs + 1, context => by
      rw [settle]
      cases rule.run context with
      | done value => exact .pure _
      | failed error => exact .throw rfl
      | needs names =>
          refine .bind (loadAll_throws timing (fun _ => rfl) (fun _ _ => rfl) names context) ?_
          exact fun context' => settle_throws timing name rule runs context'

/-- Whatever goes wrong while a rule decides, it is not the text of the rule. -/
theorem byRule_throws (timing : Timing) (maxRuns : Nat) (request : Request) (cached : CachedRule) :
    Deciding.Throws (byRule timing maxRuns request cached : Deciding σ Bool)
      (fun error => error.isStatic = false) := by
  rw [byRule]
  cases cached.rule.constant? with
  | some allowed => exact .pure allowed
  | none =>
      refine .bind ?_ fun context => settle_throws timing _ _ _ context
      exact prepare_throws timing request cached (fun _ => rfl) (fun _ _ => rfl) fun _ => rfl

end Decision

/-! ### What a loaded configuration resolves names to -/

/-- The configurations there are: those that have been loaded, and the one that declares nothing. -/
inductive Config.Usable : Config → Prop where
  | empty : Usable Config.empty
  | loaded {value : Json} {config : Config} (loads : ofJson value = .ok config) : Usable config

namespace Config

theorem Usable.paths_loaded {config : Config} (usable : config.Usable) (kind : Section) :
    ∀ path ∈ config.paths kind, path.Loaded kind := by
  cases usable with
  | loaded loads => exact loaded_of_ofJson loads kind
  | empty =>
      intro path member
      cases kind with
      | record | event | rpc => cases member

/-- Every name is resolved. -/
theorem Usable.resolve_eq_ok {config : Config} (usable : config.Usable) (defaultAllow : Bool)
    (key : CacheKey) : ∃ resolution, config.resolve defaultAllow key = .ok resolution := by
  rw [resolve]
  split
  · exact ⟨_, rfl⟩
  · exact ⟨_, rfl⟩
  · rename_i path source found
    obtain ⟨member, declared, _⟩ := findRule?_eq_some found
    obtain ⟨before, behind, split, _⟩ := List.lookup_eq_some_iff.mp declared
    have loaded := usable.paths_loaded key.kind path member
    obtain ⟨_, checked⟩ := loaded.rules (key.ruleType, .expression source) (by simp [split])
    obtain ⟨tree, rule, passes, compiles⟩ := exists_of_checkRule checked
    simp only [passes, compiles]
    exact ⟨_, rfl⟩

end Config

namespace Gatekeeper

variable {σ : Type} [RecordStore σ] {options : Options} {gatekeeper : Gatekeeper}

/-- Whatever has happened to a gatekeeper, with a loaded configuration it never finds at the time of
a decision that the text of a rule is wrong. -/
theorem authorize_not_static_error (reached : Reached σ options gatekeeper)
    (usable : gatekeeper.config.Usable) (delay : String → Nat) (store : σ) (request : Request) :
    (∀ cause, (gatekeeper.authorize delay store request).result ≠ .error (.ruleValidation cause))
      ∧ ∀ cause, (gatekeeper.authorize delay store request).result ≠ .error (.compile cause) := by
  have notStatic (error : DecisionError)
      (fails : (gatekeeper.authorize delay store request).result = .error error) :
      error.isStatic = false := by
    cases gated : gate request.message.topic request.message.action with
    | ungated =>
        simp only [authorize, gated] at fails
        cases fails
    | unmapped =>
        simp only [authorize, gated] at fails
        cases fails
        rfl
    | rule kind ruleType =>
        rw [reached.faithful.authorize_eq delay store gated] at fails
        obtain ⟨resolution, resolved⟩ := usable.resolve_eq_ok options.defaultAllow
          ⟨kind, request.message.name, ruleType⟩
        rw [resolved] at fails
        cases resolution with
        | fixed allowed => cases fails
        | compiled cached =>
            exact Decision.byRule_throws _ _ request cached (.start store) error fails
  refine ⟨?_, ?_⟩
  · intro cause fails
    cases notStatic _ fails
  · intro cause fails
    cases notStatic _ fails

/-- The configuration of doors as it is declared. -/
def doorDocument : Json :=
  .object [("record", .object [("door/$id", .object
      [("write", .string "_(_(name).key).owner === user.id && data.key")])]),
    ("event", .object []), ("rpc", .object [])]

theorem ofJson_doorDocument : Config.ofJson doorDocument = .ok doorkeeper.config := by
  have loads : (Config.ofJson doorDocument).toOption = some doorkeeper.config := by decide +kernel
  cases loaded : Config.ofJson doorDocument with
  | error error =>
      rw [loaded] at loads
      cases loads
  | ok config =>
      rw [loaded] at loads
      cases loads
      rfl

/-- With the rule in the cache, a door that does not exist makes it fail, but not for its text. -/
theorem authorize_not_static_error_doorkeeper :
    (((doorkeeper.after (.authorize (fun _ => 0) doorStore doorRequest)).authorize (fun _ => 0)
        Store.empty doorRequest).result.toOption = none)
      ∧ ∀ cause, ((doorkeeper.after (.authorize (fun _ => 0) doorStore doorRequest)).authorize
        (fun _ => 0) Store.empty doorRequest).result ≠ .error (.compile cause) := by
  have fails : ((doorkeeper.after (.authorize (fun _ => 0) doorStore doorRequest)).authorize
      (fun _ => 0) Store.empty doorRequest).result.toOption = none := by decide +kernel
  have reached : Reached Store Options.default
      (doorkeeper.after (.authorize (fun _ => 0) doorStore doorRequest)) :=
    ⟨_, doorkeeper, [.authorize (fun _ => 0) doorStore doorRequest],
      create_eq_ok_iff.mpr ⟨rfl, rfl, rfl⟩, rfl⟩
  have sameConfig : (doorkeeper.after (.authorize (fun _ => 0) doorStore doorRequest)).config
      = doorkeeper.config := by decide +kernel
  have usable : Config.Usable
      (doorkeeper.after (.authorize (fun _ => 0) doorStore doorRequest)).config := by
    rw [sameConfig]
    exact .loaded ofJson_doorDocument
  exact ⟨fails, (authorize_not_static_error reached usable _ _ _).2⟩

end Gatekeeper

end AccessRules
